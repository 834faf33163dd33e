import Lanewise.Proofs.Expression.Basic

/-!
# The grammar of expressions

Which tokens an expression may be written with: a sum of products of signed operands, where sums and
products associate to the left and an operand is a number, a name, a member, a call or something in
parentheses. The reader finds the expression of tokens that are written by this grammar, so no text
is a text of two expressions.
-/

namespace Lanewise

/-- The mark of an operator. -/
def Operator.mark : Operator → Char
  | add => '+'
  | sub => '-'
  | mul => '*'
  | div => '/'

/-- The mark of a sign. -/
def Sign.mark : Sign → Char
  | plus => '+'
  | minus => '-'

namespace Expression

/-- The kinds of phrases. Each of the first four is also one of the kind before it. -/
inductive Phrase where
  | sum
  | product
  | signed
  | primary
  /-- A call with some of its arguments, the parenthesis of which is not closed yet. -/
  | openCall

/-- What stands between the arguments of a call and the next one. -/
def separator : List (Option String × Expression) → List Token
  | [] => []
  | _ :: _ => [.mark ',']

/-- How a label is written. -/
def labelTokens : Option String → List Token
  | none => []
  | some text => [.word text, .mark ':']

/-- The tokens that an expression is written with as a phrase of some kind. -/
inductive Written : Phrase → Expression → List Token → Prop
  | number (literal : List Char) : Written .primary (.number literal) [.number literal]
  | name (text : String) : Written .primary (.name text) [.word text]
  | member {base : Expression} {ts : List Token} (h : Written .primary base ts) (field : String) :
    Written .primary (.member base field) (ts ++ [.mark '.', .word field])
  | parenthesized {inner : Expression} {ts : List Token} (h : Written .sum inner ts) :
    Written .primary (.parenthesized inner) (.mark '(' :: ts ++ [.mark ')'])
  | opening {function : Expression} {ts : List Token} (h : Written .primary function ts) :
    Written .openCall (.call function []) (ts ++ [.mark '('])
  | argument {function e : Expression} {arguments : List (Option String × Expression)}
    {ts ts' : List Token} (h : Written .openCall (.call function arguments) ts)
    (label : Option String) (h' : Written .sum e ts') :
    Written .openCall (.call function (arguments ++ [(label, e)]))
      (ts ++ separator arguments ++ labelTokens label ++ ts')
  | closing {function : Expression} {arguments : List (Option String × Expression)}
    {ts : List Token} (h : Written .openCall (.call function arguments) ts) :
    Written .primary (.call function arguments) (ts ++ [.mark ')'])
  | ofPrimary {e : Expression} {ts : List Token} (h : Written .primary e ts) : Written .signed e ts
  | signed (sign : Sign) {e : Expression} {ts : List Token} (h : Written .signed e ts) :
    Written .signed (.signed sign e) (.mark sign.mark :: ts)
  | ofSigned {e : Expression} {ts : List Token} (h : Written .signed e ts) : Written .product e ts
  | product {operator : Operator} (rank : operator.rank = 2) {left right : Expression}
    {ts ts' : List Token} (h : Written .product left ts) (h' : Written .signed right ts') :
    Written .product (.binary operator left right) (ts ++ .mark operator.mark :: ts')
  | ofProduct {e : Expression} {ts : List Token} (h : Written .product e ts) : Written .sum e ts
  | sum {operator : Operator} (rank : operator.rank = 1) {left right : Expression}
    {ts ts' : List Token} (h : Written .sum left ts) (h' : Written .product right ts') :
    Written .sum (.binary operator left right) (ts ++ .mark operator.mark :: ts')

/-- Whether a text is one of an expression. -/
def IsTextOf (e : Expression) (text : String) : Prop :=
  ∃ ts, Token.ofCharsAfter [] text.toList = some ts ∧ Written .sum e ts

/-! ## Reading what is written -/

/-- The tightest operators that may follow a phrase. -/
def Phrase.rank : Phrase → Nat
  | sum => 1
  | _ => 2

/-- What may follow a phrase of some kind. -/
inductive Follows : Phrase → List Token → Prop
  | nil (phrase : Phrase) : Follows phrase []
  | closing (phrase : Phrase) (rest : List Token) : Follows phrase (.mark ')' :: rest)
  | comma (phrase : Phrase) (rest : List Token) : Follows phrase (.mark ',' :: rest)
  | operator {phrase : Phrase} {operator : Operator} (h : operator.rank ≤ phrase.rank)
    (rest : List Token) : Follows phrase (.mark operator.mark :: rest)
  | point (rest : List Token) : Follows .primary (.mark '.' :: rest)
  | opening (rest : List Token) : Follows .primary (.mark '(' :: rest)

/-- Whether a phrase of some kind may start on top of a stack: nothing on it waits for an operand
that the phrase could be the left part of. -/
def Opens : Phrase → List Pending → Prop
  | .sum, stack => ∀ rank e, complete rank e stack = (e, stack)
  | .product, stack => ∀ e, complete 2 e stack = (e, stack)
  | _, _ => True

/-- What the reader makes of the tokens of a phrase. -/
def ReadsAs : Phrase → Expression → List Token → Prop
  | .openCall, .call function arguments, ts => ∀ stack rest,
    readOperand stack (ts ++ (separator arguments ++ rest)) =
        readOperand (.argument function arguments none :: stack) rest ∧
      readOperand stack (ts ++ .mark ')' :: rest) =
        readAfter (.call function arguments) stack rest
  | phrase, e, ts => ∀ stack rest, Opens phrase stack → Follows phrase rest →
    readOperand stack (ts ++ rest) = readAfter e stack rest

theorem readAfter_operator (operator : Operator) (e : Expression) (stack : List Pending)
    (rest : List Token) :
    readAfter e stack (.mark operator.mark :: rest) =
      readOperand (.operand (complete operator.rank e stack).1 operator ::
        (complete operator.rank e stack).2) rest := by
  cases operator <;> rfl

/-- What follows a phrase depends on what is completed in front of it. -/
theorem Follows.readAfter_congr {phrase : Phrase} {rest : List Token} (h : Follows phrase rest)
    (hphrase : phrase ≠ .primary) {e e' : Expression} {stack stack' : List Pending}
    (hcomplete : ∀ rank ≤ phrase.rank, complete rank e stack = complete rank e' stack') :
    readAfter e stack rest = readAfter e' stack' rest := by
  have hall := hcomplete 0 (Nat.zero_le _)
  cases h with
  | nil => rw [readAfter, readAfter, hall]
  | closing => rw [readAfter, readAfter, hall]
  | comma => rw [readAfter, readAfter, hall]
  | operator hrank => rw [readAfter_operator, readAfter_operator, hcomplete _ hrank]
  | point => exact absurd rfl hphrase
  | opening => exact absurd rfl hphrase

theorem Follows.ofPrimary {phrase : Phrase} {rest : List Token} (h : Follows phrase rest) :
    Follows .primary rest := by
  cases h with
  | nil => exact .nil _
  | closing => exact .closing _ _
  | comma => exact .comma _ _
  | @operator _ operator hrank =>
    have hle : operator.rank ≤ 2 := by cases operator <;> decide
    exact .operator hle _
  | point => exact .point _
  | opening => exact .opening _

/-- What may follow a phrase may follow a tighter one, unless that is a primary one. -/
theorem Follows.mono {phrase phrase' : Phrase} {rest : List Token} (h : Follows phrase rest)
    (hrank : phrase.rank ≤ phrase'.rank) (hphrase : phrase ≠ .primary := by simp) :
    Follows phrase' rest := by
  cases h with
  | nil => exact .nil _
  | closing => exact .closing _ _
  | comma => exact .comma _ _
  | operator hle => exact .operator (Nat.le_trans hle hrank) _
  | point => exact absurd rfl hphrase
  | opening => exact absurd rfl hphrase

theorem Follows.head?_ne {phrase : Phrase} {rest : List Token} (h : Follows phrase rest) :
    rest.head? ≠ some (.mark ':') := by
  cases h with
  | @operator _ operator _ rest =>
    rw [List.head?_cons]
    cases operator <;> decide
  | _ => simp

/-- A name is no label if no colon follows. -/
theorem readOperand_word {rest : List Token} (h : Follows .primary rest) (text : String)
    (stack : List Pending) :
    readOperand stack (.word text :: rest) = readAfter (.name text) stack rest := by
  rw [readOperand]
  rintro rest' _ _ _ rfl
  exact absurd rfl h.head?_ne

theorem readOperand_label (function : Expression) (arguments : List (Option String × Expression))
    (label : Option String) (stack : List Pending) (rest : List Token) :
    readOperand (.argument function arguments none :: stack) (labelTokens label ++ rest) =
      readOperand (.argument function arguments label :: stack) rest := by
  cases label with
  | none => rfl
  | some text => rfl

/-- A stack that ends in an open parenthesis or call waits for a whole sum. -/
theorem opens_sum_argument (function : Expression) (arguments : List (Option String × Expression))
    (label : Option String) (stack : List Pending) :
    Opens .sum (.argument function arguments label :: stack) := fun _ _ => rfl

theorem complete_operand {rank : Nat} {operator : Operator} (h : rank ≤ operator.rank)
    (left e : Expression) (stack : List Pending) :
    complete rank e (.operand left operator :: stack) =
      complete rank (.binary operator left e) stack := by
  rw [complete, if_pos h]

/-- The reader finds what is written. -/
theorem Written.readsAs {phrase : Phrase} {e : Expression} {ts : List Token}
    (h : Written phrase e ts) : ReadsAs phrase e ts := by
  induction h with
  | number literal => exact fun stack rest _ _ => rfl
  | name text => exact fun stack rest _ hfollows => readOperand_word hfollows text stack
  | @member base ts h field ih =>
    intro stack rest _ _
    have hread := ih stack (.mark '.' :: .word field :: rest) trivial (.point _)
    rw [List.append_assoc, List.cons_append, List.singleton_append, hread]
    rfl
  | @parenthesized inner ts h ih =>
    intro stack rest _ _
    have hopen : readOperand stack (.mark '(' :: (ts ++ .mark ')' :: rest)) =
        readOperand (.parenthesis :: stack) (ts ++ .mark ')' :: rest) := rfl
    rw [List.cons_append, List.cons_append, List.append_assoc, List.singleton_append, hopen,
      ih _ _ (fun _ _ => rfl) (.closing _ _)]
    rfl
  | @opening function ts h ih =>
    intro stack rest
    have hread : ∀ rest, readOperand stack (ts ++ .mark '(' :: rest) =
        readOperand (.argument function [] none :: stack) rest := by
      intro rest
      rw [ih stack _ trivial (.opening rest)]
      rfl
    rw [List.append_assoc, List.append_assoc, List.singleton_append, List.singleton_append, hread,
      hread]
    exact ⟨rfl, rfl⟩
  | @argument function e arguments ts ts' h label h' ih ih' =>
    intro stack rest
    have hread : ∀ rest, Follows .sum rest →
        readOperand stack (ts ++ separator arguments ++ labelTokens label ++ ts' ++ rest) =
          readAfter e (.argument function arguments label :: stack) rest := by
      intro rest hfollows
      rw [List.append_assoc, List.append_assoc, List.append_assoc, (ih stack _).1,
        readOperand_label, ih' _ _ (opens_sum_argument _ _ _ _) hfollows]
    have hseparator : separator (arguments ++ [(label, e)]) = [.mark ','] := by
      cases arguments <;> rfl
    rw [hseparator, List.singleton_append, hread _ (.comma _ _), hread _ (.closing _ _)]
    exact ⟨rfl, rfl⟩
  | closing h ih =>
    intro stack rest _ _
    rw [List.append_assoc]
    exact (ih stack rest).2
  | ofPrimary h ih => exact fun stack rest _ hfollows => ih stack rest trivial hfollows.ofPrimary
  | @signed sign e ts h ih =>
    intro stack rest _ hfollows
    have hsign : readOperand stack (.mark sign.mark :: (ts ++ rest)) =
        readOperand (.sign sign :: stack) (ts ++ rest) := by
      cases sign <;> rfl
    rw [List.cons_append, hsign, ih _ _ trivial hfollows]
    exact hfollows.readAfter_congr (by simp) fun rank _ => rfl
  | ofSigned h ih =>
    intro stack rest _ hfollows
    exact ih stack rest trivial (hfollows.mono (Nat.le_refl 2))
  | @product operator rank left right ts ts' h h' ih ih' =>
    intro stack rest hopens hfollows
    have hleft := ih stack (.mark operator.mark :: (ts' ++ rest)) hopens
      (.operator (Nat.le_of_eq rank) _)
    have hright := ih' (.operand left operator :: stack) rest trivial
      (hfollows.mono (Nat.le_refl 2))
    rw [List.append_assoc, List.cons_append, hleft, readAfter_operator, rank, hopens, hright]
    refine hfollows.readAfter_congr (by simp) fun k hk => complete_operand ?_ _ _ _
    rw [rank]
    exact hk
  | ofProduct h ih =>
    intro stack rest hopens hfollows
    exact ih stack rest (hopens 2) (hfollows.mono (by decide))
  | @sum operator rank left right ts ts' h h' ih ih' =>
    intro stack rest hopens hfollows
    have hleft := ih stack (.mark operator.mark :: (ts' ++ rest)) hopens
      (.operator (Nat.le_of_eq rank) _)
    have hwaits : Opens .product (.operand left operator :: stack) := by
      intro e
      rw [complete, if_neg (by omega)]
    have hright := ih' (.operand left operator :: stack) rest hwaits (hfollows.mono (by decide))
    rw [List.append_assoc, List.cons_append, hleft, readAfter_operator, rank, hopens, hright]
    refine hfollows.readAfter_congr (by simp) fun k hk => complete_operand ?_ _ _ _
    rw [rank]
    exact hk

/-- A text of an expression is read as that expression. -/
theorem IsTextOf.ofText? {e : Expression} {text : String} (h : e.IsTextOf text) :
    ofText? text = some e := by
  obtain ⟨ts, htokens, hwritten⟩ := h
  have hread := hwritten.readsAs [] [] (fun _ _ => rfl) (.nil _)
  rw [List.append_nil] at hread
  rw [Expression.ofText?, ofChars?, htokens, Option.bind_some, hread]
  rfl

/-- No text is one of two expressions. -/
theorem IsTextOf.unique {e e' : Expression} {text : String} (h : e.IsTextOf text)
    (h' : e'.IsTextOf text) : e = e' :=
  Option.some.inj (h.ofText?.symm.trans h'.ofText?)

end Expression

end Lanewise
