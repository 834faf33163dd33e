import Lanewise.Proofs.Expression.Grammar
import Lanewise.Proofs.Expression.Token
import Lanewise.Proofs.Formula.Scaling

/-!
# Where a sum is seen

The characters of an expression are looked through for a sign behind an operand outside all
parentheses. Every phrase closes the parentheses that it opens and ends with a character that ends
an operand, so the operator of a sum is always seen: an expression in which none is seen is a
product.
-/

namespace Lanewise

open Expression

namespace Token

/-- Whether a sum stands outside all parentheses, at the given depth and behind an operand or not.
-/
def hasSumAfter (depth : Int) (operand : Bool) : List Token → Bool
  | [] => false
  | .mark c :: rest =>
    if c = '(' then hasSumAfter (depth + 1) false rest
    else if c = ')' then hasSumAfter (depth - 1) true rest
    else if (c = '+' ∨ c = '-') ∧ depth = 0 ∧ operand then true
    else hasSumAfter depth (Formula.endsOperand c) rest
  | _ :: rest => hasSumAfter depth true rest

section

variable {depth : Int} {operand : Bool} {ts : List Token}

theorem hasSumAfter_opening (depth : Int) (operand : Bool) (rest : List Token) :
    hasSumAfter depth operand (.mark '(' :: rest) = hasSumAfter (depth + 1) false rest := rfl

theorem hasSumAfter_closing (depth : Int) (operand : Bool) (rest : List Token) :
    hasSumAfter (depth + 1) operand (.mark ')' :: rest) = hasSumAfter depth true rest := by
  have hdepth : depth + 1 - 1 = depth := by omega
  rw [hasSumAfter, if_neg (by decide), if_pos rfl, hdepth]

theorem hasSumAfter_operator (operator : Operator) (operand : Bool) (depth : Int)
    (rest : List Token) (h : hasSumAfter depth false rest = true) :
    hasSumAfter depth operand (.mark operator.mark :: rest) = true := by
  have hends : Formula.endsOperand operator.mark = false := by cases operator <;> decide
  have hopening : operator.mark ≠ '(' := by cases operator <;> decide
  have hclosing : operator.mark ≠ ')' := by cases operator <;> decide
  rw [hasSumAfter, if_neg hopening, if_neg hclosing, hends, h]
  exact ite_self _

/-- The operator of a sum is seen behind an operand. -/
theorem hasSumAfter_sum {operator : Operator} (rank : operator.rank = 1) (rest : List Token) :
    hasSumAfter 0 true (.mark operator.mark :: rest) = true := by
  cases operator with
  | add => rfl
  | sub => rfl
  | mul => cases rank
  | div => cases rank

/-- Behind an operand more is seen. -/
theorem hasSumAfter_of_operand (h : hasSumAfter depth operand ts = true) :
    hasSumAfter depth true ts = true := by
  cases ts with
  | nil => cases h
  | cons t rest =>
    cases t with
    | mark c =>
      rw [hasSumAfter] at h ⊢
      by_cases hopening : c = '('
      · rwa [if_pos hopening] at h ⊢
      · rw [if_neg hopening] at h ⊢
        by_cases hclosing : c = ')'
        · rwa [if_pos hclosing] at h ⊢
        · rw [if_neg hclosing] at h ⊢
          split
          · rfl
          · rename_i hno
            rwa [if_neg fun hsign => hno ⟨hsign.1, hsign.2.1, rfl⟩] at h
    | number literal => exact h
    | word text => exact h

end

end Token

namespace Expression

open Token

/-- A sum is seen behind a phrase of some kind that starts at a depth: a call that is not closed
leaves one parenthesis open, and all other phrases end an operand. -/
def SeenBehind (depth : Int) (rest : List Token) : Phrase → Prop
  | .openCall => hasSumAfter (depth + 1) false rest = true
  | _ => hasSumAfter depth true rest = true

theorem hasSumAfter_separator (arguments : List (Option String × Expression)) (depth : Int)
    (rest : List Token) :
    hasSumAfter depth false (separator arguments ++ rest) = hasSumAfter depth false rest := by
  cases arguments with
  | nil => rfl
  | cons argument arguments => rfl

theorem hasSumAfter_labelTokens (label : Option String) (depth : Int) (rest : List Token) :
    hasSumAfter depth false (labelTokens label ++ rest) = hasSumAfter depth false rest := by
  cases label with
  | none => rfl
  | some text => rfl

/-- What is seen behind a phrase is seen with the phrase in front of it. -/
theorem Written.hasSumAfter_append {phrase : Phrase} {e : Expression} {ts : List Token}
    (h : Written phrase e ts) {depth : Int} {rest : List Token}
    (hrest : SeenBehind depth rest phrase) (operand : Bool) :
    hasSumAfter depth operand (ts ++ rest) = true := by
  induction h generalizing depth rest operand with
  | number literal => exact hrest
  | name text => exact hrest
  | member h field ih =>
    have hbase : SeenBehind depth ([.mark '.', .word field] ++ rest) .primary := hrest
    rw [List.append_assoc]
    exact ih hbase operand
  | @parenthesized inner ts h ih =>
    have hinner : SeenBehind (depth + 1) ([.mark ')'] ++ rest) .sum :=
      (hasSumAfter_closing depth true rest).trans hrest
    rw [List.cons_append, List.cons_append, List.append_assoc, hasSumAfter_opening]
    exact ih hinner false
  | opening h ih =>
    rw [List.append_assoc]
    exact ih hrest operand
  | @argument function e arguments ts ts' h label h' ih ih' =>
    have hargument : SeenBehind (depth + 1) rest .sum := hasSumAfter_of_operand hrest
    have hcall : SeenBehind depth (separator arguments ++ (labelTokens label ++ (ts' ++ rest)))
        .openCall := by
      rw [SeenBehind, hasSumAfter_separator, hasSumAfter_labelTokens]
      exact ih' hargument false
    rw [List.append_assoc, List.append_assoc, List.append_assoc]
    exact ih hcall operand
  | closing h ih =>
    have hcall : SeenBehind depth ([.mark ')'] ++ rest) .openCall :=
      (hasSumAfter_closing depth false rest).trans hrest
    rw [List.append_assoc]
    exact ih hcall operand
  | ofPrimary h ih => exact ih hrest operand
  | signed sign h ih =>
    rw [List.cons_append]
    cases sign with
    | plus => exact hasSumAfter_operator .add operand depth _ (ih hrest false)
    | minus => exact hasSumAfter_operator .sub operand depth _ (ih hrest false)
  | ofSigned h ih => exact ih hrest operand
  | @product operator rank left right ts ts' h h' ih ih' =>
    rw [List.append_assoc]
    exact ih (hasSumAfter_operator operator true depth _ (ih' hrest false)) operand
  | ofProduct h ih => exact ih hrest operand
  | @sum operator rank left right ts ts' h h' ih ih' =>
    rw [List.append_assoc]
    exact ih (hasSumAfter_operator operator true depth _ (ih' hrest false)) operand

/-- Where no sum is seen there is none. -/
theorem Written.product_or_hasSumAfter {e : Expression} {ts : List Token}
    (h : Written .sum e ts) : Written .product e ts ∨ hasSumAfter 0 false ts = true := by
  cases h with
  | ofProduct h => exact .inl h
  | sum rank h h' => exact .inr (h.hasSumAfter_append (hasSumAfter_sum rank _) false)

end Expression

namespace Formula

/-- The end of a word that is complete ends an operand. -/
theorem endsOperand_of_withWord {word : List Char} (hword : Token.IsWord word) {own ts : List Token}
    (h : Token.withWord word own = some ts) {c : Char} (hc : word.getLast? = some c) :
    endsOperand c = true := by
  rcases Token.withWord_cases h with ⟨rfl, -⟩ | ⟨-, hnumber, -⟩ | ⟨-, hstarts, -⟩
  · cases hc
  · rcases Token.isDigit_or_eq_of_isNumber hnumber hc with hdigit | rfl
    · exact endsOperand_of_isTail (by simp [Identifier.isTail, Char.isAlphanum, hdigit])
    · decide
  · have hletters := hword.resolve_left (Bool.eq_false_iff.1 hstarts)
    exact endsOperand_of_isTail (hletters c (List.mem_of_getLast? hc))

theorem hasSumAfter_withWord {word : List Char} {own ts : List Token}
    (h : Token.withWord word own = some ts) (depth : Int) (operand : Bool) :
    Token.hasSumAfter depth operand ts =
      Token.hasSumAfter depth (operand || !word.isEmpty) own := by
  rcases Token.withWord_cases h with ⟨rfl, rfl⟩ | ⟨hstarts, -, rfl⟩ | ⟨hne, -, rfl⟩
  · rw [List.isEmpty_nil, Bool.not_true, Bool.or_false]
  · have hfilled : word.isEmpty = false := by
      cases word with
      | nil => cases hstarts
      | cons d word => rfl
    rw [hfilled, Bool.not_false, Bool.or_true]
    rfl
  · have hfilled : word.isEmpty = false := by simpa using hne
    rw [hfilled, Bool.not_false, Bool.or_true]
    rfl

/-- Behind a word that is complete there is an operand before. -/
theorem any_endsOperand_eq {word : List Char} (hword : Token.IsWord word) {own ts : List Token}
    (hts : Token.withWord word own = some ts) {operand : Bool} {previous : Option Char}
    (hempty : word = [] → previous.any endsOperand = operand)
    (hprevious : word ≠ [] → previous = word.getLast?) :
    previous.any endsOperand = (operand || !word.isEmpty) := by
  by_cases hnil : word = []
  · rw [hempty hnil, hnil, List.isEmpty_nil, Bool.not_true, Bool.or_false]
  · have hlast := List.getLast?_eq_some_getLast hnil
    have hfilled : word.isEmpty = false := by simpa using hnil
    rw [hprevious hnil, hlast, Option.any_some, endsOperand_of_withWord hword hts hlast,
      hfilled, Bool.not_false, Bool.or_true]

/-- A character that is neither blank nor a parenthesis hides nothing that is seen behind it. -/
theorem hasSumAfter_cons {c : Char} (hopening : c ≠ '(') (hclosing : c ≠ ')')
    (hblank : Text.isBlank c = false) {depth : Int} {rest : List Char}
    (h : hasSumAfter depth (some c) rest = true) (previous : Option Char) :
    hasSumAfter depth previous (c :: rest) = true := by
  rw [hasSumAfter, if_neg hopening, if_neg hclosing, hblank, if_neg Bool.false_ne_true, h]
  exact ite_self _

theorem plain_of_continues {word : List Char} {c : Char} (h : Token.continues word c = true) :
    c ≠ '(' ∧ c ≠ ')' ∧ Text.isBlank c = false := by
  simp only [Token.continues, Bool.or_eq_true, Bool.and_eq_true, beq_iff_eq] at h
  rcases h with (htail | ⟨⟨rfl, -⟩, -⟩) | ⟨⟨rfl | rfl, -⟩, -⟩
  · refine ⟨?_, ?_, isBlank_of_isTail htail⟩
    · rintro rfl
      exact absurd htail (by decide)
    · rintro rfl
      exact absurd htail (by decide)
  · decide
  · decide
  · decide

theorem isBlank_of_mem_marks {c : Char} (h : c ∈ Token.marks) : Text.isBlank c = false := by
  have hmarks : Token.marks.all (fun d => !Text.isBlank d) = true := by decide
  exact Bool.not_eq_true' _ ▸ List.all_eq_true.1 hmarks c h

/-- A character between words is looked at like its token: either a sum is found, or the look goes on
behind both at the same depth and behind the same character. -/
theorem exists_step_of_separate {c : Char} {own : List Token}
    (hown : Token.ofSeparate? c = some own) (depth : Int) {operand : Bool}
    {previous : Option Char} (hends : previous.any endsOperand = operand) :
    ∃ (found : Bool) (depth' : Int) (previous' : Option Char),
      (∀ rest, hasSumAfter depth previous (c :: rest) =
        (found || hasSumAfter depth' previous' rest)) ∧
      ∀ tokens, Token.hasSumAfter depth operand (own ++ tokens) =
        (found || Token.hasSumAfter depth' (previous'.any endsOperand) tokens) := by
  unfold Token.ofSeparate? at hown
  by_cases hmark : c ∈ Token.marks
  · rw [if_pos hmark] at hown
    obtain rfl := Option.some.inj hown
    simp only [List.singleton_append, Token.hasSumAfter, hasSumAfter, isBlank_of_mem_marks hmark,
      if_neg Bool.false_ne_true, hends]
    by_cases hopening : c = '('
    · subst hopening
      exact ⟨false, depth + 1, some '(', fun rest => rfl, fun tokens => rfl⟩
    · by_cases hclosing : c = ')'
      · subst hclosing
        exact ⟨false, depth - 1, some ')', fun rest => rfl, fun tokens => rfl⟩
      · simp only [if_neg hopening, if_neg hclosing]
        by_cases hsign : (c = '+' ∨ c = '-') ∧ depth = 0 ∧ operand = true
        · simp only [if_pos hsign]
          exact ⟨true, depth, none, fun rest => rfl, fun tokens => rfl⟩
        · simp only [if_neg hsign]
          exact ⟨false, depth, some c, fun rest => rfl, fun tokens => rfl⟩
  · rw [if_neg hmark] at hown
    by_cases hblank : Text.isBlank c = true
    · rw [if_pos hblank] at hown
      obtain rfl := Option.some.inj hown
      have hplain : ∀ d ∈ Token.marks, c ≠ d := by
        rintro d hd rfl
        exact hmark hd
      have hsign : ¬ ((c = '+' ∨ c = '-') ∧ depth = 0 ∧ previous.any endsOperand = true) := by
        rintro ⟨hc | hc, -⟩
        · exact hplain '+' (by decide) hc
        · exact hplain '-' (by decide) hc
      refine ⟨false, depth, previous, fun rest => ?_, fun tokens => ?_⟩
      · rw [hasSumAfter, if_neg (hplain '(' (by decide)), if_neg (hplain ')' (by decide)),
          if_neg hsign, if_pos hblank, Bool.false_or]
      · rw [List.nil_append, Bool.false_or, hends]
    · rw [if_neg hblank] at hown
      cases hown

/-- What is seen among the tokens of a text is seen among its characters. -/
theorem hasSumAfter_of_tokens {word chars : List Char} {ts : List Token}
    (hword : Token.IsWord word) (h : Token.ofCharsAfter word chars = some ts) {depth : Int}
    {operand : Bool} {previous : Option Char}
    (hempty : word = [] → previous.any endsOperand = operand)
    (hprevious : word ≠ [] → previous = word.getLast?)
    (hsum : Token.hasSumAfter depth operand ts = true) :
    hasSumAfter depth previous chars = true := by
  induction chars generalizing word ts depth operand previous with
  | nil =>
    have hend : Token.withWord word [] = some ts := h
    rw [hasSumAfter_withWord hend] at hsum
    cases hsum
  | cons c rest ih =>
    by_cases hcontinues : Token.continues word c = true
    · rw [Token.ofCharsAfter_of_continues hcontinues] at h
      have hrest : hasSumAfter depth (some c) rest = true :=
        ih (hword.concat hcontinues) h (by simp) (by simp) hsum
      obtain ⟨hopening, hclosing, hblank⟩ := plain_of_continues hcontinues
      exact hasSumAfter_cons hopening hclosing hblank hrest previous
    · rw [Bool.not_eq_true] at hcontinues
      obtain ⟨own, tokens, hown, htokens, hts⟩ := Token.ofCharsAfter_eq_some hcontinues h
      rw [hasSumAfter_withWord hts] at hsum
      have hends := any_endsOperand_eq hword hts hempty hprevious
      obtain ⟨found, depth', previous', hchars, hmarks⟩ :=
        exists_step_of_separate hown depth hends
      rw [hmarks, Bool.or_eq_true] at hsum
      rw [hchars, Bool.or_eq_true]
      exact hsum.imp_right (ih Token.isWord_nil htokens (fun _ => rfl) (by simp))

/-- A text in which no sum is seen is that of a product. -/
theorem written_product_of_not_isSum {text : List Char} {ts : List Token} {e : Expression}
    (htokens : Token.ofCharsAfter [] text = some ts) (h : Written .sum e ts)
    (hsum : isSum text = false) : Written .product e ts := by
  rcases h.product_or_hasSumAfter with hproduct | hseen
  · exact hproduct
  · have htext : isSum text = true :=
      hasSumAfter_of_tokens Token.isWord_nil htokens (fun _ => rfl) (by simp) hseen
    rw [hsum] at htext
    cases htext

end Formula

end Lanewise
