import Lanewise.Proofs.Formula.Sum
import Mathlib.Algebra.Group.Basic
import Mathlib.Algebra.Field.Rat
import Mathlib.Tactic.NormNum

/-!
# Scaling preserves the meaning of an expression

The product of the cotangent and a partial derivative is put together as text. In a product of the
grammar the leftmost operand can be multiplied, negated or replaced without anything else being
regrouped, because products and quotients associate to the left. A sum is not a product, so it gets
parentheses. Hence the text that is written is that of an expression, and the value of this is the
product.
-/

namespace Lanewise

namespace Expression

/-! ## How operands start -/

/-- What the tokens of an operand without signs start with: nothing but itself, a parenthesis, or an
operand with a point or a parenthesis behind it. -/
inductive Starts : Phrase → List Token → Prop
  | single (t : Token) (h : ∀ c, t ≠ .mark c) : Starts .primary [t]
  | opening (phrase : Phrase) (rest : List Token) : Starts phrase (.mark '(' :: rest)
  | operand (phrase : Phrase) (t : Token) (h : ∀ c, t ≠ .mark c) {c : Char} (hc : c = '.' ∨ c = '(')
    (rest : List Token) : Starts phrase (t :: .mark c :: rest)

theorem Starts.append {phrase phrase' : Phrase} {ts : List Token} (h : Starts phrase ts) {c : Char}
    (hc : c = '.' ∨ c = '(') (rest : List Token) : Starts phrase' (ts ++ .mark c :: rest) := by
  cases h with
  | single t ht => exact .operand _ t ht hc rest
  | opening _ rest' => exact .opening _ _
  | operand _ t ht hc' rest' => exact .operand _ t ht hc' _

theorem Starts.append_of_openCall {phrase : Phrase} {ts : List Token} (h : Starts .openCall ts)
    (rest : List Token) : Starts phrase (ts ++ rest) := by
  cases h with
  | opening _ rest' => exact .opening _ _
  | operand _ t ht hc' rest' => exact .operand _ t ht hc' _

theorem Written.starts {phrase : Phrase} {e : Expression} {ts : List Token}
    (h : Written phrase e ts) (hphrase : phrase = .primary ∨ phrase = .openCall) :
    Starts phrase ts := by
  induction h with
  | number literal => exact .single _ (by simp)
  | name text => exact .single _ (by simp)
  | member h field ih => exact (ih (.inl rfl)).append (.inl rfl) _
  | parenthesized h ih => exact .opening _ _
  | opening h ih => exact (ih (.inl rfl)).append (.inr rfl) _
  | argument h label h' ih ih' =>
    rw [List.append_assoc, List.append_assoc]
    exact (ih (.inr rfl)).append_of_openCall _
  | closing h ih => exact (ih (.inr rfl)).append_of_openCall _
  | ofPrimary => simp at hphrase
  | signed => simp at hphrase
  | ofSigned => simp at hphrase
  | product => simp at hphrase
  | ofProduct => simp at hphrase
  | sum => simp at hphrase

/-- What a product or a signed operand is written with is not nothing. -/
theorem Written.ne_nil {phrase : Phrase} {e : Expression} {ts : List Token}
    (h : Written phrase e ts) : ts ≠ [] := by
  induction h <;> simp_all

/-! ## Changing the leftmost operand -/

section

variable {K : Type} [Field K] {i : Interpretation K}

/-- A change of the left operand that commutes with products changes products and quotients. -/
theorem eval_binary_map {operator : Operator} (rank : operator.rank = 2) {change : K → K}
    (hmul : ∀ x y, change x * y = change (x * y)) {left left' : Expression}
    (h : eval i left' = (eval i left).map change) (right : Expression) :
    eval i (.binary operator left' right) = (eval i (.binary operator left right)).map change := by
  have hdiv : ∀ x y, change x / y = change (x / y) := by
    intro x y
    rw [div_eq_mul_inv, div_eq_mul_inv, hmul]
  simp only [eval, h]
  cases eval i left with
  | none => rfl
  | some l =>
    cases eval i right with
    | none => rfl
    | some r =>
      cases operator with
      | add => cases rank
      | sub => cases rank
      | mul => simp [hmul]
      | div => simp [hdiv]

end

/-- The value of one expression is the negative of the value of another. -/
def IsNegated (e negated : Expression) : Prop :=
  ∀ {K : Type} [Field K] (i : Interpretation K), eval i negated = (eval i e).map (- ·)

/-- The value of one expression is the product of a name and another one, wherever the literal one
stands for one. -/
def IsScaled (name : String) (e scaled : Expression) : Prop :=
  ∀ {K : Type} [Field K] (i : Interpretation K) (v : K), i.number ['1'] = some 1 →
    i.name name = some v → eval i scaled = (eval i e).map (v * ·)

/-- What is scaled between two negations is scaled. -/
theorem IsScaled.of_negated {name : String} {e e' scaled scaled' : Expression}
    (h : IsScaled name e' scaled) (hnegated : IsNegated e' e)
    (hnegated' : IsNegated scaled scaled') : IsScaled name e scaled' := by
  intro K _ i v hone hname
  rw [hnegated' i, h i v hone hname, hnegated i, Option.map_map, Option.map_map]
  have hcommute : (fun x : K => -x) ∘ (v * ·) = (v * ·) ∘ fun x => -x := by
    funext x
    exact (mul_neg v x).symm
  rw [hcommute]

theorem IsNegated.binary {operator : Operator} (rank : operator.rank = 2) {left left' : Expression}
    (h : IsNegated left left') (right : Expression) :
    IsNegated (.binary operator left right) (.binary operator left' right) := by
  intro K _ i
  exact eval_binary_map rank (fun x y => neg_mul x y) (h i) right

theorem IsScaled.binary {name : String} {operator : Operator} (rank : operator.rank = 2)
    {left left' : Expression} (h : IsScaled name left left') (right : Expression) :
    IsScaled name (.binary operator left right) (.binary operator left' right) := by
  intro K _ i v hone hname
  exact eval_binary_map rank (fun x y => mul_assoc v x y) (h i v hone hname) right

/-- A product may be negated in front. -/
theorem Written.minus {e : Expression} {ts : List Token} (h : Written .product e ts) :
    ∃ e', Written .product e' (.mark '-' :: ts) ∧ IsNegated e e' := by
  generalize hphrase : Phrase.product = phrase at h
  induction h with
  | @ofSigned e ts h =>
    exact ⟨.signed .minus e, .ofSigned (.signed .minus h), fun i => rfl⟩
  | @product operator rank left right ts ts' h h' ih =>
    obtain ⟨left', hleft, hvalue⟩ := ih rfl
    exact ⟨.binary operator left' right, .product rank hleft h', hvalue.binary rank right⟩
  | _ => cases hphrase

theorem Starts.ne_minus {phrase : Phrase} {ts : List Token} (h : Starts phrase ts)
    (rest : List Token) : ts ≠ .mark '-' :: rest := by
  rintro rfl
  cases h with
  | single t ht => exact ht _ rfl
  | operand _ t ht => exact ht _ rfl

/-- Nothing but a point or a parenthesis follows the first token of an operand. -/
theorem Starts.second {phrase : Phrase} {t : Token} {c : Char} {rest : List Token}
    (h : Starts phrase (t :: .mark c :: rest)) (ht : t ≠ .mark '(') : c = '.' ∨ c = '(' := by
  cases h with
  | opening => exact absurd rfl ht
  | operand _ _ _ hc => exact hc

/-- A product that starts with a minus is a negated product. -/
theorem Written.of_minus {phrase : Phrase} {e : Expression} {ts rest : List Token}
    (h : Written phrase e ts) (hphrase : phrase = .signed ∨ phrase = .product)
    (hts : ts = .mark '-' :: rest) : ∃ e', Written phrase e' rest ∧ IsNegated e' e := by
  induction h generalizing rest with
  | ofPrimary h => exact absurd hts ((h.starts (.inl rfl)).ne_minus rest)
  | @signed sign e ts h =>
    obtain ⟨hsign, rfl⟩ := List.cons.inj hts
    cases sign with
    | plus => cases hsign
    | minus => exact ⟨e, h, fun i => rfl⟩
  | ofSigned h ih =>
    obtain ⟨e', hwritten, hvalue⟩ := ih (.inl rfl) hts
    exact ⟨e', .ofSigned hwritten, hvalue⟩
  | @product operator rank left right ts ts' h h' ih =>
    cases ts with
    | nil => exact absurd rfl h.ne_nil
    | cons t ts =>
      obtain ⟨rfl, rfl⟩ := List.cons.inj hts
      obtain ⟨left', hleft, hvalue⟩ := ih (.inr rfl) rfl
      exact ⟨.binary operator left' right, .product rank hleft h', hvalue.binary rank right⟩
  | _ => simp at hphrase

/-- A name times an expression is scaled by the name. -/
theorem isScaled_times (name : String) (e : Expression) :
    IsScaled name e (.binary .mul (.name name) e) := by
  intro K _ i v _ hv
  simp only [eval, hv, Option.bind_some]

/-- What is read when a name and a times sign are written in front of an expression without
parentheses: the leftmost operand is multiplied. -/
def timesLeftmost (name : String) : Expression → Expression
  | binary operator left right => binary operator (timesLeftmost name left) right
  | e => binary .mul (.name name) e

/-- An operand is multiplied as a whole. -/
theorem Written.timesLeftmost_eq {phrase : Phrase} {e : Expression} {ts : List Token}
    (h : Written phrase e ts) (hphrase : phrase = .primary ∨ phrase = .signed) (name : String) :
    timesLeftmost name e = .binary .mul (.name name) e := by
  induction h with
  | ofPrimary h ih => exact ih (.inl rfl)
  | ofSigned => simp at hphrase
  | product => simp at hphrase
  | ofProduct => simp at hphrase
  | sum => simp at hphrase
  | opening => simp at hphrase
  | argument => simp at hphrase
  | _ => rfl

theorem Written.timesLeftmost {phrase : Phrase} {e : Expression} {ts : List Token}
    (h : Written phrase e ts) (hphrase : phrase = .product ∨ phrase = .sum) (name : String) :
    Written phrase (timesLeftmost name e) (.word name :: .mark '*' :: ts) := by
  induction h with
  | ofSigned h =>
    have hname : Written .product (.name name) [.word name] := .ofSigned (.ofPrimary (.name name))
    have hrank : Operator.mul.rank = 2 := rfl
    rw [h.timesLeftmost_eq (.inr rfl)]
    exact .product hrank hname h
  | product rank h h' ih => exact .product rank (ih (.inl rfl)) h'
  | ofProduct h ih => exact .ofProduct (ih (.inl rfl))
  | sum rank h h' ih => exact .sum rank (ih (.inr rfl)) h'
  | _ => simp at hphrase

/-- A name that is written in front of a product scales it. -/
theorem Written.isScaled_timesLeftmost {phrase : Phrase} {e : Expression} {ts : List Token}
    (h : Written phrase e ts) (hphrase : phrase = .product) (name : String) :
    IsScaled name e (Expression.timesLeftmost name e) := by
  induction h with
  | @ofSigned e ts h =>
    rw [h.timesLeftmost_eq (.inr rfl)]
    exact isScaled_times name e
  | product rank h h' ih => exact IsScaled.binary rank (ih rfl) _
  | _ => cases hphrase

theorem Written.eq_number {literal : List Char} {e : Expression}
    (h : Written .product e [.number literal]) : e = .number literal := by
  have hread := h.readsAs [] [] (fun _ => rfl) (.nil _)
  exact (Option.some.inj hread).symm

theorem operator_eq_div {operator : Operator} (h : operator.mark = '/') : operator = .div := by
  cases operator with
  | div => rfl
  | _ => exact absurd h (by decide)

/-- A quotient of a name is the product of the name and a reciprocal. -/
theorem isScaled_quotient (name : String) (e : Expression) :
    IsScaled name (.binary .div (.number ['1']) e) (.binary .div (.name name) e) := by
  intro K _ i v hone hv
  simp only [eval, hv, hone, Option.bind_some]
  cases eval i e with
  | none => rfl
  | some r =>
    rw [Option.map_some, Option.map_some, Option.map_some, div_eq_mul_one_div]

/-- A name may take the place of the one in a quotient. -/
theorem Written.quotient (name : String) {e : Expression} {ts rest : List Token}
    (h : Written .product e ts) (hts : ts = .number ['1'] :: .mark '/' :: rest) :
    ∃ e', Written .product e' (.word name :: .mark '/' :: rest) ∧ IsScaled name e e' := by
  have hname : Written .product (.name name) [.word name] :=
    .ofSigned (.ofPrimary (.name name))
  generalize hphrase : Phrase.product = phrase at h
  induction h generalizing rest with
  | @ofSigned e ts h =>
    subst hts
    generalize hts : Token.number ['1'] :: .mark '/' :: rest = ts at h
    cases h with
    | ofPrimary h =>
      have hsecond := ((hts ▸ h).starts (.inl rfl)).second (by simp)
      exact absurd hsecond (by decide)
    | signed => cases hts
  | @product operator rank left right ts ts' h h' ih =>
    cases ts with
    | nil => exact absurd rfl h.ne_nil
    | cons t ts =>
      rw [List.cons_append] at hts
      obtain ⟨rfl, htail⟩ := List.cons.inj hts
      cases ts with
      | nil =>
        obtain ⟨hmark, rfl⟩ := List.cons.inj htail
        obtain rfl := h.eq_number
        obtain rfl := operator_eq_div (Token.mark.inj hmark)
        have hrank : Operator.div.rank = 2 := rfl
        exact ⟨.binary .div (.name name) right, .product hrank hname h',
          isScaled_quotient name right⟩
      | cons t ts =>
        rw [List.cons_append] at htail
        obtain ⟨rfl, rfl⟩ := List.cons.inj htail
        obtain ⟨left', hleft, hvalue⟩ := ih rfl rfl
        exact ⟨.binary operator left' right, .product rank hleft h', hvalue.binary rank right⟩
  | _ => cases hphrase

/-- A sum in parentheses may be multiplied by a name. -/
theorem Written.timesSum (name : String) {e : Expression} {ts : List Token}
    (h : Written .sum e ts) :
    ∃ e', Written .product e' (.word name :: .mark '*' :: .mark '(' :: ts ++ [.mark ')']) ∧
      IsScaled name e e' := by
  have hname : Written .product (.name name) [.word name] :=
    .ofSigned (.ofPrimary (.name name))
  have hrank : Operator.mul.rank = 2 := rfl
  exact ⟨.binary .mul (.name name) (.parenthesized e),
    .product hrank hname (.ofPrimary (.parenthesized h)), isScaled_times name (.parenthesized e)⟩

end Expression

/-! ## The text of a product -/

namespace Token

theorem ofCharsAfter_nil_mark {c : Char} (hc : continues [] c = false) (hmark : c ∈ marks)
    {rest : List Char} {ts : List Token} (h : ofCharsAfter [] rest = some ts) :
    ofCharsAfter [] (c :: rest) = some (.mark c :: ts) := by
  have hown : ofSeparate? c = some [.mark c] := if_pos hmark
  rw [ofCharsAfter_of_not_continues hc, h, Option.bind_some, hown, Option.bind_some]
  rfl

theorem ofCharsAfter_nil_blank {rest : List Char} {ts : List Token}
    (h : ofCharsAfter [] rest = some ts) : ofCharsAfter [] (' ' :: rest) = some ts := by
  have hown : ofSeparate? ' ' = some [] := by decide
  rw [ofCharsAfter_of_not_continues (by decide), h, Option.bind_some, hown, Option.bind_some]
  rfl

/-- The tokens behind a blank and an operator. -/
theorem ofCharsAfter_append_operator {a b : List Char} {ts ts' : List Token} {c : Char}
    (hc : continues [] c = false) (hmark : c ∈ marks) (ha : ofCharsAfter [] a = some ts)
    (hb : ofCharsAfter [] b = some ts') :
    ofCharsAfter [] (a ++ (' ' :: c :: ' ' :: b)) = some (ts ++ .mark c :: ts') := by
  have hblank : ∀ word, continues word ' ' = false :=
    continues_eq_false (by decide) (by decide)
  have hnothing : ofSeparate? ' ' = some [] := by decide
  exact ofCharsAfter_append hblank hnothing ha
    (ofCharsAfter_nil_mark hc hmark (ofCharsAfter_nil_blank hb))

/-- A text that starts with a minus. -/
theorem exists_of_ofCharsAfter_minus {rest : List Char} {ts : List Token}
    (h : ofCharsAfter [] ('-' :: rest) = some ts) :
    ∃ ts', ofCharsAfter [] rest = some ts' ∧ ts = .mark '-' :: ts' := by
  obtain ⟨own, tokens, hown, htokens, hts⟩ := ofCharsAfter_eq_some (by decide) h
  have hminus : ofSeparate? '-' = some [.mark '-'] := by decide
  obtain rfl := Option.some.inj (hminus.symm.trans hown)
  exact ⟨tokens, htokens, (Option.some.inj hts).symm⟩

/-- A text that starts with a reciprocal. -/
theorem exists_of_ofCharsAfter_reciprocal {rest : List Char} {ts : List Token}
    (h : ofCharsAfter [] ('1' :: ' ' :: '/' :: ' ' :: rest) = some ts) :
    ∃ ts', ofCharsAfter [] rest = some ts' ∧ ts = .number ['1'] :: .mark '/' :: ts' := by
  have hblank : ofSeparate? ' ' = some [] := by decide
  have hslash : ofSeparate? '/' = some [.mark '/'] := by decide
  rw [ofCharsAfter_of_continues (by decide)] at h
  obtain ⟨own, tokens, hown, htokens, hts⟩ := ofCharsAfter_eq_some (by decide) h
  obtain rfl := Option.some.inj (hblank.symm.trans hown)
  obtain ⟨own', tokens', hown', htokens', hts'⟩ := ofCharsAfter_eq_some (by decide) htokens
  obtain rfl := Option.some.inj (hslash.symm.trans hown')
  obtain ⟨own'', tokens'', hown'', htokens'', hts''⟩ :=
    ofCharsAfter_eq_some (by decide) htokens'
  obtain rfl := Option.some.inj (hblank.symm.trans hown'')
  obtain rfl := Option.some.inj hts''
  obtain rfl := Option.some.inj hts'
  exact ⟨_, htokens'', (Option.some.inj hts).symm⟩

end Token

namespace Formula

open Expression Token

/-- Scaling the text of a product gives the text of a product. -/
theorem exists_written_scaleChars {cotangent : List Char} {name : String}
    (hcotangent : ofCharsAfter [] cotangent = some [.word name]) {chars : List Char}
    {ts : List Token} {e : Expression} (htokens : ofCharsAfter [] chars = some ts)
    (h : Written .product e ts) (hsum : isSum chars = false) :
    ∃ ts' e', ofCharsAfter [] (scaleChars cotangent chars) = some ts' ∧
      Written .product e' ts' ∧ IsScaled name e e' := by
  induction chars using scaleChars.induct generalizing ts e with
  | case1 chars hsum' => exact absurd (hsum'.symm.trans hsum) (by decide)
  | case2 rest _ ih =>
    obtain ⟨tokens, hrest, rfl⟩ := exists_of_ofCharsAfter_minus htokens
    obtain ⟨e', hwritten, hnegated⟩ := h.of_minus (.inr rfl) rfl
    have hrestSum : isSum rest = false := (isSum_minus rest).symm.trans hsum
    obtain ⟨ts', e'', hscaled, hwritten', hvalue⟩ := ih hrest hwritten hrestSum
    obtain ⟨product, hproduct, hnegated'⟩ := hwritten'.minus
    refine ⟨.mark '-' :: ts', product, ?_, hproduct, hvalue.of_negated hnegated hnegated'⟩
    rw [scaleChars_minus hsum]
    exact ofCharsAfter_nil_mark (by decide) (by decide) hscaled
  | case3 rest _ =>
    obtain ⟨tokens, hrest, rfl⟩ := exists_of_ofCharsAfter_reciprocal htokens
    obtain ⟨e', hwritten, hvalue⟩ := h.quotient name rfl
    refine ⟨_, e', ?_, hwritten, hvalue⟩
    rw [scaleChars_reciprocal hsum, List.append_assoc]
    exact ofCharsAfter_append_operator (by decide) (by decide) hcotangent hrest
  | case4 chars hminus hreciprocal _ =>
    refine ⟨_, timesLeftmost name e, ?_, h.timesLeftmost (.inl rfl) name,
      h.isScaled_timesLeftmost rfl name⟩
    rw [scaleChars_factor hsum hminus hreciprocal, List.append_assoc]
    exact ofCharsAfter_append_operator (by decide) (by decide) hcotangent htokens

/-- Scaling the text of an expression gives the text of one, in which the cotangent is a factor. -/
theorem exists_written_scale {cotangent : List Char} {name : String}
    (hcotangent : ofCharsAfter [] cotangent = some [.word name]) {chars : List Char}
    {ts : List Token} {e : Expression} (htokens : ofCharsAfter [] chars = some ts)
    (h : Written .sum e ts) :
    ∃ ts' e', ofCharsAfter [] (scaleChars cotangent chars) = some ts' ∧
      Written .product e' ts' ∧ IsScaled name e e' := by
  by_cases hsum : isSum chars = true
  · obtain ⟨e', hwritten, hvalue⟩ := h.timesSum name
    have hclosing : ∀ word, continues word ')' = false := continues_eq_false (by decide) (by decide)
    have hown : ofSeparate? ')' = some [.mark ')'] := by decide
    have hinner : ofCharsAfter [] (chars ++ [')']) = some (ts ++ [.mark ')']) :=
      ofCharsAfter_append hclosing hown htokens rfl
    have hsumText : cotangent ++ " * (".toList ++ chars ++ [')'] =
        cotangent ++ (' ' :: '*' :: ' ' :: '(' :: (chars ++ [')'])) := by
      rw [List.append_assoc, List.append_assoc]
      rfl
    refine ⟨_, e', ?_, hwritten, hvalue⟩
    rw [scaleChars_of_isSum hsum, hsumText]
    exact ofCharsAfter_append_operator (by decide) (by decide) hcotangent
      (ofCharsAfter_nil_mark (by decide) (by decide) hinner)
  · rw [Bool.not_eq_true] at hsum
    exact exists_written_scaleChars hcotangent htokens
      (written_product_of_not_isSum htokens h hsum) hsum

/-- The tokens of a name are the name. -/
theorem tokens_of_isTextOf_name {name text : String} (h : (Expression.name name).IsTextOf text) :
    ofCharsAfter [] text.toList = some [.word name] := by
  obtain ⟨ts, htokens, hwritten⟩ := h
  cases hwritten with
  | ofProduct h =>
    cases h with
    | ofSigned h =>
      cases h with
      | ofPrimary h =>
        cases h with
        | name => exact htokens

/-- The product of the cotangent with an expression is the text of exactly one expression. The value
of this is the product of the value of the cotangent and the value of the expression, whatever the
names, members and calls stand for, in every field. -/
theorem isTextOf_scale {cotangent text name : String} {e : Expression}
    (hcotangent : (Expression.name name).IsTextOf cotangent) (htext : e.IsTextOf text) :
    ∃ product : Expression, product.IsTextOf (scale cotangent text) ∧
      (∀ other : Expression, other.IsTextOf (scale cotangent text) → other = product) ∧
      ∀ {K : Type} [Field K] (i : Interpretation K) (v : K), i.number ['1'] = some 1 →
        i.name name = some v → eval i product = (eval i e).map (v * ·) := by
  obtain ⟨ts, htokens, hwritten⟩ := htext
  obtain ⟨ts', product, htokens', hwritten', hvalue⟩ :=
    exists_written_scale (tokens_of_isTextOf_name hcotangent) htokens hwritten
  have hproduct : product.IsTextOf (scale cotangent text) := by
    refine ⟨ts', ?_, .ofProduct hwritten'⟩
    rw [scale, String.toList_ofList, htokens']
  exact ⟨product, hproduct, fun other hother => hother.unique hproduct, hvalue⟩

/-- A negative reciprocal becomes a quotient of the negated cotangent. -/
theorem isTextOf_scale_reciprocal :
    ((Expression.name "v").IsTextOf "v" ∧ (Expression.binary .div
        (.signed .minus (.number ['1'])) (.name "x")).IsTextOf "-1 / x") ∧
      ∃ product : Expression, product.IsTextOf "-v / x" ∧
        ∀ (i : Interpretation ℚ), i.number ['1'] = some 1 → i.name "v" = some 3 →
          i.name "x" = some 2 → eval i product = some (-3 / 2) := by
  have hcotangent : (Expression.name "v").IsTextOf "v" :=
    ⟨[.word "v"], by decide, .ofProduct (.ofSigned (.ofPrimary (.name "v")))⟩
  have hleft : Written .product (.signed .minus (.number ['1'])) [.mark '-', .number ['1']] :=
    .ofSigned (.signed .minus (.ofPrimary (.number ['1'])))
  have hrank : Operator.div.rank = 2 := rfl
  have htext : (Expression.binary .div (.signed .minus (.number ['1'])) (.name "x")).IsTextOf
      "-1 / x" :=
    ⟨_, by decide, .ofProduct (.product hrank hleft (.ofPrimary (.name "x")))⟩
  have hscale : scale "v" "-1 / x" = "-v / x" := by decide
  obtain ⟨product, hproduct, -, hvalue⟩ := isTextOf_scale hcotangent htext
  refine ⟨⟨hcotangent, htext⟩, product, hscale ▸ hproduct, fun i hone hv hx => ?_⟩
  rw [hvalue i 3 hone hv]
  simp only [eval, hone, hx, Option.map_some, Option.bind_some]
  norm_num

end Formula

end Lanewise
