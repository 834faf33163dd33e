import Lanewise.Proofs.Formula.Reading
import Lanewise.Proofs.Identifier

/-!
# How a partial derivative is scaled

The product of the cotangent and a partial derivative is written in one of three forms, behind some
minus signs. The form is chosen by looking at characters, after the scalar type was written into the
holes of the expression. Still it does not depend on the scalar type: an identifier has no
parenthesis and no sign in it, it ends an operand like any other, and no form starts with a letter.
-/

namespace Lanewise

open Template

namespace Formula

/-- The forms of a product. -/
inductive Form where
  /-- The expression is a sum and stands in parentheses. -/
  | sum
  /-- The expression is a reciprocal, and the cotangent is divided instead. -/
  | reciprocal
  /-- The expression is written behind the cotangent. -/
  | factor
deriving DecidableEq, Repr

/-- How a product is written. -/
structure Scaling where
  /-- The minus signs that are moved to the front. -/
  minuses : Nat
  form : Form
deriving DecidableEq, Repr

namespace Scaling

/-- One more minus sign is moved to the front. -/
def negated (s : Scaling) : Scaling :=
  { s with minuses := s.minuses + 1 }

/-- The product of a cotangent and an expression, written in a given way. -/
def write (s : Scaling) (cotangent expression : List Char) : List Char :=
  List.replicate s.minuses '-' ++
    match s.form with
    | .sum => cotangent ++ " * (".toList ++ expression.drop s.minuses ++ [')']
    | .reciprocal => cotangent ++ " / ".toList ++ expression.drop (s.minuses + 4)
    | .factor => cotangent ++ " * ".toList ++ expression.drop s.minuses

theorem write_negated (s : Scaling) (cotangent rest : List Char) :
    s.negated.write cotangent ('-' :: rest) = '-' :: s.write cotangent rest := by
  obtain ⟨minuses, form⟩ := s
  have hdrop : minuses + 1 + 4 = minuses + 4 + 1 := by omega
  cases form with
  | sum => simp [write, negated, List.replicate_succ]
  | reciprocal =>
    simp only [write, negated, hdrop, List.replicate_succ, List.drop_succ_cons, List.cons_append]
  | factor => simp [write, negated, List.replicate_succ]

end Scaling

/-- How the product with an expression is written. -/
def scaling (expression : List Char) : Scaling :=
  if isSum expression then ⟨0, .sum⟩
  else
    match expression with
    | '-' :: rest => (scaling rest).negated
    | '1' :: ' ' :: '/' :: ' ' :: _ => ⟨0, .reciprocal⟩
    | _ => ⟨0, .factor⟩
termination_by structural expression

section

variable {cotangent expression rest : List Char}

theorem scaling_of_isSum (h : isSum expression = true) : scaling expression = ⟨0, .sum⟩ := by
  rw [scaling.eq_def, if_pos h]

theorem scaling_minus (h : isSum ('-' :: rest) = false) :
    scaling ('-' :: rest) = (scaling rest).negated := by
  rw [scaling.eq_def, if_neg (Bool.eq_false_iff.1 h)]
  rfl

theorem scaling_reciprocal (h : isSum ('1' :: ' ' :: '/' :: ' ' :: rest) = false) :
    scaling ('1' :: ' ' :: '/' :: ' ' :: rest) = ⟨0, .reciprocal⟩ := by
  rw [scaling.eq_def, if_neg (Bool.eq_false_iff.1 h)]
  rfl

theorem scaling_factor (h : isSum expression = false) (hminus : ∀ rest, expression ≠ '-' :: rest)
    (hreciprocal : ∀ rest, expression ≠ '1' :: ' ' :: '/' :: ' ' :: rest) :
    scaling expression = ⟨0, .factor⟩ := by
  rw [scaling.eq_def, if_neg (Bool.eq_false_iff.1 h)]
  split
  · exact absurd rfl (hminus _)
  · exact absurd rfl (hreciprocal _)
  · rfl

theorem scaleChars_of_isSum (h : isSum expression = true) :
    scaleChars cotangent expression = cotangent ++ " * (".toList ++ expression ++ [')'] := by
  rw [scaleChars.eq_def, if_pos h]

theorem scaleChars_reciprocal (h : isSum ('1' :: ' ' :: '/' :: ' ' :: rest) = false) :
    scaleChars cotangent ('1' :: ' ' :: '/' :: ' ' :: rest) =
      cotangent ++ " / ".toList ++ rest := by
  rw [scaleChars.eq_def, if_neg (Bool.eq_false_iff.1 h)]
  rfl

theorem scaleChars_factor (h : isSum expression = false)
    (hminus : ∀ rest, expression ≠ '-' :: rest)
    (hreciprocal : ∀ rest, expression ≠ '1' :: ' ' :: '/' :: ' ' :: rest) :
    scaleChars cotangent expression = cotangent ++ " * ".toList ++ expression := by
  rw [scaleChars.eq_def, if_neg (Bool.eq_false_iff.1 h)]
  split
  · exact absurd rfl (hminus _)
  · exact absurd rfl (hreciprocal _)
  · rfl

end

/-- Scaling an expression is choosing how and then writing. -/
theorem scaleChars_eq_write (cotangent expression : List Char) :
    scaleChars cotangent expression = (scaling expression).write cotangent expression := by
  induction expression using scaleChars.induct with
  | case1 expression hsum =>
    rw [scaling_of_isSum hsum, scaleChars_of_isSum hsum]
    rfl
  | case2 rest hsum ih =>
    rw [Bool.not_eq_true] at hsum
    rw [scaling_minus hsum, scaleChars_minus hsum, Scaling.write_negated, ih]
  | case3 rest hsum =>
    rw [Bool.not_eq_true] at hsum
    rw [scaling_reciprocal hsum, scaleChars_reciprocal hsum]
    rfl
  | case4 expression hminus hreciprocal hsum =>
    rw [Bool.not_eq_true] at hsum
    rw [scaling_factor hsum hminus hreciprocal, scaleChars_factor hsum hminus hreciprocal]
    rfl

/-! ## Identifiers in an expression -/

/-- A character that goes on with an identifier ends an operand. -/
theorem endsOperand_of_isTail {c : Char} (h : Identifier.isTail c = true) :
    endsOperand c = true := by
  have hlow : c.toNat < 0x80 := by
    have hrange := Identifier.toNat_of_isTail h
    omega
  rw [Identifier.isTail] at h
  rw [endsOperand, Text.isAlphanumeric, if_pos hlow, h]
  rfl

theorem isBlank_of_isTail {c : Char} (h : Identifier.isTail c = true) :
    Text.isBlank c = false := by
  obtain ⟨hlow, hhigh⟩ := Identifier.toNat_of_isTail h
  simp only [Text.isBlank, Text.inRanges, Text.blankRanges, List.any_cons, List.any_nil,
    Bool.or_eq_false_iff, Bool.and_eq_false_iff, decide_eq_false_iff_not, and_true]
  omega

/-- What is before a sign matters only as far as it ends an operand. -/
theorem hasSumAfter_congr {previous previous' : Option Char}
    (h : previous.any endsOperand = previous'.any endsOperand) (depth : Int)
    (expression : List Char) :
    hasSumAfter depth previous expression = hasSumAfter depth previous' expression := by
  induction expression generalizing depth with
  | nil => rfl
  | cons c rest ih =>
    rw [hasSumAfter, hasSumAfter, h]
    by_cases hblank : Text.isBlank c = true
    · rw [if_pos hblank, if_pos hblank, ih]
    · rw [if_neg hblank, if_neg hblank]

/-- A leading minus is a sign, so it does not matter to whether there is a sum. -/
theorem isSum_minus (rest : List Char) : isSum ('-' :: rest) = isSum rest := by
  have hends : (some '-').any endsOperand = (none : Option Char).any endsOperand := by decide
  have hsign : isSum ('-' :: rest) = hasSumAfter 0 (some '-') rest := rfl
  rw [hsign, hasSumAfter_congr hends, isSum]

theorem hasSumAfter_cons_of_isTail {c : Char} (h : Identifier.isTail c = true) (depth : Int)
    (previous : Option Char) (rest : List Char) :
    hasSumAfter depth previous (c :: rest) = hasSumAfter depth (some c) rest := by
  have hne : ∀ d : Char, Identifier.isTail d = false → c ≠ d := by
    rintro d hd rfl
    rw [h] at hd
    cases hd
  have hsign : ¬ ((c = '+' ∨ c = '-') ∧ depth = 0 ∧ previous.any endsOperand) := by
    rintro ⟨hc | hc, -⟩
    · exact hne '+' (by decide) hc
    · exact hne '-' (by decide) hc
  rw [hasSumAfter, if_neg (hne '(' (by decide)), if_neg (hne ')' (by decide)), if_neg hsign,
    isBlank_of_isTail h]
  rfl

/-- Behind the end of an operand, the rest of an identifier changes nothing. -/
theorem hasSumAfter_append_of_completes {cs : List Char} (h : Identifier.completes cs = true)
    {previous : Option Char} (hp : previous.any endsOperand = true) (depth : Int)
    (rest : List Char) :
    hasSumAfter depth previous (cs ++ rest) = hasSumAfter depth (some '_') rest := by
  induction cs generalizing previous with
  | nil => exact hasSumAfter_congr hp depth rest
  | cons c cs ih =>
    simp only [Identifier.completes, Bool.or_eq_true, Bool.and_eq_true, beq_iff_eq,
      List.isEmpty_iff] at h
    rcases h with ⟨rfl, rfl⟩ | ⟨hc, hcs⟩
    · have hbreak : hasSumAfter depth previous ('\n' :: rest) = hasSumAfter depth previous rest :=
        rfl
      rw [List.singleton_append, hbreak]
      exact hasSumAfter_congr hp depth rest
    · rw [List.cons_append, hasSumAfter_cons_of_isTail hc]
      exact ih hcs (endsOperand_of_isTail hc)

/-- An identifier is passed like any other operand without parentheses. -/
theorem hasSumAfter_append_identifier (name : Identifier) (depth : Int) (previous : Option Char)
    (rest : List Char) :
    hasSumAfter depth previous (name.text.toList ++ rest) = hasSumAfter depth (some '_') rest := by
  obtain ⟨c, cs, hcs, hhead, hcompletes⟩ := name.exists_eq_cons
  have hc := Identifier.isTail_of_isHead hhead
  have hends : (some c).any endsOperand = true := endsOperand_of_isTail hc
  rw [hcs, List.cons_append, hasSumAfter_cons_of_isTail hc]
  exact hasSumAfter_append_of_completes hcompletes hends depth rest

/-! ## Identifiers in the holes -/

/-- The characters of a piece with a text in the place of a hole. -/
def fillPiece (text : List Char) : Piece → List Char
  | .char c => [c]
  | .hole _ => text

/-- The characters of a template with the same text in all holes. -/
def fillAll (text : List Char) (template : List Piece) : List Char :=
  template.flatMap (fillPiece text)

theorem fillAll_cons_char (text : List Char) (c : Char) (rest : List Piece) :
    fillAll text (.char c :: rest) = c :: fillAll text rest := rfl

theorem fillAll_cons_hole (text : List Char) (name : String) (rest : List Piece) :
    fillAll text (.hole name :: rest) = text ++ fillAll text rest := rfl

theorem fillAll_append (text : List Char) (front rest : List Piece) :
    fillAll text (front ++ rest) = fillAll text front ++ fillAll text rest :=
  List.flatMap_append

theorem fillAll_map_char (text chars : List Char) : fillAll text (chars.map .char) = chars := by
  induction chars with
  | nil => rfl
  | cons c rest ih => rw [List.map_cons, fillAll_cons_char, ih]

/-- Whether there is a sum does not depend on the identifier in the holes. -/
theorem hasSumAfter_fillAll (a b : Identifier) (template : List Piece) (depth : Int)
    (previous : Option Char) :
    hasSumAfter depth previous (fillAll a.text.toList template) =
      hasSumAfter depth previous (fillAll b.text.toList template) := by
  induction template generalizing depth previous with
  | nil => rfl
  | cons piece rest ih =>
    cases piece with
    | char c => simp only [fillAll_cons_char, hasSumAfter, ih]
    | hole name =>
      rw [fillAll_cons_hole, fillAll_cons_hole, hasSumAfter_append_identifier,
        hasSumAfter_append_identifier, ih]

/-- A character with which no identifier starts is one of the template. -/
theorem eq_of_fillAll_eq_cons {name : Identifier} {c : Char} (hc : Identifier.isHead c = false)
    {template : List Piece} {rest : List Char}
    (h : fillAll name.text.toList template = c :: rest) :
    ∃ after, template = .char c :: after ∧ fillAll name.text.toList after = rest := by
  cases template with
  | nil => cases h
  | cons piece after =>
    cases piece with
    | char d =>
      rw [fillAll_cons_char, List.cons.injEq] at h
      exact ⟨after, by rw [h.1], h.2⟩
    | hole n =>
      obtain ⟨d, cs, hcs, hhead, -⟩ := name.exists_eq_cons
      rw [fillAll_cons_hole, hcs, List.cons_append, List.cons.injEq] at h
      rw [h.1, hc] at hhead
      cases hhead

theorem fillAll_eq_minus {name : Identifier} {template : List Piece} {rest : List Char}
    (h : fillAll name.text.toList template = '-' :: rest) :
    ∃ after, template = .char '-' :: after := by
  obtain ⟨after, ht, -⟩ := eq_of_fillAll_eq_cons (by decide) h
  exact ⟨after, ht⟩

theorem fillAll_eq_reciprocal {name : Identifier} {template : List Piece} {rest : List Char}
    (h : fillAll name.text.toList template = '1' :: ' ' :: '/' :: ' ' :: rest) :
    ∃ after, template = .char '1' :: .char ' ' :: .char '/' :: .char ' ' :: after := by
  obtain ⟨second, rfl, hsecond⟩ := eq_of_fillAll_eq_cons (by decide) h
  obtain ⟨third, rfl, hthird⟩ := eq_of_fillAll_eq_cons (by decide) hsecond
  obtain ⟨fourth, rfl, hfourth⟩ := eq_of_fillAll_eq_cons (by decide) hthird
  obtain ⟨after, rfl, -⟩ := eq_of_fillAll_eq_cons (by decide) hfourth
  exact ⟨after, rfl⟩

/-- A template is scaled in one way whichever identifier is in its holes, and the product with the
cotangent is again a template with that identifier in its holes. -/
def HasProduct (cotangent : List Char) (template : List Piece) : Prop :=
  ∃ (s : Scaling) (product : List Piece), ∀ name : Identifier,
    scaling (fillAll name.text.toList template) = s ∧
      scaleChars cotangent (fillAll name.text.toList template) =
        fillAll name.text.toList product

section

variable {cotangent : List Char} {template : List Piece}

theorem fillAll_plain_append (text before : List Char) (rest : List Piece) :
    fillAll text (before.map .char ++ rest) = before ++ fillAll text rest := by
  rw [fillAll_append, fillAll_map_char]

theorem HasProduct.of_isSum
    (hsum : ∀ name : Identifier, isSum (fillAll name.text.toList template) = true) :
    HasProduct cotangent template := by
  refine ⟨⟨0, .sum⟩, (cotangent ++ " * (".toList).map .char ++ (template ++ [.char ')']),
    fun name => ?_⟩
  have hscaling := scaling_of_isSum (hsum name)
  refine ⟨hscaling, ?_⟩
  rw [scaleChars_eq_write, hscaling, fillAll_plain_append, fillAll_append]
  exact List.append_assoc _ _ _

theorem HasProduct.minus {rest : List Piece} (h : HasProduct cotangent rest)
    (hsum : ∀ name : Identifier, isSum (fillAll name.text.toList (.char '-' :: rest)) = false) :
    HasProduct cotangent (.char '-' :: rest) := by
  obtain ⟨s, product, hproduct⟩ := h
  refine ⟨s.negated, .char '-' :: product, fun name => ?_⟩
  obtain ⟨hs, hp⟩ := hproduct name
  have hscaling : scaling ('-' :: fillAll name.text.toList rest) =
      (scaling (fillAll name.text.toList rest)).negated :=
    scaling_minus (hsum name)
  rw [hs] at hscaling
  rw [scaleChars_eq_write, hs] at hp
  rw [fillAll_cons_char, fillAll_cons_char, scaleChars_eq_write, hscaling, Scaling.write_negated,
    hp]
  exact ⟨rfl, rfl⟩

theorem HasProduct.reciprocal {rest : List Piece}
    (ht : template = .char '1' :: .char ' ' :: .char '/' :: .char ' ' :: rest)
    (hsum : ∀ name : Identifier, isSum (fillAll name.text.toList template) = false) :
    HasProduct cotangent template := by
  subst ht
  refine ⟨⟨0, .reciprocal⟩, (cotangent ++ " / ".toList).map .char ++ rest, fun name => ?_⟩
  have hscaling : scaling ('1' :: ' ' :: '/' :: ' ' :: fillAll name.text.toList rest) =
      ⟨0, .reciprocal⟩ :=
    scaling_reciprocal (hsum name)
  rw [fillAll_plain_append]
  simp only [fillAll_cons_char]
  rw [scaleChars_eq_write, hscaling]
  exact ⟨rfl, rfl⟩

theorem HasProduct.factor (hminus : ∀ rest, template ≠ .char '-' :: rest)
    (hreciprocal : ∀ rest,
      template ≠ .char '1' :: .char ' ' :: .char '/' :: .char ' ' :: rest)
    (hsum : ∀ name : Identifier, isSum (fillAll name.text.toList template) = false) :
    HasProduct cotangent template := by
  refine ⟨⟨0, .factor⟩, (cotangent ++ " * ".toList).map .char ++ template, fun name => ?_⟩
  have hscaling : scaling (fillAll name.text.toList template) = ⟨0, .factor⟩ := by
    refine scaling_factor (hsum name) (fun rest h => ?_) (fun rest h => ?_)
    · obtain ⟨after, ht⟩ := fillAll_eq_minus h
      exact hminus after ht
    · obtain ⟨after, ht⟩ := fillAll_eq_reciprocal h
      exact hreciprocal after ht
  refine ⟨hscaling, ?_⟩
  rw [scaleChars_eq_write, hscaling, fillAll_plain_append]
  rfl

end

/-- Every template has a product. -/
theorem hasProduct (cotangent : List Char) (template : List Piece) :
    HasProduct cotangent template := by
  induction template with
  | nil => exact .factor (by simp) (by simp) fun name => rfl
  | cons piece rest ih =>
    by_cases hsum : ∃ name : Identifier, isSum (fillAll name.text.toList (piece :: rest)) = true
    · obtain ⟨name', hname'⟩ := hsum
      exact .of_isSum fun name => (hasSumAfter_fillAll name name' _ 0 none).trans hname'
    · have hsum : ∀ name : Identifier,
          isSum (fillAll name.text.toList (piece :: rest)) = false :=
        fun name => Bool.eq_false_iff.2 fun h => hsum ⟨name, h⟩
      by_cases hminus : piece = .char '-'
      · subst hminus
        exact ih.minus hsum
      · by_cases hreciprocal : ∃ after,
            piece :: rest = .char '1' :: .char ' ' :: .char '/' :: .char ' ' :: after
        · obtain ⟨after, ht⟩ := hreciprocal
          exact .reciprocal ht hsum
        · refine .factor (fun after h => ?_) (fun after h => hreciprocal ⟨after, h⟩) hsum
          exact hminus (List.cons.inj h).1

end Formula

end Lanewise
