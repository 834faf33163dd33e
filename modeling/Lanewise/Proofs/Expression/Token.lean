import Lanewise.Proofs.Expression.Basic
import Mathlib.Data.List.Basic
import Mathlib.Data.List.TakeWhile

/-!
# Cutting texts into tokens

A character that goes on with no word separates what is before it from what is after it, so the
tokens of the two sides are put together. Of the words only numbers have other characters than
letters, digits and underscores, and they end with a digit or a point.
-/

namespace Lanewise

namespace Token

/-- The tokens of a character that is not part of a word. -/
def ofSeparate? (c : Char) : Option (List Token) :=
  if c ∈ marks then some [.mark c] else if Text.isBlank c then some [] else none

theorem ofCharsAfter_of_continues {word : List Char} {c : Char} (h : continues word c = true)
    (rest : List Char) : ofCharsAfter word (c :: rest) = ofCharsAfter (word ++ [c]) rest := by
  rw [ofCharsAfter, if_pos h]

theorem ofCharsAfter_of_not_continues {word : List Char} {c : Char} (h : continues word c = false)
    (rest : List Char) :
    ofCharsAfter word (c :: rest) = (ofCharsAfter [] rest).bind fun tokens =>
      (ofSeparate? c).bind fun own => withWord word (own ++ tokens) := by
  rw [ofCharsAfter, if_neg (Bool.eq_false_iff.1 h)]
  cases ofCharsAfter [] rest with
  | none => rfl
  | some tokens =>
    unfold ofSeparate?
    simp only [bind, Option.bind]
    by_cases hmark : c ∈ marks
    · simp [hmark]
    · by_cases hblank : Text.isBlank c = true
      · simp [hmark, hblank]
      · simp [hmark, hblank]

/-- Cutting a text behind a word succeeds if cutting what follows the separating character does. -/
theorem ofCharsAfter_eq_some {word : List Char} {c : Char} (h : continues word c = false)
    {rest : List Char} {ts : List Token} (hts : ofCharsAfter word (c :: rest) = some ts) :
    ∃ own tokens, ofSeparate? c = some own ∧ ofCharsAfter [] rest = some tokens ∧
      withWord word (own ++ tokens) = some ts := by
  rw [ofCharsAfter_of_not_continues h] at hts
  obtain ⟨tokens, htokens, hts⟩ := Option.bind_eq_some_iff.1 hts
  obtain ⟨own, hown, hts⟩ := Option.bind_eq_some_iff.1 hts
  exact ⟨own, tokens, hown, htokens, hts⟩

/-- A word in front of tokens is no word, a number or another word. -/
theorem withWord_cases {word : List Char} {own ts : List Token} (h : withWord word own = some ts) :
    (word = [] ∧ ts = own) ∨
      (startsNumber word = true ∧ isNumber word = true ∧ ts = .number word :: own) ∨
      (word ≠ [] ∧ startsNumber word = false ∧ ts = .word (String.ofList word) :: own) := by
  unfold withWord at h
  by_cases hempty : word.isEmpty = true
  · rw [if_pos hempty] at h
    exact .inl ⟨List.isEmpty_iff.1 hempty, (Option.some.inj h).symm⟩
  · rw [if_neg hempty] at h
    by_cases hstarts : startsNumber word = true
    · rw [if_pos hstarts] at h
      by_cases hnumber : isNumber word = true
      · rw [if_pos hnumber] at h
        exact .inr (.inl ⟨hstarts, hnumber, (Option.some.inj h).symm⟩)
      · rw [if_neg hnumber] at h
        cases h
    · rw [if_neg hstarts] at h
      have hne : word ≠ [] := fun hnil => hempty (List.isEmpty_iff.2 hnil)
      exact .inr (.inr ⟨hne, Bool.not_eq_true _ ▸ hstarts, (Option.some.inj h).symm⟩)

theorem withWord_append {word : List Char} {front ts : List Token}
    (h : withWord word front = some ts) (back : List Token) :
    withWord word (front ++ back) = some (ts ++ back) := by
  unfold withWord at h ⊢
  by_cases hempty : word.isEmpty = true
  · rw [if_pos hempty] at h ⊢
    rw [Option.some.inj h]
  · rw [if_neg hempty] at h ⊢
    by_cases hstarts : startsNumber word = true
    · rw [if_pos hstarts] at h ⊢
      by_cases hnumber : isNumber word = true
      · rw [if_pos hnumber] at h ⊢
        rw [← Option.some.inj h, List.cons_append]
      · rw [if_neg hnumber] at h
        cases h
    · rw [if_neg hstarts] at h ⊢
      rw [← Option.some.inj h, List.cons_append]

/-- A character that goes on with no word, because it is neither a word character nor one of those
that may stand in a number. -/
theorem continues_eq_false {c : Char} (h : Identifier.isTail c = false)
    (hmark : c ∉ ['.', '+', '-']) (word : List Char) : continues word c = false := by
  simp only [List.mem_cons, List.not_mem_nil, or_false, not_or] at hmark
  simp [continues, h, hmark]

/-- The tokens of a text are those on the two sides of a separating character, and its own. -/
theorem ofCharsAfter_append {c : Char} (hc : ∀ word, continues word c = false) {own : List Token}
    (hown : ofSeparate? c = some own) {word a b : List Char} {ts ts' : List Token}
    (ha : ofCharsAfter word a = some ts) (hb : ofCharsAfter [] b = some ts') :
    ofCharsAfter word (a ++ c :: b) = some (ts ++ (own ++ ts')) := by
  induction a generalizing word ts with
  | nil =>
    rw [List.nil_append, ofCharsAfter_of_not_continues (hc word), hb, Option.bind_some, hown,
      Option.bind_some]
    exact withWord_append ha _
  | cons d a ih =>
    rw [List.cons_append]
    by_cases hd : continues word d = true
    · rw [ofCharsAfter_of_continues hd] at ha ⊢
      exact ih ha
    · rw [Bool.not_eq_true] at hd
      obtain ⟨own', tokens, hown', htokens, hts⟩ := ofCharsAfter_eq_some hd ha
      rw [ofCharsAfter_of_not_continues hd, ih htokens, Option.bind_some, hown',
        Option.bind_some, ← List.append_assoc]
      exact withWord_append hts _

/-! ## Words -/

/-- The start of a word: what does not start a number has word characters only. -/
def IsWord (word : List Char) : Prop :=
  startsNumber word = true ∨ ∀ c ∈ word, Identifier.isTail c = true

theorem isWord_nil : IsWord [] :=
  .inr (by simp)

theorem startsNumber_append {word : List Char} (h : startsNumber word = true)
    (rest : List Char) : startsNumber (word ++ rest) = true := by
  cases word with
  | nil => cases h
  | cons c word => exact h

/-- A word stays one as it goes on. -/
theorem IsWord.concat {word : List Char} (h : IsWord word) {c : Char}
    (hc : continues word c = true) : IsWord (word ++ [c]) := by
  by_cases hstarts : startsNumber word = true
  · exact .inl (startsNumber_append hstarts _)
  · have hword := h.resolve_left hstarts
    have hpoint : ¬ ((!word.isEmpty) = true ∧ word.all Char.isDigit = true) := by
      rintro ⟨hne, hdigits⟩
      cases word with
      | nil => cases hne
      | cons d rest =>
        rw [List.all_cons, Bool.and_eq_true] at hdigits
        exact hstarts hdigits.1
    right
    rw [List.forall_mem_append, List.forall_mem_singleton]
    refine ⟨hword, ?_⟩
    simp only [continues, Bool.or_eq_true, Bool.and_eq_true] at hc
    rcases hc with (hc | ⟨⟨-, hne⟩, hdigits⟩) | ⟨⟨-, hnumber⟩, -⟩
    · exact hc
    · exact absurd ⟨hne, hdigits⟩ hpoint
    · exact absurd hnumber hstarts

/-- What is left of the digits of a number behind its point. -/
def fraction : List Char → List Char
  | '.' :: rest => rest.dropWhile Char.isDigit
  | rest => rest

/-- What is left of an exponent behind its sign. -/
def unsigned : List Char → List Char
  | '+' :: rest | '-' :: rest => rest
  | rest => rest

theorem isNumber_eq (word : List Char) : isNumber word =
    match fraction (word.dropWhile Char.isDigit) with
    | [] => true
    | 'e' :: exponent | 'E' :: exponent =>
      !(unsigned exponent).isEmpty && (unsigned exponent).all Char.isDigit
    | _ => false := rfl

theorem suffix_unsigned (exponent : List Char) : unsigned exponent <:+ exponent := by
  unfold unsigned
  split
  · exact List.suffix_cons _ _
  · exact List.suffix_cons _ _
  · exact List.suffix_rfl

/-- Before the exponent a number has digits and a point only. -/
theorem exists_eq_append_fraction (word : List Char) :
    ∃ front, word = front ++ fraction (word.dropWhile Char.isDigit) ∧
      ∀ c ∈ front, c.isDigit = true ∨ c = '.' := by
  have hsplit := List.takeWhile_append_dropWhile (p := Char.isDigit) (l := word)
  have hdigits : ∀ {cs : List Char}, ∀ c ∈ cs.takeWhile Char.isDigit, c.isDigit = true := by
    intro cs c hc
    exact List.mem_takeWhile_imp hc
  unfold fraction
  split
  · rename_i rest hrest
    have hinner := List.takeWhile_append_dropWhile (p := Char.isDigit) (l := rest)
    refine ⟨word.takeWhile Char.isDigit ++ '.' :: rest.takeWhile Char.isDigit, ?_, ?_⟩
    · rw [List.append_assoc, List.cons_append, hinner, ← hrest, hsplit]
    · rw [List.forall_mem_append, List.forall_mem_cons]
      exact ⟨fun c hc => .inl (hdigits c hc), .inr rfl, fun c hc => .inl (hdigits c hc)⟩
  · exact ⟨_, hsplit.symm, fun c hc => .inl (hdigits c hc)⟩

/-- A number ends with a digit or a point. -/
theorem isDigit_or_eq_of_isNumber {word : List Char} (h : isNumber word = true) {c : Char}
    (hc : word.getLast? = some c) : c.isDigit = true ∨ c = '.' := by
  obtain ⟨front, hword, hfront⟩ := exists_eq_append_fraction word
  rw [isNumber_eq] at h
  have hexponent : ∀ exponent : List Char, exponent <:+ word →
      (!(unsigned exponent).isEmpty && (unsigned exponent).all Char.isDigit) = true →
        c.isDigit = true := by
    intro exponent hsuffix hdigits
    rw [Bool.and_eq_true, List.all_eq_true] at hdigits
    obtain ⟨before, hbefore⟩ := (suffix_unsigned exponent).trans hsuffix
    have hne : unsigned exponent ≠ [] := by simpa using hdigits.1
    rw [← hbefore, List.getLast?_append_of_ne_nil _ hne] at hc
    exact hdigits.2 c (List.mem_of_getLast? hc)
  generalize fraction (word.dropWhile Char.isDigit) = tail at hword h
  split at h
  · rw [List.append_nil] at hword
    exact hfront c (hword ▸ List.mem_of_getLast? hc)
  · exact .inl (hexponent _ ⟨front ++ ['e'], by simp [hword]⟩ h)
  · exact .inl (hexponent _ ⟨front ++ ['E'], by simp [hword]⟩ h)
  · cases h

end Token

end Lanewise
