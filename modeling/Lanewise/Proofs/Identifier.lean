import Lanewise.Identifier
import Mathlib.Data.List.Basic

/-!
# The characters of identifiers

An identifier holds letters, digits and underscores, and at most one line feed, which then is its
last character. So two identifiers that are written one after the other make an identifier exactly
when the first has no line feed, and an identifier can be cut in front of each character that may
start one.
-/

namespace Lanewise.Identifier

theorem isTail_of_isHead {c : Char} (h : isHead c = true) : isTail c = true := by
  unfold isHead at h
  unfold isTail
  rw [Bool.or_eq_true] at h ⊢
  rcases h with h | h
  · exact Or.inl (by simp [Char.isAlphanum, h])
  · exact Or.inr h

theorem toNat_of_isTail {c : Char} (h : isTail c = true) :
    48 ≤ c.toNat ∧ c.toNat ≤ 122 := by
  rw [isTail, Bool.or_eq_true, beq_iff_eq] at h
  rcases h with h | rfl
  · have halphanum : ((c.isUpper || c.isLower) || c.isDigit) = true := h
    rw [Bool.or_eq_true, Bool.or_eq_true] at halphanum
    rcases halphanum with (hupper | hlower) | hdigit
    · have hrange : 'A'.val ≤ c.val ∧ c.val ≤ 'Z'.val := of_decide_eq_true hupper
      have hlow : 65 ≤ c.toNat := UInt32.le_iff_toNat_le.1 hrange.1
      have hhigh : c.toNat ≤ 90 := UInt32.le_iff_toNat_le.1 hrange.2
      omega
    · have hrange : (decide ('a'.val ≤ c.val) && decide (c.val ≤ 'z'.val)) = true := hlower
      rw [Bool.and_eq_true, decide_eq_true_eq, decide_eq_true_eq] at hrange
      have hlow : 97 ≤ c.toNat := UInt32.le_iff_toNat_le.1 hrange.1
      have hhigh : c.toNat ≤ 122 := UInt32.le_iff_toNat_le.1 hrange.2
      omega
    · obtain ⟨hlow, hhigh⟩ := Char.isDigit_iff_toNat.1 hdigit
      have hnine : '9'.toNat ≤ 122 := by decide
      exact ⟨hlow, Nat.le_trans hhigh hnine⟩
  · decide

/-- The capital of a character that may follow in an identifier may follow too. -/
theorem isTail_toUpper {c : Char} (h : isTail c = true) : isTail c.toUpper = true := by
  unfold Char.toUpper
  split
  · rename_i hlower
    have hlow : 97 ≤ c.toNat := UInt32.le_iff_toNat_le.1 hlower.1
    have hhigh : c.toNat ≤ 122 := UInt32.le_iff_toNat_le.1 hlower.2
    -- A capital comes 32 places before its letter, and the sum wraps around.
    have hcapital : (c.val + ('A'.val - 'a'.val)).toNat = c.toNat - 32 := by
      have hoffset : ('A'.val - 'a'.val).toNat = 2 ^ 32 - 32 := rfl
      rw [UInt32.toNat_add, hoffset, Char.toNat_val]
      omega
    have hupper : 'A'.val ≤ c.val + ('A'.val - 'a'.val) ∧
        c.val + ('A'.val - 'a'.val) ≤ 'Z'.val := by
      have hfirst : 'A'.val.toNat = 65 := rfl
      have hlast : 'Z'.val.toNat = 90 := rfl
      rw [UInt32.le_iff_toNat_le, UInt32.le_iff_toNat_le, hcapital, hfirst, hlast]
      omega
    have htail : ∀ d : Char, d.isUpper = true → isTail d = true := by
      intro d hd
      show (((d.isUpper || d.isLower) || d.isDigit) || d == '_') = true
      rw [hd, Bool.true_or, Bool.true_or, Bool.true_or]
    exact htail _ (decide_eq_true hupper)
  · exact h

theorem isTail_or_eq_of_mem {cs : List Char} (h : completes cs = true) :
    ∀ c ∈ cs, isTail c = true ∨ c = '\n' := by
  induction cs with
  | nil => simp
  | cons c rest ih =>
    simp only [completes, Bool.or_eq_true, Bool.and_eq_true, beq_iff_eq] at h
    intro d hd
    rcases h with ⟨hc, hr⟩ | ⟨hc, hr⟩
    · rw [List.isEmpty_iff.1 hr, List.mem_singleton] at hd
      exact Or.inr (hd.trans hc)
    · rcases List.mem_cons.1 hd with rfl | hd
      · exact Or.inl hc
      · exact ih hr d hd

theorem completes_of_forall {cs : List Char} (h : ∀ c ∈ cs, isTail c = true) :
    completes cs = true := by
  induction cs with
  | nil => rfl
  | cons c rest ih =>
    rw [List.forall_mem_cons] at h
    simp [completes, h.1, ih h.2]

theorem completes_of_accepts {cs : List Char} (h : accepts cs = true) : completes cs = true := by
  cases cs with
  | nil => exact absurd h (by simp [accepts])
  | cons c rest =>
    simp only [accepts, Bool.and_eq_true] at h
    simp [completes, isTail_of_isHead h.1, h.2]

theorem accepts_of_completes {c : Char} {rest : List Char} (hc : isHead c = true)
    (h : completes (c :: rest) = true) : accepts (c :: rest) = true := by
  simp only [completes, Bool.or_eq_true, Bool.and_eq_true, beq_iff_eq] at h
  rcases h with ⟨rfl, -⟩ | ⟨-, h⟩
  · exact absurd hc (by decide)
  · simp [accepts, hc, h]

theorem ne_nil_of_accepts {cs : List Char} (h : accepts cs = true) : cs ≠ [] := by
  rintro rfl
  exact absurd h (by simp [accepts])

/-- An identifier is its first character and what completes it. -/
theorem exists_eq_cons (name : Identifier) :
    ∃ c cs, name.text.toList = c :: cs ∧ isHead c = true ∧ completes cs = true := by
  obtain ⟨text, hvalid⟩ := name
  cases hcs : text.toList with
  | nil => exact absurd hcs (ne_nil_of_accepts hvalid)
  | cons c cs =>
    rw [hcs, accepts, Bool.and_eq_true] at hvalid
    exact ⟨c, cs, rfl, hvalid⟩

/-- A character that is neither a word character nor a line feed is in no identifier. -/
theorem not_mem_of_isTail_eq_false {cs : List Char} (h : accepts cs = true) {c : Char}
    (hc : isTail c = false) (hn : c ≠ '\n') : c ∉ cs := by
  intro hm
  rcases isTail_or_eq_of_mem (completes_of_accepts h) c hm with ht | rfl
  · rw [hc] at ht
    exact absurd ht (by decide)
  · exact hn rfl

/-! ## Cutting and joining -/

/-- Where something follows, the rest of an identifier has word characters only. -/
theorem completes_append {a b : List Char} (hb : b ≠ []) :
    completes (a ++ b) = true ↔ (∀ c ∈ a, isTail c = true) ∧ completes b = true := by
  induction a with
  | nil => simp
  | cons c rest ih =>
    have hne : (rest ++ b).isEmpty = false := by simp [hb]
    simp only [List.cons_append, completes, hne, Bool.and_false, Bool.false_or, Bool.and_eq_true,
      ih, List.forall_mem_cons, and_assoc]

theorem line_feed_not_mem_of_forall {cs : List Char} (h : ∀ c ∈ cs, isTail c = true) :
    '\n' ∉ cs := by
  intro hm
  exact absurd (h _ hm) (by decide)

/-- Two texts make an identifier when the first is one without a line feed and the second goes on
with it. -/
theorem accepts_append {a b : List Char} (ha : a ≠ []) (hb : b ≠ []) :
    accepts (a ++ b) = true ↔ accepts a = true ∧ '\n' ∉ a ∧ completes b = true := by
  cases a with
  | nil => exact absurd rfl ha
  | cons c rest =>
    simp only [List.cons_append, accepts, Bool.and_eq_true, completes_append hb, and_assoc]
    constructor
    · rintro ⟨hc, hr, hb⟩
      have hall : ∀ d ∈ c :: rest, isTail d = true :=
        List.forall_mem_cons.2 ⟨isTail_of_isHead hc, hr⟩
      exact ⟨hc, completes_of_forall hr, line_feed_not_mem_of_forall hall, hb⟩
    · rintro ⟨hc, hr, hn, hb⟩
      refine ⟨hc, fun d hd => ?_, hb⟩
      rcases isTail_or_eq_of_mem hr d hd with h | rfl
      · exact h
      · exact absurd (List.mem_cons_of_mem _ hd) hn

/-- The line feed of an identifier is its last character. -/
theorem line_feed_not_mem_of_getLast? {cs : List Char} (h : accepts cs = true)
    (hl : cs.getLast? ≠ some '\n') : '\n' ∉ cs := by
  obtain ⟨front, last, rfl⟩ := List.eq_nil_or_concat cs |>.resolve_left (ne_nil_of_accepts h)
  rw [List.concat_eq_append] at h hl ⊢
  have hlast : '\n' ≠ last := fun he => hl (by simpa using he.symm)
  have hfront : ∀ c ∈ front, isTail c = true :=
    ((completes_append (by simp)).1 (completes_of_accepts h)).1
  intro hm
  rcases List.mem_append.1 hm with hm | hm
  · exact line_feed_not_mem_of_forall hfront hm
  · exact hlast (List.mem_singleton.1 hm)

/-! ## The grammar -/

/-- The characters of names: the letters, the digits and the underscore of ASCII. -/
def IsNameChar (c : Char) : Prop :=
  ('a' ≤ c ∧ c ≤ 'z') ∨ ('A' ≤ c ∧ c ≤ 'Z') ∨ ('0' ≤ c ∧ c ≤ '9') ∨ c = '_'

/-- A name: letters, digits and underscores, at least one of them, and no digit first. -/
structure IsName (text : String) : Prop where
  ne_empty : text ≠ ""
  chars : ∀ c ∈ text.toList, IsNameChar c
  head : ∀ c ∈ text.toList.head?, ¬ ('0' ≤ c ∧ c ≤ '9')

/-- A name, or a name with a line feed behind it. -/
def IsToleratedName (text : String) : Prop :=
  IsName text ∨ ∃ name, IsName name ∧ text = name ++ "\n"

theorem isDigit_iff (c : Char) : c.isDigit = true ↔ '0' ≤ c ∧ c ≤ '9' := by
  rw [Char.isDigit_iff_toNat]
  rfl

theorem isAlpha_iff (c : Char) :
    c.isAlpha = true ↔ ('A' ≤ c ∧ c ≤ 'Z') ∨ ('a' ≤ c ∧ c ≤ 'z') := by
  have hupper : c.isUpper = true ↔ 'A' ≤ c ∧ c ≤ 'Z' := by
    unfold Char.isUpper
    rw [decide_eq_true_iff]
    rfl
  have hlower : c.isLower = true ↔ 'a' ≤ c ∧ c ≤ 'z' := by
    unfold Char.isLower
    rw [Bool.and_eq_true, decide_eq_true_iff, decide_eq_true_iff]
    rfl
  have halpha : c.isAlpha = (c.isUpper || c.isLower) := rfl
  rw [halpha, Bool.or_eq_true, hupper, hlower]

theorem isTail_iff (c : Char) : isTail c = true ↔ IsNameChar c := by
  rw [isTail, Bool.or_eq_true, Char.isAlphanum, Bool.or_eq_true, isAlpha_iff, isDigit_iff,
    beq_iff_eq, IsNameChar]
  tauto

theorem isHead_iff (c : Char) : isHead c = true ↔ IsNameChar c ∧ ¬ ('0' ≤ c ∧ c ≤ '9') := by
  have hnine : ∀ {d : Char}, ¬ d ≤ '9' → d ≤ c → ¬ c ≤ '9' :=
    fun hd hdc hc => hd (Char.le_trans hdc hc)
  rw [isHead, Bool.or_eq_true, isAlpha_iff, beq_iff_eq, IsNameChar]
  constructor
  · rintro ((hupper | hlower) | rfl)
    · exact ⟨.inr (.inl hupper), fun hdigit => hnine (by decide) hupper.1 hdigit.2⟩
    · exact ⟨.inl hlower, fun hdigit => hnine (by decide) hlower.1 hdigit.2⟩
    · exact ⟨.inr (.inr (.inr rfl)), by decide⟩
  · rintro ⟨hlower | hupper | hdigit | hunderscore, hno⟩
    · exact .inl (.inr hlower)
    · exact .inl (.inl hupper)
    · exact absurd hdigit hno
    · exact .inr hunderscore

theorem isName_iff {text : String} :
    IsName text ↔ ∃ c rest, text.toList = c :: rest ∧ isHead c = true ∧
      ∀ d ∈ rest, isTail d = true := by
  constructor
  · rintro ⟨hne, hchars, hhead⟩
    obtain ⟨c, rest, hcs⟩ :=
      List.exists_cons_of_ne_nil fun hnil => hne (String.toList_eq_nil_iff.1 hnil)
    rw [hcs, List.forall_mem_cons] at hchars
    rw [hcs, List.head?_cons] at hhead
    exact ⟨c, rest, hcs, (isHead_iff c).2 ⟨hchars.1, hhead c rfl⟩,
      fun d hd => (isTail_iff d).2 (hchars.2 d hd)⟩
  · rintro ⟨c, rest, hcs, hc, hrest⟩
    obtain ⟨hchar, hdigit⟩ := (isHead_iff c).1 hc
    refine ⟨?_, ?_, ?_⟩
    · rintro rfl
      cases hcs
    · rw [hcs, List.forall_mem_cons]
      exact ⟨hchar, fun d hd => (isTail_iff d).1 (hrest d hd)⟩
    · rw [hcs, List.head?_cons]
      rintro d hd
      rwa [← Option.some.inj hd]

/-- What completes an identifier is a run of word characters, perhaps with a line feed behind. -/
theorem completes_iff {cs : List Char} :
    completes cs = true ↔
      ∃ run, (∀ c ∈ run, isTail c = true) ∧ (cs = run ∨ cs = run ++ ['\n']) := by
  constructor
  · intro h
    induction cs with
    | nil => exact ⟨[], by simp, .inl rfl⟩
    | cons c rest ih =>
      rw [completes, Bool.or_eq_true, Bool.and_eq_true, Bool.and_eq_true, beq_iff_eq,
        List.isEmpty_iff] at h
      rcases h with ⟨rfl, rfl⟩ | ⟨hc, hrest⟩
      · exact ⟨[], by simp, .inr rfl⟩
      · obtain ⟨run, hrun, hcs⟩ := ih hrest
        refine ⟨c :: run, List.forall_mem_cons.2 ⟨hc, hrun⟩, ?_⟩
        exact hcs.imp (congrArg (c :: ·)) (congrArg (c :: ·))
  · rintro ⟨run, hrun, rfl | rfl⟩
    · exact completes_of_forall hrun
    · exact (completes_append (by simp)).2 ⟨hrun, rfl⟩

/-- Identifiers are the names, and the names with a line feed behind them. -/
theorem accepts_iff (text : String) : accepts text.toList = true ↔ IsToleratedName text := by
  constructor
  · intro h
    obtain ⟨c, cs, hcs, hc, hcompletes⟩ := exists_eq_cons ⟨text, h⟩
    obtain ⟨run, hrun, rfl | rfl⟩ := completes_iff.1 hcompletes
    · exact .inl (isName_iff.2 ⟨c, cs, hcs, hc, hrun⟩)
    · have hname : IsName (String.ofList (c :: run)) :=
        isName_iff.2 ⟨c, run, String.toList_ofList, hc, hrun⟩
      refine .inr ⟨String.ofList (c :: run), hname, ?_⟩
      apply String.toList_injective
      rw [String.toList_append, String.toList_ofList]
      exact hcs
  · rintro (h | ⟨name, h, rfl⟩)
    · obtain ⟨c, rest, hcs, hc, hrest⟩ := isName_iff.1 h
      rw [hcs, accepts, hc, completes_of_forall hrest]
      rfl
    · obtain ⟨c, rest, hcs, hc, hrest⟩ := isName_iff.1 h
      have hfeed : completes (rest ++ "\n".toList) = true :=
        completes_iff.2 ⟨rest, hrest, .inr rfl⟩
      rw [String.toList_append, hcs, List.cons_append, accepts, hc, hfeed]
      rfl

/-- A name is an identifier that does not end in a line feed. -/
theorem isName_iff_accepts (text : String) :
    IsName text ↔ accepts text.toList = true ∧ text.toList.getLast? ≠ some '\n' := by
  constructor
  · intro h
    refine ⟨(accepts_iff text).2 (.inl h), fun hlast => ?_⟩
    have hfeed := h.chars '\n' (List.mem_of_getLast? hlast)
    rw [← isTail_iff] at hfeed
    cases hfeed
  · rintro ⟨h, hlast⟩
    rcases (accepts_iff text).1 h with hname | ⟨name, -, rfl⟩
    · exact hname
    · exact absurd (by simp) hlast

end Lanewise.Identifier
