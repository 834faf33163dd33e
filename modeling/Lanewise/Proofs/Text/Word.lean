import Lanewise.Text.Word
import Mathlib.Data.List.Basic

/-!
# Whole words in a text and in its source

A word found in a text may have come about while the text was made from a source: what is put into
the source can complete a word, and so can a line break that goes away. The relation `Shows` says how
a text may differ from its source so that this cannot happen. Every whole word of such a text is one
of the source.
-/

namespace Lanewise

namespace Text

/-- The word stands in the text, and no word character stands directly before or after it. -/
def HasWholeWord (word text : List Char) : Prop :=
  ∃ before after, text = before ++ word ++ after ∧
    before.getLast?.any isWordChar = false ∧ after.head?.any isWordChar = false

/-- How a text is made from a source without making the word: line breaks are written otherwise or
left out at the end, and parts are replaced by names that do not start with a character of the word.
-/
inductive Shows (word : List Char) : List Char → List Char → Prop
  /-- Nothing is shown of an end that does not go on with a word. -/
  | ending {source : List Char} (hsource : source.head?.any isWordChar = false) :
      Shows word source []
  /-- A character is shown. -/
  | char (c : Char) {source text : List Char} (h : Shows word source text) :
      Shows word (c :: source) (c :: text)
  /-- A mark is shown for some characters of which none belongs to a word. -/
  | mark {front : List Char} {c : Char} {source text : List Char} (hfront : front ≠ [])
      (hmarks : ∀ d ∈ front, isWordChar d = false) (hc : c ∉ word) (h : Shows word source text) :
      Shows word (front ++ source) (c :: text)
  /-- A name is shown in the place of some characters. -/
  | name {front : List Char} {c : Char} {rest source text : List Char}
      (hname : ∀ d ∈ c :: rest, isWordChar d = true) (hc : c ∉ word) (h : Shows word source text) :
      Shows word (front ++ source) (c :: rest ++ text)

/-! ## Occurrences -/

section

variable {word : List Char} {previous previous' : Option Char} {text : List Char}

theorem hasWordAfter_cons {c : Char} {rest : List Char} :
    hasWordAfter word previous (c :: rest) = true ↔
      (previous.any isWordChar = false ∧ ∃ after, c :: rest = word ++ after ∧
        after.head?.any isWordChar = false) ∨ hasWordAfter word (some c) rest = true := by
  rw [hasWordAfter, Bool.or_eq_true, Bool.and_eq_true, Bool.and_eq_true, and_assoc,
    Bool.not_eq_true', Bool.not_eq_true', List.isPrefixOf_iff_prefix]
  refine or_congr_left (and_congr_right fun _ => ⟨?_, ?_⟩)
  · rintro ⟨⟨after, hafter⟩, hboundary⟩
    rw [← hafter, List.drop_left] at hboundary
    exact ⟨after, hafter.symm, hboundary⟩
  · rintro ⟨after, hafter, hboundary⟩
    rw [hafter, List.drop_left]
    exact ⟨List.prefix_append word after, hboundary⟩

/-- What was before only has to be no word character. -/
theorem hasWordAfter_mono (hprevious : previous'.any isWordChar = true →
      previous.any isWordChar = true) (h : hasWordAfter word previous text = true) :
    hasWordAfter word previous' text = true := by
  cases text with
  | nil => cases h
  | cons c rest =>
    rw [hasWordAfter_cons] at h ⊢
    refine h.imp_left fun ⟨hbefore, hafter⟩ => ⟨?_, hafter⟩
    rw [Bool.eq_false_iff] at hbefore ⊢
    exact fun h' => hbefore (hprevious h')

/-- In a run of word characters no word starts, so one is found only behind it. -/
theorem hasWordAfter_of_append {c : Char} {run : List Char}
    (hrun : ∀ d ∈ c :: run, isWordChar d = true)
    (h : hasWordAfter word (some c) (run ++ text) = true) :
    ∃ d, isWordChar d = true ∧ hasWordAfter word (some d) text = true := by
  induction run generalizing c with
  | nil => exact ⟨c, hrun c List.mem_cons_self, h⟩
  | cons d run ih =>
    rw [List.forall_mem_cons] at hrun
    rw [List.cons_append, hasWordAfter_cons] at h
    rcases h with ⟨hboundary, -⟩ | h
    · have hc : isWordChar c = false := hboundary
      rw [hrun.1] at hc
      cases hc
    · exact ih hrun.2 h

/-- A word that is one behind a word character stands as well behind anything else. -/
theorem hasWordAfter_append_left {c : Char} (hc : isWordChar c = true) (front : List Char)
    (h : hasWordAfter word (some c) text = true) :
    hasWordAfter word previous (front ++ text) = true := by
  induction front generalizing previous with
  | nil =>
    have hprevious : previous.any isWordChar = true → (some c).any isWordChar = true := fun _ => hc
    exact hasWordAfter_mono hprevious h
  | cons d rest ih => exact hasWordAfter_cons.2 (.inr ih)

/-- Behind marks a word is found as behind anything else. -/
theorem hasWordAfter_append_marks {c : Char} {front : List Char} (hne : front ≠ [])
    (hmarks : ∀ d ∈ front, isWordChar d = false) (h : hasWordAfter word (some c) text = true) :
    hasWordAfter word previous (front ++ text) = true := by
  induction front generalizing previous with
  | nil => exact absurd rfl hne
  | cons d rest ih =>
    rw [List.forall_mem_cons] at hmarks
    refine hasWordAfter_cons.2 (.inr ?_)
    by_cases hrest : rest = []
    · subst hrest
      refine hasWordAfter_mono (fun hd => ?_) h
      have hd : isWordChar d = true := hd
      rw [hmarks.1] at hd
      cases hd
    · exact ih hrest hmarks.2

/-- A word starts with one of its characters. -/
theorem cons_ne_append {c : Char} {rest after : List Char} (hne : word ≠ []) (hc : c ∉ word) :
    c :: rest ≠ word ++ after := by
  obtain ⟨d, tail, rfl⟩ := List.exists_cons_of_ne_nil hne
  rintro h
  exact hc ((List.cons.inj h).1 ▸ List.mem_cons_self)

theorem getLast?_cons_or {α : Type} (c : α) (before : List α) (previous : Option α) :
    (c :: before).getLast?.or previous = before.getLast?.or (some c) := by
  rw [List.getLast?_cons]
  cases before.getLast? <;> rfl

/-- A word found in what follows some text is found with the boundaries it has there. -/
theorem hasWordAfter_iff (hne : word ≠ []) :
    hasWordAfter word previous text = true ↔ ∃ before after, text = before ++ word ++ after ∧
      (before.getLast?.or previous).any isWordChar = false ∧
      after.head?.any isWordChar = false := by
  induction text generalizing previous with
  | nil =>
    constructor
    · intro h
      cases h
    · rintro ⟨before, after, htext, -⟩
      rw [eq_comm, List.append_eq_nil_iff, List.append_eq_nil_iff] at htext
      exact absurd htext.1.2 hne
  | cons c rest ih =>
    rw [hasWordAfter_cons, ih]
    constructor
    · rintro (⟨hprevious, after, hafter, hboundary⟩ | ⟨before, after, hrest, hbefore, hboundary⟩)
      · exact ⟨[], after, hafter, hprevious, hboundary⟩
      · refine ⟨c :: before, after, congrArg (c :: ·) hrest, ?_, hboundary⟩
        rw [getLast?_cons_or]
        exact hbefore
    · rintro ⟨before, after, htext, hbefore, hboundary⟩
      cases before with
      | nil => exact .inl ⟨hbefore, after, htext, hboundary⟩
      | cons d before =>
        obtain ⟨rfl, hrest⟩ := List.cons.inj htext
        rw [getLast?_cons_or] at hbefore
        exact .inr ⟨before, after, hrest, hbefore, hboundary⟩

/-- In a text with nothing before it the search finds exactly the whole words. -/
theorem hasWordAfter_none_iff (hne : word ≠ []) :
    hasWordAfter word none text = true ↔ HasWholeWord word text := by
  rw [hasWordAfter_iff hne]
  simp only [Option.or_none, HasWholeWord]

/-- The search for a whole word finds exactly the whole words. -/
theorem hasWord_iff {word text : String} (hne : word.toList ≠ []) :
    hasWord word text = true ↔ HasWholeWord word.toList text.toList :=
  hasWordAfter_none_iff hne

end

/-! ## Showing a source -/

namespace Shows

variable {word source text : List Char} {previous : Option Char}

/-- The characters of a word are shown as they are. -/
theorem exists_append {front : List Char} (h : Shows word source (front ++ text))
    (hfront : ∀ c ∈ front, c ∈ word) : ∃ rest, source = front ++ rest ∧ Shows word rest text := by
  induction front generalizing source with
  | nil => exact ⟨source, rfl, h⟩
  | cons d front ih =>
    rw [List.forall_mem_cons] at hfront
    generalize htext : d :: front ++ text = shown at h
    cases h with
    | ending _ => cases htext
    | char c h =>
      obtain ⟨rfl, rfl⟩ := List.cons.inj htext
      obtain ⟨rest, rfl, hrest⟩ := ih h hfront.2
      exact ⟨rest, rfl, hrest⟩
    | mark _ _ hc _ =>
      obtain ⟨rfl, -⟩ := List.cons.inj htext
      exact absurd hfront.1 hc
    | name _ hc _ =>
      obtain ⟨rfl, -⟩ := List.cons.inj htext
      exact absurd hfront.1 hc

/-- Where no word goes on in the text, none goes on in the source. -/
theorem head?_any (h : Shows word source text) (htext : text.head?.any isWordChar = false) :
    source.head?.any isWordChar = false := by
  cases h with
  | ending hsource => exact hsource
  | char c _ => exact htext
  | @mark front _ source _ hfront hmarks _ _ =>
    obtain ⟨d, rest, rfl⟩ := List.exists_cons_of_ne_nil hfront
    exact hmarks d List.mem_cons_self
  | @name _ c _ _ _ hname _ _ =>
    have hc : isWordChar c = false := htext
    rw [hname c List.mem_cons_self] at hc
    cases hc

theorem hasWordAfter (h : Shows word source text) (hne : word ≠ [])
    (hword : Text.hasWordAfter word previous text = true) :
    Text.hasWordAfter word previous source = true := by
  induction h generalizing previous with
  | ending _ => cases hword
  | @char c source text h ih =>
    rw [hasWordAfter_cons] at hword ⊢
    rcases hword with ⟨hprevious, after, hafter, hboundary⟩ | hword
    · have hshown : Shows word (c :: source) (word ++ after) := hafter ▸ .char c h
      obtain ⟨rest, hrest, hend⟩ := hshown.exists_append fun _ hmem => hmem
      exact .inl ⟨hprevious, rest, hrest, hend.head?_any hboundary⟩
    · exact .inr (ih hword)
  | @mark front c source text hfront hmarks hc h ih =>
    rw [hasWordAfter_cons] at hword
    rcases hword with ⟨-, after, hafter, -⟩ | hword
    · exact absurd hafter (cons_ne_append hne hc)
    · exact hasWordAfter_append_marks hfront hmarks (ih hword)
  | @name front c rest source text hname hc h ih =>
    rw [List.cons_append, hasWordAfter_cons] at hword
    rcases hword with ⟨-, after, hafter, -⟩ | hword
    · exact absurd hafter (cons_ne_append hne hc)
    · obtain ⟨d, hd, hbehind⟩ := hasWordAfter_of_append hname hword
      exact hasWordAfter_append_left hd front (ih hbehind)

/-- Every whole word of the text is one of the source. -/
theorem hasWholeWord (h : Shows word source text) (hne : word ≠ []) (hword : HasWholeWord word text) :
    HasWholeWord word source :=
  (hasWordAfter_none_iff hne).1 (h.hasWordAfter hne ((hasWordAfter_none_iff hne).2 hword))

end Shows

end Text

end Lanewise
