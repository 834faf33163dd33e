import Lanewise.Overload.Signature
import Lanewise.Proofs.Identifier
import Lanewise.Target
import Mathlib.Data.List.Chain

/-!
# The texts of signatures and calls

Declarations and calls are made of identifiers, a few marks and the name of a type. They hold no
braces and no hash. An identifier may end in a line feed, but something other than a word character
follows it, so that no line of a text starts with a word that belongs to a signature.
-/

namespace Lanewise

theorem not_mem_append {a b : String} {c : Char} (ha : c ∉ a.toList) (hb : c ∉ b.toList) :
    c ∉ (a ++ b).toList := by
  rw [String.toList_append, List.mem_append]
  rintro (h | h)
  · exact ha h
  · exact hb h

/-- What holds of some texts and goes over to two of them with a comma between holds of all of them
with commas between. -/
theorem Text.commaSeparated_closed {P : String → Prop} (empty : P "")
    (join : ∀ {a b : String}, P a → P b → P (a ++ ", " ++ b)) {items : List String}
    (h : ∀ item ∈ items, P item) : P (Text.commaSeparated items) := by
  unfold Text.commaSeparated
  induction items with
  | nil => exact empty
  | cons item rest ih =>
    rw [List.forall_mem_cons] at h
    cases rest with
    | nil =>
      rw [String.intercalate_singleton]
      exact h.1
    | cons next rest =>
      rw [String.intercalate_cons_cons]
      exact join h.1 (ih h.2)

/-- After a line feed comes no word character. -/
def Severed (a b : Char) : Prop :=
  a = '\n' → Identifier.isTail b = false

/-- A text in which no line but the first starts with a word. -/
def FeedSafe (text : String) : Prop :=
  text.toList.IsChain Severed

namespace FeedSafe

variable {a b : String}

theorem of_not_mem (h : '\n' ∉ a.toList := by decide) : FeedSafe a := by
  unfold FeedSafe
  generalize a.toList = cs at h
  induction cs with
  | nil => exact .nil
  | cons c rest ih =>
    rw [List.mem_cons, not_or] at h
    rw [List.isChain_cons]
    exact ⟨fun d _ hc => absurd hc.symm h.1, ih h.2⟩

theorem append (ha : FeedSafe a) (hb : FeedSafe b)
    (h : ∀ c ∈ a.toList.getLast?, ∀ d ∈ b.toList.head?, Severed c d) : FeedSafe (a ++ b) := by
  rw [FeedSafe, String.toList_append, List.isChain_append]
  exact ⟨ha, hb, h⟩

/-- Something on one line comes first. -/
theorem before (hb : FeedSafe b) (ha : '\n' ∉ a.toList := by decide) : FeedSafe (a ++ b) := by
  refine append (of_not_mem ha) hb ?_
  intro c hc d _ he
  have hfeed : '\n' ∈ a.toList := he ▸ List.mem_of_mem_getLast? hc
  exact absurd hfeed ha

/-- Something that starts with a mark comes last. -/
theorem after (ha : FeedSafe a) (hb : FeedSafe b)
    (hmark : b.toList.head?.any (fun c => !Identifier.isTail c) = true) : FeedSafe (a ++ b) := by
  refine append ha hb ?_
  intro c _ d hd _
  rw [Option.mem_def.1 hd] at hmark
  simpa using hmark

end FeedSafe

/-- The characters of signatures and calls. -/
def isSignatureChar (c : Char) : Bool :=
  Identifier.isTail c || "\n ()[]:,.<>-".toList.contains c

/-- A text of signatures and calls without a line feed. -/
def isSignatureLine (text : String) : Bool :=
  text.toList.all fun c => isSignatureChar c && c != '\n'

/-- Such a text that starts with a mark. -/
def isSeparator (text : String) : Bool :=
  isSignatureLine text && text.toList.head?.any fun c => !Identifier.isTail c

/-- A text that signatures and calls have. -/
structure SignatureText (text : String) : Prop where
  chars : ∀ c ∈ text.toList, isSignatureChar c = true
  feedSafe : FeedSafe text

namespace SignatureText

variable {a b : String}

theorem not_mem (h : SignatureText a) {c : Char} (hc : isSignatureChar c = false) :
    c ∉ a.toList := by
  intro hm
  rw [h.chars c hm] at hc
  cases hc

theorem literal (h : isSignatureLine a = true := by decide) : SignatureText a := by
  have hall : ∀ c ∈ a.toList, isSignatureChar c = true ∧ c ≠ '\n' := by
    simpa [isSignatureLine] using h
  refine ⟨fun c hc => (hall c hc).1, .of_not_mem fun hfeed => ?_⟩
  exact (hall _ hfeed).2 rfl

theorem line_feed_not_mem (h : isSignatureLine a = true) : '\n' ∉ a.toList := by
  intro hfeed
  have hall := List.all_eq_true.1 h _ hfeed
  exact absurd hall (by decide)

theorem append_chars (ha : SignatureText a) (hb : SignatureText b) :
    ∀ c ∈ (a ++ b).toList, isSignatureChar c = true := by
  rw [String.toList_append, List.forall_mem_append]
  exact ⟨ha.chars, hb.chars⟩

/-- Something on one line comes first. -/
theorem before (hb : SignatureText b) (ha : isSignatureLine a = true := by decide) :
    SignatureText (a ++ b) :=
  ⟨(literal ha).append_chars hb, hb.feedSafe.before (line_feed_not_mem ha)⟩

/-- Something on one line stands between, which starts with a mark. -/
theorem join (ha : SignatureText a) (hb : SignatureText b) {between : String}
    (hbetween : isSeparator between = true := by decide) :
    SignatureText (a ++ between ++ b) := by
  rw [isSeparator, Bool.and_eq_true] at hbetween
  obtain ⟨hline, hmark⟩ := hbetween
  have hrest : SignatureText (between ++ b) := hb.before hline
  rw [String.append_assoc]
  refine ⟨ha.append_chars hrest, ha.feedSafe.after hrest.feedSafe ?_⟩
  have hne : between.toList ≠ [] := by
    intro h
    rw [h] at hmark
    cases hmark
  rwa [String.toList_append, List.head?_append_of_ne_nil _ hne]

/-- Something on one line comes last, which starts with a mark. -/
theorem after (ha : SignatureText a) (hb : isSeparator b = true := by decide) :
    SignatureText (a ++ b) := by
  have hjoin := ha.join (.literal : SignatureText "") hb
  rwa [String.append_empty] at hjoin

theorem commaSeparated {items : List String} (hi : ∀ item ∈ items, SignatureText item) :
    SignatureText (Text.commaSeparated items) :=
  Text.commaSeparated_closed .literal (fun ha hb => ha.join hb) hi

theorem identifier (i : Identifier) : SignatureText i.text := by
  have hcompletes := Identifier.completes_of_accepts i.valid
  constructor
  · intro c hc
    rcases Identifier.isTail_or_eq_of_mem hcompletes c hc with h | rfl
    · rw [isSignatureChar, h, Bool.true_or]
    · decide
  · unfold FeedSafe
    generalize i.text.toList = cs at hcompletes
    induction cs with
    | nil => exact .nil
    | cons c rest ih =>
      simp only [Identifier.completes, Bool.or_eq_true, Bool.and_eq_true, beq_iff_eq] at hcompletes
      rcases hcompletes with ⟨-, hr⟩ | ⟨hc, hr⟩
      · rw [List.isEmpty_iff.1 hr]
        exact .singleton c
      · rw [List.isChain_cons]
        refine ⟨fun d _ he => ?_, ih hr⟩
        rw [he] at hc
        exact absurd hc (by decide)

end SignatureText

/-! ## Type names -/

/-- A number is written in digits, behind a minus sign when it is negative. -/
theorem isDigit_or_eq_of_mem_toString {n : Int} {c : Char} (hc : c ∈ (toString n).toList) :
    c.isDigit = true ∨ c = '-' := by
  have hnat : ∀ m : Nat, c ∈ m.repr.toList → c.isDigit = true := by
    intro m hm
    rw [Nat.toList_repr] at hm
    exact Nat.isDigit_of_mem_toDigits (by decide) (by decide) hm
  rw [Int.toString_eq_repr, Int.repr_eq_if] at hc
  split at hc
  · exact .inl (hnat _ hc)
  · rw [String.toList_append, List.mem_append] at hc
    rcases hc with hc | hc
    · exact .inr (List.mem_singleton.1 hc)
    · exact .inl (hnat _ hc)

theorem isSignatureLine_append {a b : String} (ha : isSignatureLine a = true)
    (hb : isSignatureLine b = true) : isSignatureLine (a ++ b) = true := by
  rw [isSignatureLine, String.toList_append, List.all_append, Bool.and_eq_true]
  exact ⟨ha, hb⟩

theorem isSignatureLine_toString (n : Int) : isSignatureLine (toString n) = true := by
  rw [isSignatureLine, List.all_eq_true]
  intro c hc
  rcases isDigit_or_eq_of_mem_toString hc with hd | rfl
  · have hne : c ≠ '\n' := by
      rintro rfl
      exact absurd hd (by decide)
    simp [isSignatureChar, Identifier.isTail, Char.isAlphanum, hd, hne]
  · decide

theorem Target.isSignatureLine_typeName (t : Target) : isSignatureLine t.typeName = true := by
  have hprecision : ∀ precision : Precision, isSignatureLine precision.typeName = true := by
    intro precision
    cases precision <;> decide
  cases t with
  | generic => decide
  | scalar precision => exact hprecision precision
  | vector precision width =>
    have hlanes := isSignatureLine_append (a := "SIMD") (by decide)
      (isSignatureLine_toString width)
    have hopen := isSignatureLine_append hlanes (b := "<") (by decide)
    exact isSignatureLine_append (isSignatureLine_append hopen (hprecision precision)) (by decide)

theorem Target.line_feed_not_mem_typeName (t : Target) : '\n' ∉ t.typeName.toList :=
  SignatureText.line_feed_not_mem t.isSignatureLine_typeName

/-! ## Signatures and calls -/

namespace SignatureText

theorem typeName (t : Target) : SignatureText t.typeName :=
  literal t.isSignatureLine_typeName

theorem parameters (o : Overload) (t : Target) : SignatureText (o.parameters t.typeName) := by
  have htype : ∀ a : Argument, SignatureText (a.typeIn t.typeName) := by
    intro a
    unfold Argument.typeIn Argument.fixedTypeName
    cases a.fixedType with
    | none => exact typeName t
    | some fixed => exact identifier fixed
  have hparameter : ∀ a : Argument, SignatureText (a.parameter t.typeName) := by
    intro a
    have htyped : SignatureText (a.name.text ++ ": " ++ a.typeIn t.typeName) :=
      (identifier a.name).join (htype a)
    unfold Argument.parameter
    cases a.label with
    | none => exact htyped
    | some label => exact (identifier label).join htyped
  refine commaSeparated fun item hi => ?_
  obtain ⟨a, -, rfl⟩ := List.mem_map.1 hi
  exact hparameter a

theorem declaration (o : Overload) (t : Target) : SignatureText (o.declaration t.typeName) := by
  have hname : SignatureText ("public static func " ++ o.name.text) := (identifier o.name).before
  have hopen : SignatureText ("public static func " ++ o.name.text ++ "("
    ++ o.parameters t.typeName) := hname.join (parameters o t)
  exact hopen.join (typeName t)

theorem call (o : Overload) (indexed : Bool) {qualifier : String}
    (hq : isSignatureLine qualifier = true := by decide) :
    SignatureText (o.call indexed qualifier) := by
  have hvalue : ∀ a : Argument, SignatureText (a.value indexed) := by
    intro a
    unfold Argument.value
    split
    · exact (identifier a.name).after
    · exact identifier a.name
  have hpiece : ∀ a : Argument, SignatureText (a.callPiece indexed) := by
    intro a
    unfold Argument.callPiece
    split
    · exact hvalue a
    · exact (identifier _).join (hvalue a)
  have harguments : SignatureText (o.callArguments indexed) := by
    refine commaSeparated fun item hi => ?_
    obtain ⟨a, -, rfl⟩ := List.mem_map.1 hi
    exact hpiece a
  have hname : SignatureText (qualifier ++ o.name.text) := (identifier o.name).before hq
  have hopen : SignatureText (qualifier ++ o.name.text ++ "(" ++ o.callArguments indexed) :=
    hname.join harguments
  exact hopen.after

end SignatureText

/-- The call of an accelerated form. -/
def Overload.acceleratedCall (o : Overload) (acceleratedName : String) : String :=
  "simd." ++ acceleratedName ++ "(" ++ o.acceleratedArguments ++ ")"

theorem SignatureText.acceleratedCall (o : Overload) (i : Identifier) :
    SignatureText (o.acceleratedCall i.text) := by
  have harguments : SignatureText o.acceleratedArguments := by
    refine commaSeparated fun item hi => ?_
    obtain ⟨a, -, rfl⟩ := List.mem_map.1 hi
    unfold Argument.acceleratedPiece
    split
    · have hname : SignatureText (".init(repeating: .init(" ++ a.name.text) :=
        (identifier a.name).before
      exact hname.after
    · exact identifier a.name
  have hname : SignatureText ("simd." ++ i.text) := (identifier i).before
  have hopen : SignatureText ("simd." ++ i.text ++ "(" ++ o.acceleratedArguments) :=
    hname.join harguments
  exact hopen.after

end Lanewise
