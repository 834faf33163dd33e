import Lanewise.Catalog.Standard
import Lanewise.Proofs.Implementation.File

/-!
# The file of implementations with acceleration

Whether the module of the accelerated forms is imported is decided for the file, and how a function
is computed is decided for the function; the directives stand around each of them. Reading the text
as a compiler does that can import the module gives every function of the catalog once, in order,
and the import exactly when one of them calls an accelerated form.
-/

namespace Lanewise

open Swift

namespace Swift.Member

/-- A function that starts with a call of an accelerated form. -/
def IsAccelerated (m : Member) : Prop :=
  "        simd.".toList <+: m.body.toList

instance (m : Member) : Decidable m.IsAccelerated :=
  inferInstanceAs (Decidable ("        simd.".toList <+: m.body.toList))

end Swift.Member

namespace Overload

theorem intercalate_callBody (o : Overload) (name : String) :
    "\n".intercalate (o.callBody name) =
      "        simd." ++ (name ++ ("(" ++ (o.acceleratedArguments ++ ")"))) := by
  rw [callBody, String.intercalate_singleton, margin_acceleratedCall]

theorem callBody_inj (o : Overload) {a b : String} :
    "\n".intercalate (o.callBody a) = "\n".intercalate (o.callBody b) ↔ a = b := by
  rw [intercalate_callBody, intercalate_callBody, String.append_right_inj, String.append_left_inj]

theorem prefix_callBody (o : Overload) (name : String) :
    "        simd.".toList <+: ("\n".intercalate (o.callBody name)).toList := by
  rw [intercalate_callBody]
  exact prefix_toList_append _ _

theorem not_prefix_loopBody (o : Overload) :
    ¬ "        simd.".toList <+: ("\n".intercalate o.loopBody).toList := by
  intro h
  rw [loopBody, String.intercalate_cons_of_ne_nil (by simp), String.append_assoc] at h
  have hfirst := List.prefix_of_prefix_length_le h (prefix_toList_append _ _) (by decide)
  exact absurd hfirst (by decide)

theorem isAccelerated_member (o : Overload) (t : Target) :
    (o.member t true).IsAccelerated ↔ (o.accelerated? t).isSome = true := by
  rw [Member.IsAccelerated, member, bodyLines_true]
  cases o.accelerated? t with
  | none => simpa using o.not_prefix_loopBody
  | some name => simpa using o.prefix_callBody name

/-- How a function is read: it has its declaration, and its body is a call of the accelerated form
exactly when there is one that the target allows, and the loop over the lanes otherwise. -/
structure ReadAs (t : Target) (o : Overload) (m : Member) : Prop where
  declaration : m.declaration = o.declaration t.typeName
  call : ∀ name, m.body = "\n".intercalate (o.callBody name) ↔
    t.isAccelerable = true ∧ ∃ i, o.acceleratedName = some i ∧ i.text = name
  loop : m.body = "\n".intercalate o.loopBody ↔
    ¬ (t.isAccelerable = true ∧ o.acceleratedName.isSome = true)

theorem readAs_member (o : Overload) (t : Target) : o.ReadAs t (o.member t true) := by
  have hne : ∀ name, "\n".intercalate o.loopBody ≠ "\n".intercalate (o.callBody name) := by
    intro name he
    exact o.not_prefix_loopBody (he ▸ o.prefix_callBody name)
  have hsome : (o.accelerated? t).isSome = true ↔
      t.isAccelerable = true ∧ o.acceleratedName.isSome = true := by
    unfold accelerated?
    cases t.isAccelerable <;> simp
  have hbody : (o.member t true).body = "\n".intercalate
      ((o.accelerated? t).elim o.loopBody o.callBody) := by
    rw [member, bodyLines_true]
  refine ⟨rfl, fun name => ?_, ?_⟩
  · rw [hbody, ← accelerated?_eq_some_iff]
    cases o.accelerated? t with
    | none => simpa using hne name
    | some other => simpa using o.callBody_inj
  · rw [hbody, ← hsome]
    cases o.accelerated? t with
    | none => simp
    | some name => simpa using (hne name).symm

end Overload

namespace Implementation

/-- What a compiler that can import the module of the accelerated forms finds in a text. -/
structure Consistent (c : Catalog) (t : Target) (text : String) : Prop where
  /-- Every function is declared once, in order, with the body that it should have. -/
  functions : List.Forall₂ (Overload.ReadAs t) c.overloads
    (Member.readAll (resolveText "simd" true text))
  /-- The declarations are those of the other branch. -/
  declarations : (Member.readAll (resolveText "simd" true text)).map (·.declaration) =
    (Member.readAll (resolveText "simd" false text)).map (·.declaration)
  /-- The module is imported exactly when an accelerated form is called. -/
  imports : importLine ∈ textLines (resolveText "simd" true text) ↔
    ∃ m ∈ Member.readAll (resolveText "simd" true text), m.IsAccelerated

/-- The file of implementations is consistent where titles take one line, and for the generic vector
the conformances too, which only its extensions show. -/
theorem consistent_fileText (c : Catalog) (t : Target)
    (ht : ∀ precision, t ≠ .scalar precision)
    (htitles : ∀ s ∈ c.sections, '\n' ∉ s.title.toList)
    (hconformances : t = .generic → ∀ s ∈ c.sections, '\n' ∉ s.conformance.toList) :
    ∃ text, fileText c t = .ok text ∧ Consistent c t text := by
  have h : OneLine c t := by
    refine ⟨htitles, fun s hs => ?_⟩
    cases t with
    | generic => simpa [requirement, String.toList_append] using hconformances rfl s hs
    | scalar precision => simp [requirement]
    | vector precision width => simp [requirement]
  refine ⟨_, fileText_eq c ht, ?_, ?_, ?_⟩
  · rw [readAll_resolveText h, List.forall₂_map_right_iff, List.forall₂_same]
    exact fun o _ => o.readAs_member t
  · rw [readAll_resolveText h, readAll_resolveText h, List.map_map, List.map_map]
    rfl
  · rw [importLine_mem_iff h, readAll_resolveText h]
    simp only [List.mem_map, exists_exists_and_eq_and, Overload.isAccelerated_member]

/-- The standard functions on a vector of eight lanes. -/
theorem consistent_fileText_standard :
    ((∀ precision, Target.vector .float 8 ≠ .scalar precision) ∧
      (∀ s ∈ Catalog.standard.sections, '\n' ∉ s.title.toList) ∧
      (Target.vector .float 8 = .generic →
        ∀ s ∈ Catalog.standard.sections, '\n' ∉ s.conformance.toList)) ∧
    ∃ text, fileText .standard (.vector .float 8) = .ok text ∧
      Consistent .standard (.vector .float 8) text := by
  have hvector : ∀ precision, Target.vector .float 8 ≠ .scalar precision := fun _ h => by cases h
  exact ⟨⟨hvector, by decide, by decide⟩,
    consistent_fileText .standard (.vector .float 8) hvector (by decide) (by decide)⟩

/-- A catalog with a conformance that goes over two lines. -/
def brokenConformance : Catalog where
  sections := [⟨"Functions", "Real\nimport simd\n", Catalog.Standard.elementary.take 1⟩]
  keys_nodup := List.pairwise_singleton _ _

/-- A line feed in a conformance may leave an import in the file of the generic vector, in which no
accelerated form is called. -/
theorem not_consistent_brokenConformance :
    (∀ s ∈ brokenConformance.sections, '\n' ∉ s.title.toList) ∧
    ∃ text, fileText brokenConformance .generic = .ok text ∧
      ¬ Consistent brokenConformance .generic text := by
  have hlines : textLines (resolveText "simd" true (source brokenConformance .generic).text) =
      resolveLines "simd" true []
        ((source brokenConformance .generic).lines.flatMap textLines ++ [[]]) := by
    rw [← Source.textLines_text (by decide)]
    refine Swift.textLines_resolveText fun hnil => ?_
    rw [Source.textLines_text (by decide)] at hnil
    revert hnil
    decide +kernel
  have himport : importLine ∈ textLines
      (resolveText "simd" true (source brokenConformance .generic).text) := by
    rw [hlines]
    decide +kernel
  have hcall : ¬ ∃ m ∈ Member.readAll
      (resolveText "simd" true (source brokenConformance .generic).text), m.IsAccelerated := by
    rw [Member.readAll, hlines]
    decide +kernel
  exact ⟨by decide, _, rfl, fun h => hcall (h.imports.1 himport)⟩

end Implementation

end Lanewise
