import Lanewise.Catalog.Standard
import Lanewise.Formula.Table
import Lanewise.Proofs.Overload.Key

/-!
# Which overloads a catalog takes for one

A catalog refuses two overloads of one key, and a table of formulas has one entry for them. The key
does not always tell overloads apart that differ in their labels and types: it does so exactly when
it has no open seam.
-/

namespace Lanewise

namespace Catalog

/-- A catalog is refused when names and seams do not tell its overloads apart. -/
theorem ofSections_eq_duplicateEntry_iff (sections : List Section) :
    (∃ key, ofSections sections = .error (.duplicateEntry key)) ↔
      ¬ ((sections.flatMap Section.overloads).map fun o => (o.name.text, o.seams)).Nodup := by
  have hnodup : ((sections.flatMap Section.overloads).map Overload.key).Nodup ↔
      ((sections.flatMap Section.overloads).map fun o => (o.name.text, o.seams)).Nodup := by
    simp only [List.Nodup, List.pairwise_map, ne_eq, Overload.key_eq_iff, Prod.mk.injEq]
  rw [← hnodup]
  unfold ofSections
  split
  · rename_i hunique
    simp [(firstRepeated_eq_none_iff.1 hunique).1]
  · rename_i key hfound
    have hdup : ¬ ((sections.flatMap Section.overloads).map Overload.key).Nodup := by
      intro hn
      rw [firstRepeated_eq_none_iff.2 ⟨hn, by simp⟩] at hfound
      cases hfound
    simp [hdup]

end Catalog

namespace Formula.Table

/-- Every table gives two overloads the same formula exactly when they have the same key. -/
theorem forall_find?_eq_iff (a b : Overload) :
    (∀ t : Table, t.find? a.key = t.find? b.key) ↔ a.key = b.key := by
  constructor
  · intro h
    by_contra hne
    have hone := h (empty.insert a.key (closed []))
    rw [find?_insert, find?_insert, if_pos rfl, if_neg (Ne.symm hne), find?_empty] at hone
    cases hone
  · intro h t
    rw [h]

end Formula.Table

namespace Overload

/-- Where keys are identities. Two overloads share a key, and with it an entry of every table,
exactly when their names and seams agree; a catalog is refused exactly when this happens in it. The
key of an overload stands for its name, labels and types alone exactly when all seams are closed. -/
theorem key_identity (a b : Overload) (sections : List Section) :
    (a.key = b.key ↔ a.name.text = b.name.text ∧ a.seams = b.seams) ∧
    ((∀ t : Formula.Table, t.find? a.key = t.find? b.key) ↔
      a.name.text = b.name.text ∧ a.seams = b.seams) ∧
    ((∃ key, Catalog.ofSections sections = .error (.duplicateEntry key)) ↔
      ¬ ((sections.flatMap Section.overloads).map fun o => (o.name.text, o.seams)).Nodup) ∧
    ((∀ o : Overload, a.key = o.key ↔ a.identity = o.identity) ↔ a.SeamsClosed) := by
  refine ⟨key_eq_iff a b, ?_, Catalog.ofSections_eq_duplicateEntry_iff sections,
    key_faithful_iff a⟩
  rw [Formula.Table.forall_find?_eq_iff, key_eq_iff]

open Catalog.Standard in
/-- The function `f(_ x, _ n: Int, b y)`, in whose key the type and the last label are `Intb`. -/
def typeBeforeLabel : Overload where
  name := .literal "f"
  acceleratedName := none
  arguments := [x, n, { y with label := some (.literal "b") }]
  names_nodup := by decide
  head_varying := ⟨x, rfl, rfl⟩

open Catalog.Standard in
/-- The function `f(_ x, _ n, Intb y)`, which has no fixed type. -/
def longLabel : Overload where
  name := .literal "f"
  acceleratedName := none
  arguments := [x, { n with fixedType := none }, { y with label := some (.literal "Intb") }]
  names_nodup := by decide
  head_varying := ⟨x, rfl, rfl⟩

/-- Two functions with different labels and types that a catalog takes for one. -/
theorem key_typeBeforeLabel :
    typeBeforeLabel.key = longLabel.key ∧ typeBeforeLabel.labels ≠ longLabel.labels ∧
      typeBeforeLabel.fixedTypes ≠ longLabel.fixedTypes ∧
      ∃ key, Catalog.ofSections [⟨"Functions", "Functions", [typeBeforeLabel, longLabel]⟩] =
        .error (.duplicateEntry key) := by
  refine ⟨by decide, by decide, by decide, "f(_:_:Intb:)", ?_⟩
  rfl

end Overload

end Lanewise
