import Lanewise.Proofs.Artifact.Rendering
import Lanewise.Proofs.Derivative.Nesting
import Lanewise.Template.Standard

/-!
# Artifacts are nested properly

Whatever the catalog and the formulas are, the text of an artifact is nested as its sections are,
provided that titles and conformances take one line and have no brackets, and that the expressions
of the formulas take one line each and are balanced.
-/

namespace Lanewise

open Swift

namespace Artifact

/-- The block that a section is in the file of an artifact. -/
def blockOf (a : Artifact) (s : Section) : Block :=
  match a.kind with
  | .implementations => Implementation.blockOf a.target s
  | .derivatives => Derivative.blockOf a.target s

/-- The text of an artifact is nested properly: its brackets and its directives nest and are all
closed, each branch is balanced on its own, and its blocks are one extension for each section of the
catalog, in order, in which all functions of the section are declared and nothing else. -/
theorem nests_text [Template.Engine] {tables : Tables} {a : Artifact} {text : String}
    (htext : a.text tables = .ok text) (hsections : ∀ s ∈ tables.catalog.sections, s.IsPlain)
    (hformulas : ∀ row ∈ tables.formulas.rows, row.2.kind = .closedForm →
      row.2.IsNested a.target.scalarName) :
    Nests (tables.catalog.sections.map a.blockOf) text := by
  unfold Artifact.text at htext
  unfold blockOf
  cases hkind : a.kind with
  | implementations =>
    rw [hkind] at htext
    simp only [Implementation.fileText_eq tables.catalog (a.target_ne_scalar hkind)] at htext
    rw [← Except.ok.inj htext]
    exact Implementation.nests_source a.target hsections
  | derivatives =>
    rw [hkind] at htext
    simp only [Derivative.fileText_eq tables (a.target_ne_generic hkind)] at htext
    cases hfound : Derivative.sectionsOf tables.formulas tables.catalog.sections with
    | error failure =>
      rw [hfound] at htext
      cases htext
    | ok found =>
      rw [hfound] at htext
      obtain ⟨hsame, hrows⟩ := Derivative.of_sectionsOf hfound
      have hplain : ∀ s ∈ found, s.1.IsPlain := by
        intro s hs
        exact hsections s.1 (hsame ▸ List.mem_map_of_mem hs)
      have hnested : ∀ s ∈ found, ∀ row ∈ s.2, row.2.kind = .closedForm →
          row.2.IsNested a.target.scalarName := by
        intro s hs row hrow
        obtain ⟨entry, hentry, hformula⟩ := (hrows s hs).2 row hrow
        rw [← hformula]
        exact hformulas entry hentry
      rw [← Except.ok.inj htext, ← hsame, List.map_map]
      exact Derivative.nests_fileTextOf hplain (fun s hs => (hrows s hs).1) hnested

/-- The standard derivatives for vectors of four lanes are nested properly. -/
theorem nests_text_standard :
    (∀ s ∈ Catalog.standard.sections, s.IsPlain) ∧
    (∀ row ∈ Formula.Table.standard.rows, row.2.kind = .closedForm → row.2.IsNested "Double") ∧
    ∃ text, Artifact.text .standard ⟨.vector .double 4, .derivatives, rfl⟩ = .ok text ∧
      Nests (Catalog.standard.sections.map
        (blockOf ⟨.vector .double 4, .derivatives, rfl⟩)) text := by
  have hsections : ∀ s ∈ Catalog.standard.sections, s.IsPlain := by decide +kernel
  have hformulas : ∀ row ∈ Formula.Table.standard.rows, row.2.kind = .closedForm →
      row.2.IsNested "Double" := by decide +kernel
  have hvalid : Formula.Table.standard.validate .standard = .ok () := by decide +kernel
  have hfits := (Formula.Table.standard.validate_eq_ok_iff .standard).1 hvalid
  have hrendered : IsRendered .standard ⟨.vector .double 4, .derivatives, rfl⟩ :=
    isRendered_of_fits hfits _
  obtain ⟨text, htext⟩ := hrendered.text
  exact ⟨hsections, hformulas, text, htext, nests_text htext hsections hformulas⟩

end Artifact

end Lanewise
