import Lanewise.Artifact
import Lanewise.Proofs.Formula.Validation
import Lanewise.Proofs.Implementation.File
import Lanewise.Template.Standard

/-!
# Rendering with a validated table

Rendering fails where a function has no formula and where a target has no file of a kind. A table
that fits the catalog leaves no function without a formula, and an artifact is never of a kind that
its target lacks. So once the table is validated, every artifact has its text.
-/

namespace Lanewise

/-- Where every item has a result, there is a list of results. -/
theorem exists_mapM_eq_ok {α β ε : Type} {f : α → Except ε β} {items : List α}
    (h : ∀ item ∈ items, ∃ result, f item = .ok result) :
    ∃ results, items.mapM f = .ok results := by
  induction items with
  | nil => exact ⟨[], rfl⟩
  | cons item rest ih =>
    rw [List.forall_mem_cons] at h
    obtain ⟨result, hresult⟩ := h.1
    obtain ⟨results, hresults⟩ := ih h.2
    refine ⟨result :: results, ?_⟩
    rw [List.mapM_cons, hresult, hresults]
    rfl

namespace Derivative

variable [Template.Engine] {tables : Tables} {t : Target}

/-- A registration takes a formula from the table and is made from it. -/
theorem registration_eq (ht : t ≠ .generic) (o : Overload) :
    registration tables t o =
      (tables.formulas.find o).map fun f => lines tables.catalog f o t := by
  have hcheck : checkTarget t = .ok () := by
    cases t with
    | generic => exact absurd rfl ht
    | scalar precision => rfl
    | vector precision width => rfl
  unfold registration
  rw [hcheck]
  cases tables.formulas.find o <;> rfl

theorem registration_eq_ok (ht : t ≠ .generic) {o : Overload} {f : Formula}
    (hf : tables.formulas.find o = .ok f) :
    registration tables t o = .ok (lines tables.catalog f o t) := by
  rw [registration_eq ht, hf]
  rfl

/-- Where all functions have formulas, a concrete target has a file of derivatives. -/
theorem exists_fileText_eq_ok (ht : t ≠ .generic)
    (hf : ∀ o ∈ tables.catalog.overloads, ∃ f, tables.formulas.find o = .ok f) :
    ∃ text, fileText tables t = .ok text := by
  have hsection : ∀ s ∈ tables.catalog.sections, ∃ lines, sectionLines tables t s = .ok lines := by
    intro s hs
    have hregistration : ∀ o ∈ s.overloads, ∃ lines, registration tables t o = .ok lines := by
      intro o ho
      obtain ⟨f, hf⟩ := hf o (List.mem_flatMap.2 ⟨s, hs, ho⟩)
      exact ⟨_, registration_eq_ok ht hf⟩
    obtain ⟨registrations, hregistrations⟩ := exists_mapM_eq_ok hregistration
    unfold sectionLines
    rw [hregistrations]
    exact ⟨_, rfl⟩
  obtain ⟨sections, hsections⟩ := exists_mapM_eq_ok hsection
  unfold fileText source
  rw [hsections]
  exact ⟨_, rfl⟩

end Derivative

namespace Artifact

theorem target_ne_generic (a : Artifact) (h : a.kind = .derivatives) : a.target ≠ .generic := by
  intro ht
  have hadmitted := a.admitted
  rw [h, ht] at hadmitted
  cases hadmitted

theorem target_ne_scalar (a : Artifact) (h : a.kind = .implementations) (precision : Precision) :
    a.target ≠ .scalar precision := by
  intro ht
  have hadmitted := a.admitted
  rw [h, ht] at hadmitted
  cases hadmitted

/-- An artifact that is rendered without a failure, neither of the file nor of one function. -/
structure IsRendered [Template.Engine] (tables : Tables) (a : Artifact) : Prop where
  text : ∃ text, a.text tables = .ok text
  /-- Every function has a formula. -/
  formulas : ∀ o ∈ tables.catalog.overloads, ∃ f, tables.formulas.find o = .ok f
  /-- In a file of derivatives every function is registered. -/
  registrations : a.kind = .derivatives → ∀ o ∈ tables.catalog.overloads,
    ∃ text, Derivative.registrationText tables a.target o = .ok text
  /-- In a file of implementations every function is implemented. -/
  implementations : a.kind = .implementations → ∀ o ∈ tables.catalog.overloads,
    ∃ text, Implementation.functionText a.target o = .ok text

theorem isRendered_of_fits [Template.Engine] {tables : Tables}
    (h : tables.formulas.Fits tables.catalog) (a : Artifact) : a.IsRendered tables := by
  have hformulas : ∀ o ∈ tables.catalog.overloads, ∃ f, tables.formulas.find o = .ok f :=
    fun o ho => h.exists_find_eq_ok ho
  refine ⟨?_, hformulas, fun hkind o ho => ?_, fun hkind o ho => ?_⟩
  · cases hkind : a.kind with
    | implementations =>
      rw [text, hkind]
      exact ⟨_, Implementation.fileText_eq tables.catalog (a.target_ne_scalar hkind)⟩
    | derivatives =>
      rw [text, hkind]
      exact Derivative.exists_fileText_eq_ok (a.target_ne_generic hkind) hformulas
  · obtain ⟨f, hf⟩ := hformulas o ho
    unfold Derivative.registrationText
    rw [Derivative.registration_eq_ok (a.target_ne_generic hkind) hf]
    exact ⟨_, rfl⟩
  · exact ⟨_, Implementation.functionText_eq (a.target_ne_scalar hkind) o⟩

end Artifact

namespace Formula.Table

/-- The lines of the message about a drift: one for all missing keys and one for all unexpected
keys, if there are any, and one for each wrong number of partials. -/
theorem driftLines_eq (d : Drift) :
    Failure.driftLines d =
      (if d.missing = [] then [] else
        ["catalog functions without a derivative formula: " ++
          Text.bracketed (d.missing.map Text.quoted)]) ++
      (if d.unexpected = [] then [] else
        ["derivative formulas without a catalog function: " ++
          Text.bracketed (d.unexpected.map Text.quoted)]) ++
      d.mismatches.map fun m =>
        m.key ++ " has " ++ toString m.partials ++ " partials for " ++ toString m.varying ++
          " varying arguments" := by
  simp only [Failure.driftLines, List.isEmpty_iff]
  rfl

/-- Validation is exact, and what it accepts can be rendered. A table is accepted when it has the
keys of the catalog and every closed form has a partial for each varying argument. Else it is
refused with a full report, which the message spells out. With an accepted table every artifact has
its text. -/
theorem validate_exact [Template.Engine] (t : Table) (c : Catalog) :
    (t.validate c = .ok () ↔ t.Fits c) ∧
    (t.validate c ≠ .ok () → ∃ d : Drift, t.validate c = .error (.tableDrift d) ∧ d.Reports t c ∧
      (Failure.tableDrift d).message = "derivative table/catalog drift detected:\n" ++
        "\n".intercalate
          ((if d.missing = [] then [] else
              ["catalog functions without a derivative formula: " ++
                Text.bracketed (d.missing.map Text.quoted)]) ++
            (if d.unexpected = [] then [] else
              ["derivative formulas without a catalog function: " ++
                Text.bracketed (d.unexpected.map Text.quoted)]) ++
            d.mismatches.map fun m =>
              m.key ++ " has " ++ toString m.partials ++ " partials for " ++ toString m.varying ++
                " varying arguments")) ∧
    (t.validate c = .ok () → ∀ (widths : List Int) (a : Artifact), a.IsRendered ⟨widths, c, t⟩) := by
  refine ⟨t.validate_eq_ok_iff c, fun h => ?_, fun h widths a => ?_⟩
  · have hfits : ¬ t.Fits c := fun hfits => h ((t.validate_eq_ok_iff c).2 hfits)
    refine ⟨t.drift c, t.validate_eq_error c hfits, t.reports_drift c, ?_⟩
    rw [← driftLines_eq]
    rfl
  · exact Artifact.isRendered_of_fits ((t.validate_eq_ok_iff c).1 h) a

/-- The standard formulas fit the standard catalog, so the derivatives for a vector of eight lanes
are rendered. -/
theorem validate_exact_standard :
    standard.validate .standard = .ok () ∧
      ∃ text, Derivative.fileText .standard (.vector .float 8) = .ok text := by
  have h : standard.validate .standard = .ok () := by decide +kernel
  exact ⟨h, ((validate_exact standard .standard).2.2 h [2, 4, 8, 16, 32, 64]
    ⟨.vector .float 8, .derivatives, rfl⟩).text⟩

end Formula.Table

end Lanewise
