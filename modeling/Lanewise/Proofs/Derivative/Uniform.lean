import Lanewise.Proofs.Artifact.Rendering
import Lanewise.Proofs.Checks
import Lanewise.Proofs.Derivative.Schema
import Lanewise.Proofs.Formula.Reading
import Lanewise.Proofs.Formula.Scaling
import Lanewise.Proofs.Template.Standard

/-!
# Derivatives are uniform over the vectors

The file of derivatives for a vector speaks of the vector by its name and by the name of its lanes'
type, and the width and the precision show nowhere else. So all these files are given by one schema,
which depends only on the catalog and the formulas. What could break this is the scaling of the
partial derivatives, which is chosen after the scalar type has been written into them.
-/

namespace Lanewise

open Swift Template

namespace Formula

section

variable [Engine] [LawfulEngine]

/-- What is shown of a template has the same pieces for every scalar type. -/
theorem exists_output_eq_fillAll {source : List Char} (h : IsTemplate (· = "T") source) :
    ∃ template : List Piece, ∀ (context : String → Option String) (scalarName : String),
      context "T" = some scalarName →
        Engine.output source context = fillAll scalarName.toList template := by
  induction h with
  | nil =>
    exact ⟨[], fun context scalarName _ => LawfulEngine.output_nil context⟩
  | @char c rest hopens hrest ih =>
    obtain ⟨template, htemplate⟩ := ih
    refine ⟨(shown c rest).map .char ++ template, fun context scalarName hname => ?_⟩
    rw [output_cons context hopens (isTemplate_of_scalarTemplate hrest),
      htemplate context scalarName hname, fillAll_append, fillAll_map_char]
  | @placeholder p rest hp hrest ih =>
    obtain ⟨template, htemplate⟩ := ih
    refine ⟨.hole p.name :: template, fun context scalarName hname => ?_⟩
    rw [LawfulEngine.output_placeholder context p (isOrdinary_of_eq_scalarName hp)
        (isTemplate_of_scalarTemplate hrest),
      htemplate context scalarName hname, hp, hname, fillAll_cons_hole]
    rfl

/-- Filling such an expression writes the scalar type into all holes. -/
theorem exists_toList_instantiate {expression : String} (h : IsScalarTemplate expression) :
    ∃ template : List Piece, ∀ scalarName : String,
      (instantiate scalarName expression).toList = fillAll scalarName.toList template := by
  obtain ⟨template, htemplate⟩ := exists_output_eq_fillAll h
  refine ⟨template, fun scalarName => ?_⟩
  rw [instantiate, fill, String.toList_ofList]
  exact htemplate _ scalarName (if_pos rfl)

end

/-- The schema of a template whose holes are all for the scalar type. -/
def schema (template : List Piece) : Schema :=
  template.map fun
    | .char c => .text (String.singleton c)
    | .hole _ => .scalarName

theorem fill_schema (t : Target) (template : List Piece) :
    Schema.fill t (schema template) = String.ofList (fillAll t.scalarName.toList template) := by
  induction template with
  | nil => rfl
  | cons piece rest ih =>
    rw [schema, List.map_cons, Schema.fill_cons, ← schema, ih]
    cases piece with
    | char c =>
      rw [fillAll_cons_char, String.ofList_cons]
      rfl
    | hole name =>
      rw [fillAll_cons_hole, String.ofList_append, String.ofList_toList]
      rfl

/-- The name of a scalar type is an identifier. -/
def scalarIdentifier (precision : Precision) : Identifier :=
  ⟨precision.typeName, by cases precision <;> decide⟩

section

variable [Engine] [LawfulEngine]

theorem isUniform_instantiate {expression : String} (h : IsScalarTemplate expression) :
    IsUniform fun t => instantiate t.scalarName expression := by
  obtain ⟨template, htemplate⟩ := exists_toList_instantiate h
  refine ⟨schema template, fun precision width => ?_⟩
  rw [fill_schema, ← htemplate, String.ofList_toList]

/-- The product with a partial derivative is uniform, because its form does not depend on the
scalar type. -/
theorem isUniform_scale (cotangent : String) {expression : String}
    (h : IsScalarTemplate expression) :
    IsUniform fun t => scale cotangent (instantiate t.scalarName expression) := by
  obtain ⟨template, htemplate⟩ := exists_toList_instantiate h
  obtain ⟨s, product, hproduct⟩ := hasProduct cotangent.toList template
  refine ⟨schema product, fun precision width => ?_⟩
  show scale cotangent (instantiate (scalarIdentifier precision).text expression) =
    Schema.fill (.vector precision width) _
  rw [scale, htemplate, (hproduct (scalarIdentifier precision)).2, fill_schema]
  rfl

end

/-- All expressions of a formula have no other holes than those for the scalar type. -/
def IsScalar (f : Formula) : Prop :=
  ∀ expression ∈ f.partials ++ f.bindings.map Prod.snd, IsScalarTemplate expression

theorem isScalar_of_isPlain {f : Formula} (h : f.isPlain = true) : f.IsScalar :=
  fun expression hmem =>
    isTemplate_of_hasOnlyScalarHoles (List.all_eq_true.1 h expression hmem)

variable [Engine] [LawfulEngine] {f : Formula}

theorem isUniform_pullback (h : f.IsScalar) : IsUniform fun t => f.pullback t.scalarName := by
  have hscale : ∀ expression ∈ f.partials,
      IsUniform fun t => scale cotangentName (instantiate t.scalarName expression) :=
    fun expression hmem => isUniform_scale cotangentName (h _ (List.mem_append_left _ hmem))
  have hlisted : IsUniform fun t => Text.parenthesized (f.cotangents t.scalarName) := by
    have hcommas : IsUniform fun t => ", ".intercalate (f.cotangents t.scalarName) :=
      .intercalate ", " (.map hscale)
    exact ((IsUniform.const "(").append hcommas).append (.const ")")
  -- A single cotangent stands without parentheses, and their number is that of the partials.
  cases hpartials : f.partials with
  | nil =>
    refine hlisted.congr fun precision width => ?_
    rw [pullback, cotangents, hpartials]
    rfl
  | cons first rest =>
    cases rest with
    | nil =>
      refine (hscale first (hpartials ▸ List.mem_cons_self)).congr fun precision width => ?_
      rw [pullback, cotangents, hpartials]
      rfl
    | cons second rest =>
      refine hlisted.congr fun precision width => ?_
      rw [pullback, cotangents, hpartials]
      rfl

theorem areUniform_closedFormBody (h : f.IsScalar) (o : Overload) :
    AreUniform fun t => f.closedFormBody o t.scalarName := by
  have hresult := isUniform_pullback h
  have hbinding : ∀ binding ∈ f.bindings, IsUniform fun t =>
      "        let " ++ binding.1 ++ " = " ++ instantiate t.scalarName binding.2 := by
    intro binding hmem
    have hscalar := h _ (List.mem_append_right _ (List.mem_map_of_mem hmem))
    exact (IsUniform.const ("        let " ++ binding.1 ++ " = ")).append
      (isUniform_instantiate hscalar)
  have hbound : AreUniform fun t => (f.boundExpressions t.scalarName).map fun binding =>
      "        let " ++ binding.1 ++ " = " ++ binding.2 := by
    refine (AreUniform.map hbinding).congr fun precision width => ?_
    rw [boundExpressions, List.map_map]
    rfl
  -- Whether the value is bound, and whether anything else is, does not depend on the target.
  unfold closedFormBody boundExpressions
  unfold boundExpressions at hbound
  cases hbindings : f.bindings with
  | nil =>
    have hline : ∀ before : String,
        IsUniform fun t => before ++ f.pullback t.scalarName ++ " \x7d)" :=
      fun before => ((IsUniform.const before).append hresult).append (.const " \x7d)")
    exact (AreUniform.const _).append (.singleton (hline _))
  | cons first rest =>
    have hreturn : IsUniform fun t => "        return " ++ f.pullback t.scalarName :=
      (IsUniform.const "        return ").append hresult
    have hclosing := AreUniform.cons hreturn (.const ["    \x7d", ")"])
    rw [hbindings] at hbound
    exact ((AreUniform.const _).append hbound).append hclosing

theorem areUniform_body (h : f.IsScalar) (o : Overload) : AreUniform fun t => f.body o t := by
  cases hkind : f.kind with
  | closedForm =>
    refine (areUniform_closedFormBody h o).congr fun precision width => ?_
    rw [body, hkind]
  | signPiecewise =>
    -- The bodies for scalars and for vectors differ, but only vectors count.
    refine (AreUniform.const (signPiecewiseBody (.vector .float 2))).congr fun precision width => ?_
    rw [body, hkind]
    rfl
  | unimplemented =>
    refine (AreUniform.const ["fatalError(\"unimplemented\")"]).congr fun precision width => ?_
    rw [body, hkind]

end Formula

namespace Overload

theorem isUniform_parameters (o : Overload) : IsUniform fun t => o.parameters t.typeName := by
  have hparameter : ∀ a ∈ o.arguments, IsUniform fun t => a.parameter t.typeName := by
    intro a ha
    have htype : IsUniform fun t => a.typeIn t.typeName := by
      unfold Argument.typeIn
      cases a.fixedTypeName with
      | none => exact .typeName
      | some name => exact .const name
    have htyped := (IsUniform.const (a.name.text ++ ": ")).append htype
    unfold Argument.parameter
    cases a.label with
    | none => exact htyped
    | some label => exact (IsUniform.const (label.text ++ " ")).append htyped
  exact .intercalate ", " (.map hparameter)

theorem isUniform_cotangentType (o : Overload) :
    IsUniform fun t => o.cotangentType t.typeName := by
  have hlisted : IsUniform fun t => Text.parenthesized (o.varying.map fun _ => t.typeName) := by
    have hcommas : IsUniform fun t => ", ".intercalate (o.varying.map fun _ => t.typeName) :=
      .intercalate ", " (.map fun _ _ => .typeName)
    exact ((IsUniform.const "(").append hcommas).append (.const ")")
  unfold cotangentType
  split
  · exact .typeName
  · exact hlisted

end Overload

namespace Derivative

variable {c : Catalog} {f : Formula}

theorem isUniform_head (o : Overload) : IsUniform fun t => head o t.typeName := by
  have hfront := (IsUniform.const ("public static func " ++ o.registrationName ++ "(")).append
    o.isUniform_parameters
  have hvalue := (hfront.append (.const ") -> (value: ")).append .typeName
  have hpullback := (hvalue.append (.const ", pullback: (")).append .typeName
  exact ((hpullback.append (.const ") -> ")).append o.isUniform_cotangentType).append (.const ")")

theorem areUniform_lines [Engine] [LawfulEngine] (c : Catalog) (h : f.IsScalar) (o : Overload) :
    AreUniform fun t => lines c f o t :=
  .cons (.const _) (.block "    " (isUniform_head o)
    (.indented "        " (Formula.areUniform_body h o)))

/-- The formulas of some overloads, or the failure for the first that has none. -/
def formulasOf (formulas : Formula.Table) (overloads : List Overload) :
    Except Failure (List (Overload × Formula)) :=
  overloads.mapM fun o => (formulas.find o).map (o, ·)

/-- Sections with the formulas of their overloads. -/
def sectionsOf (formulas : Formula.Table) (sections : List Section) :
    Except Failure (List (Section × List (Overload × Formula))) :=
  sections.mapM fun s => (formulasOf formulas s.overloads).map (s, ·)

/-- The lines of a section whose formulas are known. -/
def sectionLinesOf [Engine] (c : Catalog) (t : Target) (s : Section × List (Overload × Formula)) :
    List String :=
  ["", "// MARK: " ++ s.1.title ++ " derivatives", "extension " ++ t.typeName ++ " \x7b"]
    ++ Source.lines (Source.spaced (s.2.map fun row => [.plain (lines c row.2 row.1 t)]))
    ++ ["\x7d"]

/-- The text of a file whose formulas are known. -/
def fileTextOf [Engine] (c : Catalog) (t : Target)
    (sections : List (Section × List (Overload × Formula))) : String :=
  Source.text [.conditional "" "_Differentiation"
    (["import _Differentiation", "import RealModule"] ++ sections.flatMap (sectionLinesOf c t)) []]

theorem sectionLines_eq [Engine] (tables : Tables) {t : Target} (ht : t ≠ .generic) (s : Section) :
    sectionLines tables t s =
      ((formulasOf tables.formulas s.overloads).map (s, ·)).map
        (sectionLinesOf tables.catalog t) := by
  have hregistration : ∀ o ∈ s.overloads, registration tables t o =
      ((tables.formulas.find o).map (o, ·)).map fun row => lines tables.catalog row.2 row.1 t := by
    intro o _
    rw [registration_eq ht]
    cases tables.formulas.find o <;> rfl
  unfold sectionLines formulasOf
  rw [mapM_eq_map_mapM hregistration]
  cases s.overloads.mapM fun o => (tables.formulas.find o).map (o, ·) with
  | error failure => rfl
  | ok rows =>
    have hmap : (rows.map fun row => lines tables.catalog row.2 row.1 t).map
          (fun lines => [Chunk.plain lines]) =
        rows.map fun row => [.plain (lines tables.catalog row.2 row.1 t)] :=
      List.map_map
    show Except.ok (_ ++ Source.lines (Source.spaced (List.map _ (List.map _ rows))) ++ _) = _
    rw [hmap]
    rfl

/-- The look-ups come first, and they do not depend on the target. -/
theorem fileText_eq [Engine] (tables : Tables) {t : Target} (ht : t ≠ .generic) :
    fileText tables t =
      (sectionsOf tables.formulas tables.catalog.sections).map (fileTextOf tables.catalog t) := by
  unfold fileText source sectionsOf
  rw [mapM_eq_map_mapM fun s _ => sectionLines_eq tables ht s]
  cases tables.catalog.sections.mapM
    fun s => (formulasOf tables.formulas s.overloads).map (s, ·) with
  | error failure => rfl
  | ok sections => rfl

theorem fileText_vector [Engine] (tables : Tables) (precision : Precision) (width : Int) :
    fileText tables (.vector precision width) =
      (sectionsOf tables.formulas tables.catalog.sections).map
        (fileTextOf tables.catalog (.vector precision width)) :=
  fileText_eq tables (by simp)

theorem areUniform_sectionLinesOf [Engine] [LawfulEngine] (c : Catalog)
    {s : Section × List (Overload × Formula)} (h : ∀ row ∈ s.2, row.2.IsScalar) :
    AreUniform fun t => sectionLinesOf c t s := by
  have hextension : IsUniform fun t => "extension " ++ t.typeName ++ " \x7b" :=
    ((IsUniform.const "extension ").append .typeName).append (.const " \x7b")
  have hopening : AreUniform fun t => ["", "// MARK: " ++ s.1.title ++ " derivatives",
      "extension " ++ t.typeName ++ " \x7b"] :=
    .cons (.const "") (.cons (.const _) (.singleton hextension))
  have hlines : ∀ row ∈ s.2, AreUniform fun t => lines c row.2 row.1 t :=
    fun row hrow => areUniform_lines c (h row hrow) row.1
  have hregistrations : AreUniform fun t => Source.lines (Source.spaced
      (s.2.map fun row => [.plain (lines c row.2 row.1 t)])) :=
    .spaced hlines
  exact (hopening.append hregistrations).append (.const ["\x7d"])

theorem isUniform_fileTextOf [Engine] [LawfulEngine] (c : Catalog)
    {sections : List (Section × List (Overload × Formula))}
    (h : ∀ s ∈ sections, ∀ row ∈ s.2, row.2.IsScalar) :
    IsUniform fun t => fileTextOf c t sections := by
  have hpresent : AreUniform fun t =>
      ["import _Differentiation", "import RealModule"] ++ sections.flatMap (sectionLinesOf c t) :=
    (AreUniform.const _).append (.flatMap fun s hs => areUniform_sectionLinesOf c (h s hs))
  have hlines : AreUniform fun t => Source.lines [.conditional "" "_Differentiation"
      (["import _Differentiation", "import RealModule"] ++ sections.flatMap (sectionLinesOf c t))
      []] :=
    ((((AreUniform.const _).append hpresent).append (.const [])).append (.const _)).append .nil
  exact (IsUniform.intercalate "\n" hlines).append (.const "\n")

/-- A formula that is looked up is one of the table. -/
theorem exists_row_of_find {formulas : Formula.Table} {o : Overload}
    (h : formulas.find o = .ok f) : ∃ row ∈ formulas.rows, row.2 = f := by
  unfold Formula.Table.find Formula.Table.find? at h
  cases hrow : formulas.rows.find? (·.1 = o.key) with
  | none =>
    rw [hrow] at h
    cases h
  | some row =>
    rw [hrow] at h
    exact ⟨row, List.mem_of_find?_eq_some hrow, Except.ok.inj h⟩

/-- The sections of a file are those of the catalog, and the functions of a section are those of the
catalog with formulas of the table. -/
theorem of_sectionsOf {formulas : Formula.Table} {sections : List Section}
    {found : List (Section × List (Overload × Formula))}
    (h : sectionsOf formulas sections = .ok found) :
    found.map Prod.fst = sections ∧ ∀ s ∈ found, s.2.map Prod.fst = s.1.overloads ∧
      ∀ row ∈ s.2, ∃ entry ∈ formulas.rows, entry.2 = row.2 := by
  have hrow : ∀ (o : Overload) (row : Overload × Formula),
      (formulas.find o).map (o, ·) = .ok row → row.1 = o ∧ formulas.find o = .ok row.2 := by
    intro o row hfind
    cases hf : formulas.find o with
    | error failure =>
      rw [hf] at hfind
      cases hfind
    | ok f =>
      rw [hf] at hfind
      cases hfind
      exact ⟨rfl, rfl⟩
  have hsection : ∀ (s : Section) (result : Section × List (Overload × Formula)),
      (formulasOf formulas s.overloads).map (s, ·) = .ok result →
        result.1 = s ∧ formulasOf formulas s.overloads = .ok result.2 := by
    intro s result hresult
    cases hrows : formulasOf formulas s.overloads with
    | error failure =>
      rw [hrows] at hresult
      cases hresult
    | ok rows =>
      rw [hrows] at hresult
      cases hresult
      exact ⟨rfl, rfl⟩
  refine ⟨map_eq_of_mapM h fun s result hs => (hsection s result hs).1, fun s hs => ?_⟩
  obtain ⟨s', -, hs'⟩ := exists_of_mem_mapM h s hs
  obtain ⟨rfl, hrows⟩ := hsection s' s hs'
  refine ⟨map_eq_of_mapM hrows fun o row ho => (hrow o row ho).1, fun row hmem => ?_⟩
  obtain ⟨o, -, ho⟩ := exists_of_mem_mapM hrows row hmem
  exact exists_row_of_find (hrow o row ho).2

theorem isScalar_of_sectionsOf {formulas : Formula.Table}
    (h : ∀ row ∈ formulas.rows, row.2.IsScalar) {sections : List Section}
    {found : List (Section × List (Overload × Formula))}
    (hfound : sectionsOf formulas sections = .ok found) :
    ∀ s ∈ found, ∀ row ∈ s.2, row.2.IsScalar := by
  intro s hs row hrow
  obtain ⟨entry, hentry, hformula⟩ := ((of_sectionsOf hfound).2 s hs).2 row hrow
  rw [← hformula]
  exact h entry hentry

end Derivative

namespace Formula

/-- How a partial derivative is scaled does not depend on the scalar type. -/
theorem exists_scaling [Engine] [LawfulEngine] {expression : String}
    (h : IsScalarTemplate expression) :
    ∃ s : Scaling, ∀ name : Identifier,
      scaling (instantiate name.text expression).toList = s ∧
      ∀ cotangent : String, scale cotangent (instantiate name.text expression) =
        String.ofList (s.write cotangent.toList (instantiate name.text expression).toList) := by
  obtain ⟨template, htemplate⟩ := exists_toList_instantiate h
  obtain ⟨s, product, hproduct⟩ := hasProduct [] template
  refine ⟨s, fun name => ?_⟩
  have hs : scaling (instantiate name.text expression).toList = s := by
    rw [htemplate]
    exact (hproduct name).1
  refine ⟨hs, fun cotangent => ?_⟩
  rw [scale, scaleChars_eq_write, hs]

end Formula

namespace Derivative

/-- The files of derivatives are uniform over the vectors. If the expressions of the formulas have
no other holes than those for the scalar type, one schema gives the file for vectors of every width
and precision, and it depends only on the catalog and the formulas. There is such a schema if every
function has a formula, else the files for all vectors fail in the same way. How a partial
derivative is scaled is the same for all names of scalar types, though it is chosen after the name
was written into the expression. -/
theorem fileText_uniform [Engine] [LawfulEngine] (c : Catalog) (formulas : Formula.Table)
    (h : ∀ row ∈ formulas.rows, row.2.IsScalar) :
    (∃ outcome : Except Failure Schema,
      (∀ widths precision width, fileText ⟨widths, c, formulas⟩ (.vector precision width) =
        outcome.map (Schema.fill (.vector precision width))) ∧
      ((∀ o ∈ c.overloads, ∃ f, formulas.find o = .ok f) → ∃ schema, outcome = .ok schema)) ∧
    ∀ row ∈ formulas.rows, ∀ expression ∈ row.2.partials, ∃ s : Formula.Scaling,
      ∀ name : Identifier,
        Formula.scaling (Formula.instantiate name.text expression).toList = s ∧
        ∀ cotangent : String, Formula.scale cotangent (Formula.instantiate name.text expression) =
          String.ofList (s.write cotangent.toList
            (Formula.instantiate name.text expression).toList) := by
  refine ⟨?_, fun row hrow expression hmem => ?_⟩
  · cases hfound : sectionsOf formulas c.sections with
    | error failure =>
      have hfails : ∀ widths precision width,
          fileText ⟨widths, c, formulas⟩ (.vector precision width) = .error failure := by
        intro widths precision width
        rw [fileText_vector]
        simp only [hfound]
        rfl
      refine ⟨.error failure, hfails, fun hf => ?_⟩
      have hne : Target.vector .float 2 ≠ .generic := by simp
      have htext : ∃ text, fileText ⟨[], c, formulas⟩ (.vector .float 2) = .ok text :=
        exists_fileText_eq_ok hne hf
      obtain ⟨text, htext⟩ := htext
      rw [hfails] at htext
      cases htext
    | ok found =>
      obtain ⟨schema, hschema⟩ := isUniform_fileTextOf c (isScalar_of_sectionsOf h hfound)
      refine ⟨.ok schema, fun widths precision width => ?_, fun _ => ⟨schema, rfl⟩⟩
      rw [fileText_vector]
      simp only [hfound]
      exact congrArg Except.ok (hschema precision width)
  · exact Formula.exists_scaling (h row hrow expression (List.mem_append_left _ hmem))

/-- One schema gives the standard derivatives for all vectors. -/
theorem fileText_uniform_standard :
    (∀ row ∈ Formula.Table.standard.rows, row.2.IsScalar) ∧
    (∀ o ∈ Catalog.standard.overloads, ∃ f, Formula.Table.standard.find o = .ok f) ∧
    ∃ schema : Schema, ∀ widths precision width,
      fileText ⟨widths, .standard, .standard⟩ (.vector precision width) =
        .ok (Schema.fill (.vector precision width) schema) := by
  have hplain : Formula.Table.standard.rows.all (·.2.isPlain) = true := by decide +kernel
  have hscalar : ∀ row ∈ Formula.Table.standard.rows, row.2.IsScalar :=
    fun row hrow => Formula.isScalar_of_isPlain (List.all_eq_true.1 hplain row hrow)
  have hkeys : Catalog.standard.overloads.all
      (fun o => (Formula.Table.standard.find? o.key).isSome) = true := by
    decide +kernel
  have hfound : ∀ o ∈ Catalog.standard.overloads, ∃ f, Formula.Table.standard.find o = .ok f := by
    intro o ho
    obtain ⟨f, hf⟩ := Option.isSome_iff_exists.1 (List.all_eq_true.1 hkeys o ho)
    refine ⟨f, ?_⟩
    rw [Formula.Table.find, hf]
    rfl
  obtain ⟨⟨outcome, htext, hok⟩, -⟩ := fileText_uniform .standard .standard hscalar
  obtain ⟨schema, rfl⟩ := hok hfound
  exact ⟨hscalar, hfound, schema, htext⟩

end Derivative

end Lanewise
