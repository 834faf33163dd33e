import Lanewise.Proofs.Derivative.Uniform
import Lanewise.Proofs.Formula.Nesting
import Lanewise.Proofs.Implementation.Nesting

/-!
# How files of derivatives are nested

Each registration declares its function at the depth of its section. All sections stand in the one
branch of a file, which is balanced when titles have no brackets and the expressions of the formulas
are balanced.
-/

namespace Lanewise

open Swift

namespace Derivative

variable {c : Catalog} {f : Formula} {t : Target}

/-- The block that a section is. -/
def blockOf (t : Target) (s : Section) : Block where
  heading := "extension " ++ t.typeName ++ " \x7b"
  functions := s.overloads.map fun o => head o t.typeName ++ " \x7b"

theorem opening_prefix_head (o : Overload) (typeName : String) :
    Signature.opening <+: (head o typeName).toList := by
  unfold head
  simp only [String.append_assoc]
  rw [String.toList_append]
  exact List.prefix_append _ _

/-- What marks a function as the registration of a derivative. -/
def marker (c : Catalog) (o : Overload) : String :=
  "    @derivative(of: " ++ c.reference o ++ ")"

theorem declares_marker (c : Catalog) (o : Overload) :
    Block.Declares [marker c o] [] := by
  have happend : ∀ front reference : String, rows [front ++ reference ++ ")"] =
      front.toList ++ (reference.toList ++ [')', '\n']) := by
    intro front reference
    have hclose : ")".toList = [')'] := rfl
    rw [rows_cons, rows_nil, String.toList_append, String.toList_append, hclose]
    simp only [List.append_assoc, List.cons_append, List.nil_append]
  have hrows : rows [marker c o] =
      "    @derivative(of: ".toList ++ ((c.reference o).toList ++ [')', '\n']) := happend _ _
  have hstart : Block.Calm "    @derivative(of: ".toList := ⟨by decide, by decide⟩
  have hend : Block.Calm ((c.reference o).toList ++ [')', '\n']) := by
    refine .of_not_mem ?_ (by simp)
    rw [List.mem_append, not_or]
    exact ⟨o.not_mem_reference c (by decide) (by decide) (by decide), by decide⟩
  have hbraceless : Block.Braceless (rows [marker c o]) := by
    have hreference : Block.Braceless (c.reference o).toList :=
      ⟨o.not_mem_reference c (by decide) (by decide) (by decide),
        o.not_mem_reference c (by decide) (by decide) (by decide)⟩
    have hfront : Block.Braceless "    @derivative(of: ".toList := by decide
    have hback : Block.Braceless [')', '\n'] := by decide
    rw [hrows]
    exact hfront.append (hreference.append hback)
  have hbalanced : IsBalanced (marker c o).toList := by
    have hopen : openAfter [] "    @derivative(of: ".toList = some [.parenthesis] := rfl
    have hreference := openAfter_text_append hopen ((o.balanced_reference c).openAfter _)
    exact openAfter_text_append hreference rfl
  refine .of_calm ?_ hbraceless (.rows (List.forall_mem_singleton.2 hbalanced))
  rw [hrows]
  exact hstart.append hend

variable [Template.Engine]

/-- A registration declares its function. -/
theorem declares_lines (c : Catalog) (o : Overload)
    (h : f.kind = .closedForm → f.IsNested t.scalarName) :
    Block.Declares (lines c f o t) [head o t.typeName ++ " \x7b"] := by
  have hsignature := o.signatureText_head t
  have hbody : IsBalanced (rows (indented "        " (f.body o t))) := by
    rw [IsBalanced, openAfter_rows_indented (by decide)]
    exact (Formula.isBody_body t h o).balanced
  have hfunction := Block.Declares.function
    ⟨hsignature.not_mem (by decide), hsignature.not_mem (by decide)⟩ (o.balanced_head t)
    (opening_prefix_head o t.typeName) hbody
  exact (declares_marker c o).append hfunction

/-- No line of a registration looks like a directive. -/
theorem unmarked_lines (c : Catalog) (o : Overload)
    (h : f.kind = .closedForm → f.IsNested t.scalarName) :
    ∀ line ∈ lines c f o t, Unmarked line := by
  have hmarker : '#' ∉ (marker c o).toList := by
    have hreference := o.not_mem_reference c (c := '#') (by decide) (by decide) (by decide)
    exact not_mem_append (not_mem_append (by decide) hreference) (by decide)
  have hhead : '#' ∉ ("    " ++ head o t.typeName ++ " \x7b").toList := by
    have hsignature := (o.signatureText_head t).not_mem (c := '#') (by decide)
    exact not_mem_append (not_mem_append (by decide) hsignature) (by decide)
  rw [lines, block, List.forall_mem_cons, List.forall_mem_append, List.forall_mem_append,
    List.forall_mem_singleton, List.forall_mem_singleton]
  refine ⟨unmarked_of_not_mem hmarker, ⟨unmarked_of_not_mem hhead, fun line hl => ?_⟩,
    unmarked_of_not_mem (by decide)⟩
  obtain ⟨text, htext, rfl⟩ := List.mem_map.1 hl
  exact (Formula.isBody_body t h o).unmarked text htext

/-! ## Sections and files -/

variable {s : Section × List (Overload × Formula)}

/-- A section is a block in which its registrations are declared. -/
theorem holds_sectionLinesOf (c : Catalog) (htitle : s.1.IsPlain)
    (hoverloads : s.2.map Prod.fst = s.1.overloads)
    (h : ∀ row ∈ s.2, row.2.kind = .closedForm → row.2.IsNested t.scalarName) :
    Block.Holds (sectionLinesOf c t s) [blockOf t s.1] := by
  have hregistrations : ∀ row ∈ s.2, Block.Declares
      (Source.lines [.plain (lines c row.2 row.1 t)]) [head row.1 t.typeName ++ " \x7b"] := by
    intro row hrow
    rw [Source.lines_cons, Source.lines_nil, List.append_nil, Chunk.lines]
    exact declares_lines c row.1 (h row hrow)
  have hfunctions := Block.Declares.spaced hregistrations
  have hmark : Unbracketed ("// MARK: " ++ s.1.title ++ " derivatives").toList :=
    (Unbracketed.text_append (by decide) htitle.title.2).text_append (by decide)
  have hheading : Unbracketed ("extension " ++ t.typeName).toList :=
    .text_append (by decide) t.unbracketed_typeName
  have hfeed : '\n' ∉ ("extension " ++ t.typeName).toList :=
    not_mem_append (by decide) t.line_feed_not_mem_typeName
  have hheads : (s.2.flatMap fun row => [head row.1 t.typeName ++ " \x7b"]) =
      s.1.overloads.map fun o => head o t.typeName ++ " \x7b" := by
    rw [← hoverloads, List.map_map, List.map_eq_flatMap]
    rfl
  rw [hheads] at hfunctions
  exact .extension hmark hfeed hheading hfunctions

/-- No line of a section looks like a directive. -/
theorem unmarked_sectionLinesOf (c : Catalog) (htitle : s.1.IsPlain)
    (h : ∀ row ∈ s.2, row.2.kind = .closedForm → row.2.IsNested t.scalarName) :
    ∀ line ∈ sectionLinesOf c t s, Unmarked line := by
  have hmark : Unmarked ("// MARK: " ++ s.1.title ++ " derivatives") :=
    unmarked_of_head (not_mem_append (not_mem_append (by decide) htitle.title.1) (by decide))
      (head?_toList_append (head?_toList_append rfl _) _) (by decide) (by decide)
  have hfeed : '\n' ∉ ("extension " ++ t.typeName ++ " \x7b").toList :=
    not_mem_append (not_mem_append (by decide) t.line_feed_not_mem_typeName) (by decide)
  have hheading : Unmarked ("extension " ++ t.typeName ++ " \x7b") :=
    unmarked_of_head hfeed (head?_toList_append (head?_toList_append rfl _) _) (by decide)
      (by decide)
  rw [sectionLinesOf, List.forall_mem_append, List.forall_mem_append, List.forall_mem_singleton]
  refine ⟨⟨?_, fun line hl => ?_⟩, unmarked_of_not_mem (by decide)⟩
  · simp only [List.forall_mem_cons]
    exact ⟨unmarked_of_not_mem (by decide), hmark, hheading, by simp⟩
  · obtain ⟨chunk, hchunk, hl⟩ := List.mem_flatMap.1 hl
    rcases Source.mem_spaced hchunk with rfl | ⟨source, hsource, hchunk⟩
    · rw [List.mem_singleton.1 hl]
      exact unmarked_of_not_mem (by decide)
    · obtain ⟨row, hrow, rfl⟩ := List.mem_map.1 hsource
      rw [List.mem_singleton.1 hchunk] at hl
      exact unmarked_lines c row.1 (h row hrow) line hl

/-- A file of derivatives is nested properly, and its blocks are its sections. -/
theorem nests_fileTextOf {sections : List (Section × List (Overload × Formula))}
    (hplain : ∀ s ∈ sections, s.1.IsPlain)
    (hoverloads : ∀ s ∈ sections, s.2.map Prod.fst = s.1.overloads)
    (h : ∀ s ∈ sections, ∀ row ∈ s.2, row.2.kind = .closedForm → row.2.IsNested t.scalarName) :
    Nests (sections.map fun s => blockOf t s.1) (fileTextOf c t sections) := by
  have himports : Block.Holds ["import _Differentiation", "import RealModule"] [] :=
    .of_braceless (by decide) (by decide)
  have hsections : Block.Holds (sections.flatMap (sectionLinesOf c t))
      (sections.map fun s => blockOf t s.1) :=
    .flatMap fun s hs => holds_sectionLinesOf c (hplain s hs) (hoverloads s hs) (h s hs)
  have hpresent := himports.append hsections
  have hif : Block.Holds ["" ++ "#if canImport(" ++ "_Differentiation" ++ ")"] [] :=
    .of_braceless (by decide) (by decide)
  have hendif : Block.Holds ["" ++ "#endif"] [] := .of_braceless (by decide) (by decide)
  refine .of_source ?_ ?_ ?_ ?_
  · simp [Chunk.lines]
  · have hlines := ((hif.append hpresent).append .nil).append hendif
    simp only [List.nil_append, List.append_nil] at hlines
    rw [Source.lines_cons, Source.lines_nil, List.append_nil, Chunk.lines, List.isEmpty_nil,
      if_pos rfl, List.append_nil]
    exact hlines
  · refine List.forall_mem_singleton.2 ⟨by decide, by decide, ?_, by simp⟩
    rw [List.forall_mem_append]
    refine ⟨fun line hl => unmarked_of_not_mem ?_, fun line hl => ?_⟩
    · revert line
      decide
    · obtain ⟨s, hs, hl⟩ := List.mem_flatMap.1 hl
      exact unmarked_sectionLinesOf c (hplain s hs) (h s hs) line hl
  · exact List.forall_mem_singleton.2 (List.forall_mem_singleton.2 hpresent.balanced)

end Derivative

end Lanewise
