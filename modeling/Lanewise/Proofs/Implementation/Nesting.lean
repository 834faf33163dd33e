import Lanewise.Proofs.Implementation.File
import Lanewise.Proofs.Overload.Nesting
import Lanewise.Proofs.Swift.Block

/-!
# How files of implementations are nested

Each implementation declares its function at the depth of its section, in both branches where it is
conditional, and either body is balanced. So a section is one block with its functions in it, and a
file is nested properly when titles and conformances have neither brackets nor line feeds.
-/

namespace Lanewise

open Swift

/-- The title and the conformance of a section take one line and have no brackets. -/
structure Section.IsPlain (s : Section) : Prop where
  title : '\n' ∉ s.title.toList ∧ Unbracketed s.title.toList
  conformance : '\n' ∉ s.conformance.toList ∧ Unbracketed s.conformance.toList

instance (s : Section) : Decidable s.IsPlain :=
  decidable_of_iff
    (('\n' ∉ s.title.toList ∧ Unbracketed s.title.toList) ∧
      '\n' ∉ s.conformance.toList ∧ Unbracketed s.conformance.toList)
    ⟨fun h => ⟨h.1, h.2⟩, fun h => ⟨h.title, h.conformance⟩⟩

namespace Overload

variable (o : Overload) (t : Target)

/-- The declarations in the implementation of a function, each with its brace: one in each branch if
it is conditional, else only one. -/
def implementedHeads : List String :=
  match o.accelerated? t with
  | some _ => [o.declaration t.typeName ++ " \x7b", o.declaration t.typeName ++ " \x7b"]
  | none => [o.declaration t.typeName ++ " \x7b"]

theorem balanced_loopBody : IsBalanced (rows o.loopBody) := by
  have hassign : IsBalanced ("            v[i] = " ++ o.call true ".").toList := by
    have hlane : IsBalanced "            v[i] = ".toList := by decide
    exact hlane.text_append (o.balanced_call true (by decide))
  have hvariable : openAfter [] "        var v = Self()".toList = some [] := rfl
  have hloop : openAfter [] "        for i in v.indices \x7b".toList = some [.brace] := rfl
  have hend : openAfter [.brace] "        \x7d".toList = some [] := rfl
  rw [loopBody, IsBalanced, openAfter_rows_cons, hvariable, Option.bind_some, openAfter_rows_cons,
    hloop, Option.bind_some, openAfter_rows_cons, hassign.openAfter, Option.bind_some,
    openAfter_rows_cons, hend, Option.bind_some]
  rfl

theorem balanced_callBody (i : Identifier) : IsBalanced (rows (o.callBody i.text)) := by
  have hmargin : IsBalanced "        ".toList := by decide
  exact .rows (List.forall_mem_singleton.2
    (hmargin.text_append (o.balanced_acceleratedCall i)))

theorem opening_prefix_declaration (typeName : String) :
    Signature.opening <+: (o.declaration typeName).toList := by
  rw [toList_declaration]
  exact List.prefix_append _ _

/-- A function is declared by its declaration, whatever its body is. -/
theorem declares_functionLines {body : List String} (hbody : IsBalanced (rows body)) :
    Block.Declares (o.functionLines t.typeName body) [o.declaration t.typeName ++ " \x7b"] := by
  have hsignature : SignatureText (o.declaration t.typeName) := .declaration o t
  have hattribute : Block.Declares ["    @_transparent"] [] :=
    .of_calm ⟨by decide, by decide⟩ (by decide) (by decide)
  have hfunction := Block.Declares.function
    ⟨hsignature.not_mem (by decide), hsignature.not_mem (by decide)⟩ (o.balanced_declaration t)
    (o.opening_prefix_declaration t.typeName) hbody
  exact hattribute.append hfunction

theorem declares_implementation :
    Block.Declares (o.implementation t).lines (o.implementedHeads t) := by
  have hloop : Block.Declares (o.elementWiseLines t.typeName)
      [o.declaration t.typeName ++ " \x7b"] := by
    rw [elementWiseLines_eq]
    exact o.declares_functionLines t o.balanced_loopBody
  unfold implementation implementedHeads
  cases haccelerated : o.accelerated? t with
  | none => simpa [Chunk.lines] using hloop
  | some name =>
    obtain ⟨-, i, -, rfl⟩ := accelerated?_eq_some_iff.1 haccelerated
    have hcall : Block.Declares (o.acceleratedLines i.text t.typeName)
        [o.declaration t.typeName ++ " \x7b"] := by
      rw [acceleratedLines_eq]
      exact o.declares_functionLines t (o.balanced_callBody i)
    have hif : Block.Declares ["    #if canImport(simd)"] [] :=
      .of_calm ⟨by decide, by decide⟩ (by decide) (by decide)
    have helse : Block.Declares ["    #else"] [] :=
      .of_calm ⟨by decide, by decide⟩ (by decide) (by decide)
    have hendif : Block.Declares ["    #endif"] [] :=
      .of_calm ⟨by decide, by decide⟩ (by decide) (by decide)
    have hlines : Source.lines [.conditional "    " "simd" (o.acceleratedLines i.text t.typeName)
        (o.elementWiseLines t.typeName)] = ["    #if canImport(simd)"] ++
          o.acceleratedLines i.text t.typeName ++
          (["    #else"] ++ o.elementWiseLines t.typeName) ++ ["    #endif"] := by
      rw [Source.lines_cons, Source.lines_nil, List.append_nil, Chunk.lines]
      rfl
    rw [hlines]
    exact ((hif.append hcall).append (helse.append hloop)).append hendif

theorem unmarked_functionLines {body : List String} (hbody : ∀ line ∈ body, Inner line) :
    ∀ line ∈ o.functionLines t.typeName body, Unmarked line := by
  intro line hl
  rcases eq_or_inner_of_mem_functionLines hbody line hl with rfl | hinner
  · exact unmarked_of_not_mem (by decide)
  · exact unmarked_of_not_mem hinner.hash

/-- In an implementation only the directives look like directives. -/
theorem unmarked_implementation : ∀ c ∈ o.implementation t, c.Unmarked := by
  have hloop : ∀ line ∈ o.elementWiseLines t.typeName, Unmarked line := by
    rw [elementWiseLines_eq]
    exact o.unmarked_functionLines t o.inner_loopBody
  unfold implementation
  cases haccelerated : o.accelerated? t with
  | none => exact List.forall_mem_singleton.2 hloop
  | some name =>
    obtain ⟨-, i, -, rfl⟩ := accelerated?_eq_some_iff.1 haccelerated
    have hcall : ∀ line ∈ o.acceleratedLines i.text t.typeName, Unmarked line := by
      rw [acceleratedLines_eq]
      exact o.unmarked_functionLines t (o.inner_callBody i)
    exact List.forall_mem_singleton.2 ⟨by decide, by decide, hcall, hloop⟩

/-- Both branches of an implementation are balanced. -/
theorem balanced_branches_implementation :
    ∀ c ∈ o.implementation t, ∀ branch ∈ c.branches, IsBalanced branch := by
  unfold implementation
  cases haccelerated : o.accelerated? t with
  | none => simp [Chunk.branches]
  | some name =>
    obtain ⟨-, i, -, rfl⟩ := accelerated?_eq_some_iff.1 haccelerated
    have hcall := (o.declares_functionLines t (o.balanced_callBody i)).balanced
    have hloop := (o.declares_functionLines t o.balanced_loopBody).balanced
    rw [List.forall_mem_singleton, acceleratedLines_eq, elementWiseLines_eq, Chunk.branches]
    simp only [List.forall_mem_cons]
    refine ⟨hcall, ?_⟩
    split
    · simp
    · exact List.forall_mem_singleton.2 hloop

end Overload

namespace Implementation

variable {c : Catalog} {t : Target} {s : Section}

/-- The line that opens a section. -/
def heading (t : Target) (s : Section) : String :=
  "extension " ++ t.objectType ++ requirement s t

/-- The block that a section is. -/
def blockOf (t : Target) (s : Section) : Block where
  heading := heading t s ++ " \x7b"
  functions := s.overloads.flatMap (·.implementedHeads t)

theorem unbracketed_heading (t : Target) (h : s.IsPlain) :
    Unbracketed (heading t s).toList := by
  have hobject : Unbracketed t.objectType.toList := by
    cases t with
    | generic => decide
    | scalar precision => exact (Target.scalar precision).unbracketed_typeName
    | vector precision width => exact (Target.vector precision width).unbracketed_typeName
  have hrequirement : Unbracketed (requirement s t).toList := by
    unfold requirement
    split
    · exact Unbracketed.text_append (by decide) h.conformance.2
    · decide
  exact Unbracketed.text_append (Unbracketed.text_append (by decide) hobject) hrequirement

theorem line_feed_not_mem_requirement (t : Target) (h : s.IsPlain) :
    '\n' ∉ (requirement s t).toList := by
  unfold requirement
  split
  · exact not_mem_append (by decide) h.conformance.1
  · decide

theorem line_feed_not_mem_heading (t : Target) (h : s.IsPlain) :
    '\n' ∉ (heading t s).toList :=
  not_mem_append (not_mem_append (by decide) (line_feed_not_mem_objectType t))
    (line_feed_not_mem_requirement t h)

theorem declares_note : Block.Declares signGammaNote [] := by
  rw [signGammaNote]
  exact .of_calm ⟨by decide +kernel, by decide +kernel⟩ (by decide +kernel) (by decide +kernel)

/-- A section is a block in which its functions are declared. -/
theorem holds_sectionSource (t : Target) (h : s.IsPlain) :
    Block.Holds (sectionSource t s).lines [blockOf t s] := by
  have hfunctions : Block.Declares (Source.spaced (s.overloads.map (·.implementation t))).lines
      (s.overloads.flatMap (·.implementedHeads t)) :=
    .spaced fun o _ => o.declares_implementation t
  have hnote :
      Block.Declares (if s.conformance = "RealFunctions" then signGammaNote else []) [] := by
    split
    · exact declares_note
    · exact .nil
  have hmark : Unbracketed ("// MARK: " ++ s.title).toList :=
    Unbracketed.text_append (by decide) h.title.2
  have hinside := hfunctions.append hnote
  rw [List.append_nil] at hinside
  have hlines : (sectionSource t s).lines =
      ["", "// MARK: " ++ s.title, heading t s ++ " \x7b"] ++
        ((Source.spaced (s.overloads.map (·.implementation t))).lines ++
          if s.conformance = "RealFunctions" then signGammaNote else []) ++ ["\x7d"] := by
    rw [sectionSource, Source.lines_append, Source.lines_append, Source.lines_cons,
      Source.lines_cons, Source.lines_nil, List.append_nil, List.append_nil, Chunk.lines,
      Chunk.lines]
    simp only [List.append_assoc]
    rfl
  rw [hlines]
  exact .extension hmark (line_feed_not_mem_heading t h) (unbracketed_heading t h) hinside

/-- The chunks of a section are those of its functions, and lines between them. -/
theorem forall_mem_sectionSource {P : Chunk → Prop}
    (hhead : P (.plain ["", "// MARK: " ++ s.title, heading t s ++ " \x7b"]))
    (hblank : P (.plain [""]))
    (hfunctions : ∀ o ∈ s.overloads, ∀ chunk ∈ o.implementation t, P chunk)
    (hfoot : P (.plain ((if s.conformance = "RealFunctions" then signGammaNote else []) ++
      ["\x7d"]))) : ∀ chunk ∈ sectionSource t s, P chunk := by
  rw [sectionSource, List.forall_mem_append, List.forall_mem_append, List.forall_mem_singleton,
    List.forall_mem_singleton]
  refine ⟨⟨hhead, fun chunk hc => ?_⟩, hfoot⟩
  rcases Source.mem_spaced hc with rfl | ⟨source, hsource, hc⟩
  · exact hblank
  · obtain ⟨o, ho, rfl⟩ := List.mem_map.1 hsource
    exact hfunctions o ho chunk hc

/-- In a section only the directives look like directives. -/
theorem unmarked_sectionSource (t : Target) (h : s.IsPlain) :
    ∀ chunk ∈ sectionSource t s, chunk.Unmarked := by
  have hhead : ∀ line ∈ ["", "// MARK: " ++ s.title, heading t s ++ " \x7b"], Unmarked line := by
    have hmark : Unmarked ("// MARK: " ++ s.title) :=
      unmarked_of_head (not_mem_append (by decide) h.title.1) (head?_toList_append rfl _)
        (by decide) (by decide)
    have hextension : Unmarked (heading t s ++ " \x7b") :=
      unmarked_of_head (not_mem_append (line_feed_not_mem_heading t h) (by decide))
        (head?_toList_append (head?_toList_append (head?_toList_append rfl _) _) _)
        (by decide) (by decide)
    simp only [List.forall_mem_cons]
    exact ⟨unmarked_of_not_mem (by decide), hmark, hextension, by simp⟩
  have hfoot : ∀ line ∈ (if s.conformance = "RealFunctions" then signGammaNote else []) ++ ["\x7d"],
      '#' ∉ line.toList := by
    split <;> decide
  have hblank : ∀ line ∈ [""], Unmarked line :=
    List.forall_mem_singleton.2 (unmarked_of_not_mem (by decide))
  exact forall_mem_sectionSource hhead hblank (fun o _ => o.unmarked_implementation t)
    fun line hl => unmarked_of_not_mem (hfoot line hl)

theorem holds_imports (c : Catalog) (t : Target) : Block.Holds (imports c t).lines [] := by
  unfold imports
  split
  · exact .of_braceless (by decide) (by decide)
  · exact .of_braceless (by decide) (by decide)

/-- The chunks of a file are its imports and those of its sections. -/
theorem forall_mem_source {P : Chunk → Prop} (hsimd : P simdImport)
    (himport : P (.plain ["import RealModule"]))
    (hsections : ∀ s ∈ c.sections, ∀ chunk ∈ sectionSource t s, P chunk) :
    ∀ chunk ∈ source c t, P chunk := by
  rw [source, imports, List.forall_mem_append, List.forall_mem_append, List.forall_mem_singleton]
  refine ⟨⟨fun chunk hc => ?_, himport⟩, fun chunk hc => ?_⟩
  · split at hc
    · rwa [List.mem_singleton.1 hc]
    · cases hc
  · obtain ⟨s, hs, hc⟩ := List.mem_flatMap.1 hc
    exact hsections s hs chunk hc

/-- A file of implementations is nested properly, and its blocks are its sections. -/
theorem nests_source (t : Target) (h : ∀ s ∈ c.sections, s.IsPlain) :
    Nests (c.sections.map (blockOf t)) (source c t).text := by
  have hne : (source c t).lines ≠ [] := by
    simp [source, imports, Chunk.lines]
  have hlines : (source c t).lines =
      (imports c t).lines ++ c.sections.flatMap fun s => (sectionSource t s).lines := by
    rw [source, Source.lines_append, Source.lines, Source.lines, List.flatMap_assoc]
    rfl
  have hsections := Block.Holds.flatMap fun s hs => holds_sectionSource t (h s hs)
  have hholds : Block.Holds (source c t).lines (c.sections.map (blockOf t)) := by
    rw [hlines]
    exact (holds_imports c t).append hsections
  have hblank : ∀ lines : List String, ∀ branch ∈ (Chunk.plain lines).branches, IsBalanced branch :=
    fun lines branch hb => absurd hb List.not_mem_nil
  refine .of_source hne hholds ?_ ?_
  · refine forall_mem_source ?_ ?_ fun s hs => unmarked_sectionSource t (h s hs)
    · exact ⟨by decide, by decide, List.forall_mem_singleton.2 (unmarked_of_not_mem (by decide)),
        by simp⟩
    · exact List.forall_mem_singleton.2 (unmarked_of_not_mem (by decide))
  · refine forall_mem_source ?_ (hblank _) fun s hs => ?_
    · decide
    · exact forall_mem_sectionSource (hblank _) (hblank _)
        (fun o _ => o.balanced_branches_implementation t) (hblank _)

end Implementation

end Lanewise
