import Lanewise.Proofs.Overload.Implementation

/-!
# The file of implementations

A file consists of imports, of the lines that frame the functions of a section, and of the functions
themselves. Where titles and requirements take one line each, none of the framing lines looks like a
directive, an import or a function. Hence a compiler keeps of the text what the source keeps, and
reading that gives the functions of the catalog in order. The module of the accelerated forms is
imported where one of the functions has such a form.
-/

namespace Lanewise

open Swift

namespace Implementation

/-- Titles and requirements take one line each. -/
structure OneLine (c : Catalog) (t : Target) : Prop where
  titles : ∀ s ∈ c.sections, '\n' ∉ s.title.toList
  requirements : ∀ s ∈ c.sections, '\n' ∉ (requirement s t).toList

/-- A line that imports the module of the accelerated forms. -/
def importLine : List Char :=
  "import simd".toList

/-! ## What a file consists of -/

/-- A line of the frame around functions. -/
structure Framing (line : String) : Prop where
  oneLine : '\n' ∉ line.toList
  /-- It is no directive. -/
  directive : directive? "simd" line.toList = none
  /-- It starts no function. -/
  starts : ¬ Member.opening <+: line.toList
  /-- It does not import the module of the accelerated forms. -/
  imports : line.toList ≠ importLine

namespace Framing

variable {line : String}

theorem literal (hfeed : '\n' ∉ line.toList := by decide)
    (hdirective : directive? "simd" line.toList = none := by decide)
    (hstarts : ¬ Member.opening <+: line.toList := by decide)
    (himports : line.toList ≠ importLine := by decide) : Framing line :=
  ⟨hfeed, hdirective, hstarts, himports⟩

theorem of_head? (hfeed : '\n' ∉ line.toList) {c : Char} (hc : line.toList.head? = some c)
    (hspace : c ≠ ' ' := by decide) (hhash : c ≠ '#' := by decide) (hi : c ≠ 'i' := by decide) :
    Framing line := by
  refine ⟨hfeed, ?_, fun h => ?_, fun h => ?_⟩
  · refine quiet_of_head hfeed hc hspace hhash _ ?_
    rw [textLines_of_not_mem hfeed]
    exact List.mem_singleton_self _
  · obtain ⟨rest, hl⟩ := List.head?_eq_some_iff.1 hc
    rw [hl] at h
    exact hspace (List.cons_prefix_cons.1 h).1.symm
  · rw [h] at hc
    exact hi (Option.some.inj hc).symm

theorem quiet (h : Framing line) : Quiet "simd" line := by
  intro piece hp
  rw [textLines_of_not_mem h.oneLine, List.mem_singleton] at hp
  rw [hp]
  exact h.directive

theorem outside (h : Framing line) : Member.Outside line :=
  Member.outside_of_not_prefix h.oneLine h.starts

theorem importLine_not_mem (h : Framing line) : importLine ∉ textLines line := by
  rw [textLines_of_not_mem h.oneLine, List.mem_singleton]
  exact h.imports.symm

end Framing

theorem line_feed_not_mem_objectType (t : Target) : '\n' ∉ t.objectType.toList := by
  cases t with
  | generic => decide
  | scalar precision => exact (Target.scalar precision).line_feed_not_mem_typeName
  | vector precision width => exact (Target.vector precision width).line_feed_not_mem_typeName

theorem framing_head {t : Target} {s : Section} (htitle : '\n' ∉ s.title.toList)
    (hrequirement : '\n' ∉ (requirement s t).toList) :
    ∀ line ∈ ["", "// MARK: " ++ s.title,
      "extension " ++ t.objectType ++ requirement s t ++ " \x7b"], Framing line := by
  have hmark : Framing ("// MARK: " ++ s.title) :=
    .of_head? (c := '/') (not_mem_append (by decide) htitle) (head?_toList_append rfl _)
  have hobject : '\n' ∉ ("extension " ++ t.objectType).toList :=
    not_mem_append (by decide) (line_feed_not_mem_objectType t)
  have hextension : Framing ("extension " ++ t.objectType ++ requirement s t ++ " \x7b") := by
    have hline : '\n' ∉ ("extension " ++ t.objectType ++ requirement s t).toList :=
      not_mem_append hobject hrequirement
    refine .of_head? (c := 'e') (not_mem_append hline (by decide)) ?_
    exact head?_toList_append (head?_toList_append (head?_toList_append rfl _) _) _
  simp only [List.forall_mem_cons]
  exact ⟨.literal, hmark, hextension, by simp⟩

theorem framing_foot (s : Section) :
    ∀ line ∈ (if s.conformance = "RealFunctions" then signGammaNote else []) ++ ["\x7d"],
      Framing line := by
  have hnote : ∀ line ∈ signGammaNote, Framing line := by
    rw [signGammaNote]
    simp only [List.forall_mem_cons]
    exact ⟨.literal, .literal, .literal, by simp⟩
  rw [List.forall_mem_append, List.forall_mem_singleton]
  refine ⟨?_, .literal⟩
  split
  · exact hnote
  · simp

/-- A section consists of framing lines and of functions. -/
theorem mem_sectionSource {t : Target} {s : Section} (htitle : '\n' ∉ s.title.toList)
    (hrequirement : '\n' ∉ (requirement s t).toList) {chunk : Chunk}
    (hc : chunk ∈ sectionSource t s) :
    (∃ lines, chunk = .plain lines ∧ ∀ line ∈ lines, Framing line) ∨
      ∃ o ∈ s.overloads, chunk ∈ o.implementation t := by
  rw [sectionSource, List.mem_append, List.mem_append, List.mem_singleton,
    List.mem_singleton] at hc
  rcases hc with (rfl | hc) | rfl
  · exact .inl ⟨_, rfl, framing_head htitle hrequirement⟩
  · rcases Source.mem_spaced hc with rfl | ⟨f, hf, hc⟩
    · exact .inl ⟨_, rfl, List.forall_mem_singleton.2 .literal⟩
    · obtain ⟨o, ho, rfl⟩ := List.mem_map.1 hf
      exact .inr ⟨o, ho, hc⟩
  · exact .inl ⟨_, rfl, framing_foot s⟩

/-- The import of the module of the accelerated forms. -/
def simdImport : Chunk :=
  .conditional "" "simd" ["import simd"] []

theorem simdImport_mem_imports_iff {c : Catalog} {t : Target} :
    simdImport ∈ imports c t ↔ ∃ o ∈ c.overloads, (o.accelerated? t).isSome = true := by
  have hpolicy : ∀ o : Overload, o.policy t = .accelerated ↔ (o.accelerated? t).isSome = true := by
    intro o
    unfold Overload.policy
    cases o.accelerated? t <;> simp
  have hany : c.overloads.any (·.policy t = .accelerated) = true ↔
      ∃ o ∈ c.overloads, (o.accelerated? t).isSome = true := by
    simp [hpolicy]
  rw [imports, ← hany]
  by_cases h : c.overloads.any (·.policy t = .accelerated) = true
  · rw [if_pos h]
    simp [h, simdImport]
  · rw [if_neg h]
    simp [h, simdImport]

/-- A file consists of the import, where there is one, of framing lines and of functions. -/
theorem mem_source {c : Catalog} {t : Target} (h : OneLine c t) {chunk : Chunk}
    (hc : chunk ∈ source c t) :
    (chunk = simdImport ∧ simdImport ∈ imports c t) ∨
      (∃ lines, chunk = .plain lines ∧ ∀ line ∈ lines, Framing line) ∨
      ∃ o ∈ c.overloads, chunk ∈ o.implementation t := by
  rw [source, List.mem_append] at hc
  rcases hc with himports | hsection
  · have himports' := himports
    rw [imports, List.mem_append, List.mem_singleton] at himports'
    rcases himports' with hsimd | rfl
    · split at hsimd
      · obtain rfl := List.mem_singleton.1 hsimd
        exact .inl ⟨rfl, himports⟩
      · exact absurd hsimd List.not_mem_nil
    · exact .inr (.inl ⟨_, rfl, List.forall_mem_singleton.2 .literal⟩)
  · obtain ⟨s, hs, hc⟩ := List.mem_flatMap.1 hsection
    rcases mem_sectionSource (h.titles s hs) (h.requirements s hs) hc with hframe | ⟨o, ho, hc⟩
    · exact .inr (.inl hframe)
    · exact .inr (.inr ⟨o, List.mem_flatMap.2 ⟨s, hs, ho⟩, hc⟩)

/-! ## What a compiler keeps of a file -/

/-- In a file of implementations only the directives look like directives. -/
theorem quiet_source {c : Catalog} {t : Target} (h : OneLine c t) :
    ∀ chunk ∈ source c t, chunk.Quiet "simd" := by
  intro chunk hc
  rcases mem_source h hc with ⟨rfl, -⟩ | ⟨lines, rfl, hframe⟩ | ⟨o, -, hc⟩
  · have himport : ∀ line ∈ ["import simd"], Quiet "simd" line :=
      List.forall_mem_singleton.2 quiet_of_not_mem
    exact ⟨by decide, rfl, himport, by simp⟩
  · exact fun line hl => (hframe line hl).quiet
  · exact o.quiet_implementation t chunk hc

theorem resolve_source_ne_nil (c : Catalog) (t : Target) (available : Bool) :
    (source c t).resolve (fun _ => available) ≠ [] := by
  simp [source, imports, Chunk.resolve]

/-- The text of a file of implementations is resolved as its source is. -/
theorem resolveText_source {c : Catalog} {t : Target} (h : OneLine c t) (available : Bool) :
    resolveText "simd" available (source c t).text =
      Source.text [.plain ((source c t).resolve fun _ => available)] := by
  exact resolveText_text (by decide) (quiet_source h) (fun _ => available)
    (resolve_source_ne_nil c t available)

theorem textLines_resolveText {c : Catalog} {t : Target} (h : OneLine c t) (available : Bool) :
    textLines (resolveText "simd" available (source c t).text) =
      ((source c t).resolve fun _ => available).flatMap textLines ++ [[]] := by
  have hlines : Source.lines [.plain ((source c t).resolve fun _ => available)] =
      (source c t).resolve fun _ => available := by
    simp [Chunk.lines]
  rw [resolveText_source h, Source.textLines_text, hlines]
  rw [hlines]
  exact resolve_source_ne_nil c t available

/-- The module of the accelerated forms is imported where some function has such a form. -/
theorem importLine_mem_iff {c : Catalog} {t : Target} (h : OneLine c t) :
    importLine ∈ textLines (resolveText "simd" true (source c t).text) ↔
      ∃ o ∈ c.overloads, (o.accelerated? t).isSome = true := by
  have hlast : importLine ∉ [([] : List Char)] := by decide
  rw [textLines_resolveText h, List.mem_append, or_iff_left hlast, ← simdImport_mem_imports_iff]
  constructor
  · intro hm
    obtain ⟨line, hl, hm⟩ := List.mem_flatMap.1 hm
    obtain ⟨chunk, hc, hl⟩ := List.mem_flatMap.1 hl
    rcases mem_source h hc with ⟨-, himport⟩ | ⟨lines, rfl, hframe⟩ | ⟨o, -, hc⟩
    · exact himport
    · exact absurd hm (hframe line hl).importLine_not_mem
    · -- No line of a function starts with a word, but the import does.
      have hline : line ∈ (o.implementation t).resolve fun _ => true :=
        List.mem_flatMap.2 ⟨chunk, hc, hl⟩
      have hword := o.head?_of_mem_implementation t true line hline importLine hm 'i' rfl
      exact absurd hword (by decide)
  · intro himport
    have hchunk : simdImport ∈ source c t := List.mem_append_left _ himport
    have hline : "import simd" ∈ (source c t).resolve fun _ => true :=
      List.mem_flatMap.2 ⟨simdImport, hchunk, List.mem_singleton_self _⟩
    have hpiece : importLine ∈ textLines "import simd" := by
      rw [textLines_of_not_mem (by decide)]
      exact List.mem_singleton_self _
    exact List.mem_flatMap.2 ⟨_, hline, hpiece⟩

/-! ## The functions of a file -/

/-- The functions of a section are read one after another. -/
theorem groups_spaced (t : Target) (available : Bool) (os : List Overload)
    (rest : List (List Char)) :
    Member.groups none (((Source.spaced (os.map (·.implementation t))).resolve
        fun _ => available).flatMap textLines ++ rest) =
      os.map (·.memberLines t available) ++ Member.groups none rest := by
  have hblank : ∀ line ∈ [""], Member.Outside line :=
    List.forall_mem_singleton.2 (Framing.outside .literal)
  match os with
  | [] => exact Member.groups_none_lines hblank rest
  | [o] => exact o.groups_implementation t available rest
  | o :: o' :: os =>
    have ih := groups_spaced t available (o' :: os) rest
    rw [List.map_cons] at ih
    rw [List.map_cons, List.map_cons, Source.spaced_cons_cons, Source.resolve_append,
      Source.resolve_cons, List.flatMap_append, List.flatMap_append, List.append_assoc,
      List.append_assoc, o.groups_implementation, Chunk.resolve,
      Member.groups_none_lines hblank, ih]
    rfl

/-- A section is read as its functions. -/
theorem groups_sectionSource {t : Target} {s : Section} (htitle : '\n' ∉ s.title.toList)
    (hrequirement : '\n' ∉ (requirement s t).toList) (available : Bool)
    (rest : List (List Char)) :
    Member.groups none
        (((sectionSource t s).resolve fun _ => available).flatMap textLines ++ rest) =
      s.overloads.map (·.memberLines t available) ++ Member.groups none rest := by
  have hhead := fun line hl => (framing_head htitle hrequirement line hl).outside
  have hfoot := fun line hl => (framing_foot s line hl).outside
  rw [sectionSource, Source.resolve_append, Source.resolve_append, List.flatMap_append,
    List.flatMap_append, List.append_assoc, List.append_assoc, Source.resolve_cons,
    Source.resolve_nil, List.append_nil, Chunk.resolve, Member.groups_none_lines hhead,
    groups_spaced, Source.resolve_cons, Source.resolve_nil, List.append_nil, Chunk.resolve,
    Member.groups_none_lines hfoot]

theorem outside_of_mem_imports (c : Catalog) (t : Target) (available : Bool) :
    ∀ line ∈ (imports c t).resolve fun _ => available, Member.Outside line := by
  have hsimd : Member.Outside "import simd" :=
    Member.outside_of_not_prefix (by decide) (by decide)
  have hreal : Member.Outside "import RealModule" := Framing.outside .literal
  unfold imports
  cases c.overloads.any (·.policy t = .accelerated) <;> cases available <;>
    simp [Chunk.resolve, hsimd, hreal]

/-- A file is read as the functions of the catalog. -/
theorem groups_source {c : Catalog} {t : Target} (h : OneLine c t) (available : Bool)
    (rest : List (List Char)) :
    Member.groups none
        (((source c t).resolve fun _ => available).flatMap textLines ++ rest) =
      c.overloads.map (·.memberLines t available) ++ Member.groups none rest := by
  have hsections : ∀ ss ⊆ c.sections,
      Member.groups none
          ((Source.resolve (fun _ => available) (ss.flatMap (sectionSource t))).flatMap textLines
            ++ rest) =
        (ss.flatMap Section.overloads).map (·.memberLines t available)
          ++ Member.groups none rest := by
    intro ss hss
    induction ss with
    | nil => rfl
    | cons s ss ih =>
      rw [List.cons_subset] at hss
      rw [List.flatMap_cons, List.flatMap_cons, Source.resolve_append, List.flatMap_append,
        List.append_assoc, List.map_append, List.append_assoc,
        groups_sectionSource (h.titles s hss.1) (h.requirements s hss.1), ih hss.2]
  rw [source, Source.resolve_append, List.flatMap_append, List.append_assoc,
    Member.groups_none_lines (outside_of_mem_imports c t available),
    hsections c.sections (List.Subset.refl _)]
  rfl

/-- The functions that are read from the text. -/
theorem readAll_resolveText {c : Catalog} {t : Target} (h : OneLine c t) (available : Bool) :
    Member.readAll (resolveText "simd" available (source c t).text) =
      c.overloads.map (·.member t available) := by
  rw [Member.readAll, textLines_resolveText h, groups_source h]
  have hend : Member.groups none [[]] = [] := by decide
  rw [hend, List.append_nil, List.map_map]
  exact List.map_congr_left fun o _ => o.ofLines_memberLines t available

/-- Vectors have a file of implementations, and so has the generic vector. -/
theorem checkTarget_eq {t : Target} (ht : ∀ precision, t ≠ .scalar precision) :
    checkTarget t = .ok () := by
  cases t with
  | scalar precision => exact absurd rfl (ht precision)
  | generic => rfl
  | vector precision width => rfl

theorem fileText_eq (c : Catalog) {t : Target} (ht : ∀ precision, t ≠ .scalar precision) :
    fileText c t = .ok (source c t).text := by
  unfold fileText
  rw [checkTarget_eq ht]
  cases c.overloads.isEmpty <;> rfl

theorem functionText_eq {t : Target} (ht : ∀ precision, t ≠ .scalar precision) (o : Overload) :
    functionText t o = .ok (o.implementation t).body := by
  unfold functionText
  rw [checkTarget_eq ht]
  rfl

end Implementation

end Lanewise
