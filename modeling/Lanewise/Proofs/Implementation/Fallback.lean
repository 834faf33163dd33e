import Lanewise.Catalog.Standard
import Lanewise.Proofs.Implementation.File

/-!
# The file of implementations without acceleration

A compiler that cannot import the module of the accelerated forms sees, in the file of any catalog,
the file of a catalog that has no accelerated forms at all.
-/

namespace Lanewise

open Swift

/-- The function without an accelerated form. -/
def Overload.withoutAcceleration (o : Overload) : Overload :=
  { o with acceleratedName := none }

/-- The section without accelerated forms. -/
def Section.withoutAcceleration (s : Section) : Section :=
  { s with overloads := s.overloads.map Overload.withoutAcceleration }

theorem Section.keys_withoutAcceleration (ss : List Section) :
    ((ss.map withoutAcceleration).flatMap overloads).map Overload.key =
      (ss.flatMap overloads).map Overload.key := by
  induction ss with
  | nil => rfl
  | cons s ss ih =>
    rw [List.map_cons, List.flatMap_cons, List.flatMap_cons, List.map_append, List.map_append, ih]
    simp only [withoutAcceleration, List.map_map]
    rfl

/-- The catalog without accelerated forms. -/
def Catalog.withoutAcceleration (c : Catalog) : Catalog where
  sections := c.sections.map Section.withoutAcceleration
  keys_nodup := by
    rw [Section.keys_withoutAcceleration]
    exact c.keys_nodup

theorem Overload.accelerated?_withoutAcceleration (o : Overload) (t : Target) :
    o.withoutAcceleration.accelerated? t = none := by
  simp [accelerated?, withoutAcceleration]

theorem Overload.implementation_withoutAcceleration (o : Overload) (t : Target) :
    o.withoutAcceleration.implementation t = [.plain (o.elementWiseLines t.typeName)] := by
  rw [implementation, accelerated?_withoutAcceleration]
  rfl

theorem Overload.resolve_implementation_false (o : Overload) (t : Target) :
    (o.implementation t).resolve (fun _ => false) = o.elementWiseLines t.typeName := by
  rw [resolve_implementation, bodyLines_false, elementWiseLines_eq]

namespace Implementation

theorem resolve_sectionSource_false (t : Target) (s : Section) :
    (sectionSource t s).resolve (fun _ => false) =
      (sectionSource t s.withoutAcceleration).lines := by
  have hfunctions : (s.overloads.map (·.implementation t)).map (fun f =>
        ([.plain (f.resolve fun _ => false)] : Source)) =
      s.withoutAcceleration.overloads.map (·.implementation t) := by
    rw [Section.withoutAcceleration, List.map_map, List.map_map]
    refine List.map_congr_left fun o _ => ?_
    simp only [Function.comp_apply, o.resolve_implementation_false,
      o.implementation_withoutAcceleration]
  rw [sectionSource, sectionSource, Source.resolve_append, Source.resolve_append,
    Source.resolve_spaced, hfunctions, Source.lines_append, Source.lines_append]
  rfl

theorem resolve_imports_false (c : Catalog) (t : Target) :
    (imports c t).resolve (fun _ => false) = (imports c.withoutAcceleration t).lines := by
  have hnone : c.withoutAcceleration.overloads.any (·.policy t = .accelerated) = false := by
    rw [List.any_eq_false]
    intro o ho
    obtain ⟨s, hs, ho⟩ := List.mem_flatMap.1 ho
    obtain ⟨s, -, rfl⟩ := List.mem_map.1 hs
    obtain ⟨o, -, rfl⟩ := List.mem_map.1 ho
    simp [Overload.policy, o.accelerated?_withoutAcceleration]
  rw [imports, imports, hnone, Source.resolve_append]
  split <;> simp [Chunk.resolve, Chunk.lines]

/-- Without the module of the accelerated forms, the lines of a catalog that has none remain. -/
theorem resolve_source_false (c : Catalog) (t : Target) :
    (source c t).resolve (fun _ => false) = (source c.withoutAcceleration t).lines := by
  have hsections : ∀ ss : List Section,
      Source.resolve (fun _ => false) (ss.flatMap (sectionSource t)) =
        Source.lines ((ss.map Section.withoutAcceleration).flatMap (sectionSource t)) := by
    intro ss
    induction ss with
    | nil => rfl
    | cons s ss ih =>
      rw [List.flatMap_cons, List.map_cons, List.flatMap_cons, Source.resolve_append,
        Source.lines_append, ih, resolve_sectionSource_false]
  rw [source, source, Source.resolve_append, Source.lines_append, hsections,
    resolve_imports_false]
  rfl

/-- The file for a vector falls back to the file of the same catalog without accelerated forms: that
is what remains of its text for a compiler that cannot import their module. -/
theorem resolveText_fileText_unavailable (c : Catalog) (precision : Precision) (width : Int)
    (htitles : ∀ s ∈ c.sections, '\n' ∉ s.title.toList) :
    ∃ text plain,
      fileText c (.vector precision width) = .ok text ∧
      fileText c.withoutAcceleration (.vector precision width) = .ok plain ∧
      resolveText "simd" false text = plain := by
  have hvector : ∀ p, Target.vector precision width ≠ .scalar p := fun p h => by cases h
  refine ⟨_, _, fileText_eq c hvector, fileText_eq _ hvector, ?_⟩
  rw [resolveText_source ⟨htitles, fun s _ => by simp [requirement]⟩, resolve_source_false,
    Source.text_plain_lines]

/-- The standard functions on a vector of eight lanes. -/
theorem resolveText_fileText_unavailable_standard :
    (∀ s ∈ Catalog.standard.sections, '\n' ∉ s.title.toList) ∧
    ∃ text plain,
      fileText .standard (.vector .float 8) = .ok text ∧
      fileText Catalog.standard.withoutAcceleration (.vector .float 8) = .ok plain ∧
      resolveText "simd" false text = plain :=
  ⟨by decide, resolveText_fileText_unavailable .standard .float 8 (by decide)⟩

end Implementation

end Lanewise
