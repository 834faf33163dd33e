import Lanewise.Swift.Source
import Lanewise.Target
import Mathlib.Data.List.Basic

/-!
# Texts for all vectors at once

A schema is a text with holes for the name of a type and for the name of its lanes' type. A text
that is made for a target is uniform if one schema gives it for vectors of every width and
precision. What is put together from uniform texts in the same way for all targets is uniform again.
-/

namespace Lanewise

/-- A stretch of the text for a target. -/
inductive Segment where
  | text (plain : String)
  /-- The name of the target. -/
  | typeName
  /-- The name of the type of one lane. -/
  | scalarName
deriving DecidableEq, Repr

/-- The text of a segment for a target. -/
def Segment.fill (t : Target) : Segment → String
  | .text plain => plain
  | .typeName => t.typeName
  | .scalarName => t.scalarName

/-- A text with holes for the names of a target. -/
abbrev Schema := List Segment

namespace Schema

/-- The text of a schema for a target. -/
def fill (t : Target) (schema : Schema) : String :=
  String.join (schema.map (Segment.fill t))

theorem fill_cons (t : Target) (segment : Segment) (rest : Schema) :
    fill t (segment :: rest) = segment.fill t ++ fill t rest := by
  rw [fill, List.map_cons, String.join_cons]
  rfl

theorem fill_append (t : Target) (a b : Schema) : fill t (a ++ b) = fill t a ++ fill t b := by
  rw [fill, List.map_append, String.join_append]
  rfl

theorem fill_singleton (t : Target) (segment : Segment) : fill t [segment] = segment.fill t := by
  rw [fill_cons]
  exact String.append_empty

/-- Schemas with a text between them. -/
def intercalate (separator : String) : List Schema → Schema
  | [] => []
  | [only] => only
  | first :: rest => first ++ .text separator :: intercalate separator rest

theorem fill_intercalate (t : Target) (separator : String) (schemas : List Schema) :
    fill t (intercalate separator schemas) = separator.intercalate (schemas.map (fill t)) := by
  induction schemas with
  | nil => rfl
  | cons first rest ih =>
    cases rest with
    | nil => rw [intercalate, List.map_singleton, String.intercalate_singleton]
    | cons second rest =>
      rw [intercalate, fill_append, fill_cons, ih, List.map_cons, List.map_cons, List.map_cons,
        String.intercalate_cons_cons, String.append_assoc]
      · rfl
      · exact List.cons_ne_nil second rest

end Schema

/-- A text for a target that one schema gives for all vectors. -/
def IsUniform (f : Target → String) : Prop :=
  ∃ schema : Schema, ∀ precision width,
    f (.vector precision width) = Schema.fill (.vector precision width) schema

/-- Lines for a target that schemas give for all vectors. -/
def AreUniform (f : Target → List String) : Prop :=
  ∃ schemas : List Schema, ∀ precision width,
    f (.vector precision width) = schemas.map (Schema.fill (.vector precision width))

namespace IsUniform

variable {f g : Target → String}

theorem const (text : String) : IsUniform fun _ => text :=
  ⟨[.text text], fun precision width =>
    (Schema.fill_singleton (.vector precision width) (.text text)).symm⟩

theorem typeName : IsUniform Target.typeName :=
  ⟨[.typeName], fun precision width =>
    (Schema.fill_singleton (.vector precision width) .typeName).symm⟩

/-- Only what happens to vectors counts. -/
theorem congr (hf : IsUniform f)
    (h : ∀ precision width, g (.vector precision width) = f (.vector precision width)) :
    IsUniform g := by
  obtain ⟨schema, hschema⟩ := hf
  exact ⟨schema, fun precision width => (h precision width).trans (hschema precision width)⟩

theorem append (hf : IsUniform f) (hg : IsUniform g) : IsUniform fun t => f t ++ g t := by
  obtain ⟨a, ha⟩ := hf
  obtain ⟨b, hb⟩ := hg
  refine ⟨a ++ b, fun precision width => ?_⟩
  rw [Schema.fill_append, ← ha, ← hb]

theorem intercalate {lines : Target → List String} (separator : String) (h : AreUniform lines) :
    IsUniform fun t => separator.intercalate (lines t) := by
  obtain ⟨schemas, hschemas⟩ := h
  refine ⟨Schema.intercalate separator schemas, fun precision width => ?_⟩
  rw [Schema.fill_intercalate, ← hschemas]

end IsUniform

namespace AreUniform

variable {α : Type} {f g : Target → List String}

/-- Only what happens to vectors counts, for lines as well. -/
theorem congr (hf : AreUniform f)
    (h : ∀ precision width, g (.vector precision width) = f (.vector precision width)) :
    AreUniform g := by
  obtain ⟨schemas, hschemas⟩ := hf
  exact ⟨schemas, fun precision width => (h precision width).trans (hschemas precision width)⟩

theorem nil : AreUniform fun _ => [] := ⟨[], fun _ _ => rfl⟩

theorem cons {line : Target → String} (hline : IsUniform line) (hf : AreUniform f) :
    AreUniform fun t => line t :: f t := by
  obtain ⟨first, hfirst⟩ := hline
  obtain ⟨rest, hrest⟩ := hf
  refine ⟨first :: rest, fun precision width => ?_⟩
  rw [List.map_cons, ← hfirst, ← hrest]

theorem singleton {line : Target → String} (hline : IsUniform line) :
    AreUniform fun t => [line t] :=
  cons hline nil

theorem append (hf : AreUniform f) (hg : AreUniform g) : AreUniform fun t => f t ++ g t := by
  obtain ⟨a, ha⟩ := hf
  obtain ⟨b, hb⟩ := hg
  refine ⟨a ++ b, fun precision width => ?_⟩
  rw [List.map_append, ← ha, ← hb]

/-- Lines that are the same for all targets. -/
theorem const (lines : List String) : AreUniform fun _ => lines := by
  induction lines with
  | nil => exact nil
  | cons line rest ih => exact cons (.const line) ih

/-- A line for each of some items. -/
theorem map {line : α → Target → String} {items : List α}
    (h : ∀ item ∈ items, IsUniform (line item)) :
    AreUniform fun t => items.map fun item => line item t := by
  induction items with
  | nil => exact nil
  | cons item rest ih =>
    rw [List.forall_mem_cons] at h
    exact cons h.1 (ih h.2)

/-- Lines for each of some items. -/
theorem flatMap {lines : α → Target → List String} {items : List α}
    (h : ∀ item ∈ items, AreUniform (lines item)) :
    AreUniform fun t => items.flatMap fun item => lines item t := by
  induction items with
  | nil => exact nil
  | cons item rest ih =>
    rw [List.forall_mem_cons] at h
    exact append h.1 (ih h.2)

theorem indented (margin : String) (hf : AreUniform f) :
    AreUniform fun t => Swift.indented margin (f t) := by
  obtain ⟨schemas, hschemas⟩ := hf
  refine ⟨schemas.map ([.text margin] ++ ·), fun precision width => ?_⟩
  show (f (.vector precision width)).map (margin ++ ·) = _
  rw [hschemas, List.map_map, List.map_map]
  refine List.map_congr_left fun schema _ => ?_
  show margin ++ Schema.fill _ schema = Schema.fill _ ([.text margin] ++ schema)
  rw [Schema.fill_append, Schema.fill_singleton]
  rfl

theorem block {head : Target → String} (margin : String) (hhead : IsUniform head)
    (hf : AreUniform f) : AreUniform fun t => Swift.block margin (head t) (f t) := by
  have hopening : IsUniform fun t => margin ++ head t ++ " \x7b" :=
    ((IsUniform.const margin).append hhead).append (.const " \x7b")
  exact ((singleton hopening).append hf).append (.const [margin ++ "\x7d"])

/-- Lines for each of some items, with an empty line between them. -/
theorem spaced {lines : α → Target → List String} {items : List α}
    (h : ∀ item ∈ items, AreUniform (lines item)) :
    AreUniform fun t => Swift.Source.lines (Swift.Source.spaced
      (items.map fun item => [.plain (lines item t)])) := by
  induction items with
  | nil => exact .const [""]
  | cons item rest ih =>
    rw [List.forall_mem_cons] at h
    cases rest with
    | nil => exact h.1.append nil
    | cons second rest => exact h.1.append ((AreUniform.const [""]).append (ih h.2))

end AreUniform

end Lanewise
