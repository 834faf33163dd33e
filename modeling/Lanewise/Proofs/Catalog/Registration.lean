import Lanewise.Overload.Signature
import Lanewise.Proofs.Catalog.Reference
import Lanewise.Target
import Mathlib.Data.List.Forall2

/-!
# Which registrations have the same signature

A registration is a function of its own, and one extension may not declare two functions with the
same name, the same labels and the same types of parameters. A catalog keeps the overloads apart but
not their registrations. The name of a registration has its first letter in upper case, and varying
arguments take the type of the target: so two registrations coincide where names differ in the case
of the first letter alone, and on a scalar also where an argument is fixed to the very type that the
other overload takes from the target. Nothing else makes them coincide.
-/

namespace Lanewise

/-- Whether two names differ in the case of the first letter and in nothing else. -/
def Identifier.DifferInCase (a b : Identifier) : Prop :=
  ∃ c d rest, a.text.toList = c :: rest ∧ b.text.toList = d :: rest ∧ c ≠ d ∧ c.toUpper = d.toUpper

/-- The name of a vector type is no identifier, because it has angle brackets. -/
theorem Identifier.text_ne_vector_typeName (i : Identifier) (precision : Precision) (width : Int) :
    i.text ≠ (Target.vector precision width).typeName := by
  intro h
  have hangle : '<' ∈ i.text.toList := by
    rw [h, Target.typeName]
    simp [String.toList_append]
  exact not_mem_of_isTail_eq_false i.valid (by decide) (by decide) hangle

/-- Whether the types of two arguments coincide on a target: they are the same, or one of them is
fixed to the type that the other takes from the target. -/
def TypesCoincide (typeName : String) (a b : Option String) : Prop :=
  a = b ∨ (a = none ∧ b = some typeName) ∨ (a = some typeName ∧ b = none)

namespace Overload

/-- What tells a registration from others in its extension: its name, the labels and the types of
its parameters. -/
def registrationSignature (o : Overload) (typeName : String) : String × List String × List String :=
  (o.registrationName, o.labels, o.arguments.map (·.typeIn typeName))

theorem registrationName_eq_iff (a b : Overload) :
    a.registrationName = b.registrationName ↔
      a.name.text = b.name.text ∨ a.name.DifferInCase b.name := by
  have htext : a.registrationName = b.registrationName ↔
      a.name.text.toList.modifyHead Char.toUpper = b.name.text.toList.modifyHead Char.toUpper := by
    rw [registrationName, registrationName, String.append_right_inj, String.ofList_inj]
  rw [htext, ← String.toList_inj, Identifier.DifferInCase]
  obtain ⟨c, cs, hc⟩ :=
    List.exists_cons_of_ne_nil (Identifier.ne_nil_of_accepts a.name.valid)
  obtain ⟨d, ds, hd⟩ :=
    List.exists_cons_of_ne_nil (Identifier.ne_nil_of_accepts b.name.valid)
  rw [hc, hd, List.modifyHead_cons, List.modifyHead_cons, List.cons.injEq, List.cons.injEq]
  constructor
  · rintro ⟨hupper, rfl⟩
    by_cases hcd : c = d
    · exact .inl ⟨hcd, rfl⟩
    · exact .inr ⟨c, d, cs, rfl, rfl, hcd, hupper⟩
  · rintro (⟨rfl, rfl⟩ | ⟨c', d', rest, ha, hb, -, hupper⟩)
    · exact ⟨rfl, rfl⟩
    · rw [List.cons.injEq] at ha hb
      obtain ⟨rfl, rfl⟩ := ha
      obtain ⟨rfl, rfl⟩ := hb
      exact ⟨hupper, rfl⟩

theorem typesCoincide_iff (typeName : String) (a b : Option String) :
    TypesCoincide typeName a b ↔ a.getD typeName = b.getD typeName := by
  unfold TypesCoincide
  cases a <;> cases b <;> simp [eq_comm]

theorem map_typeIn_eq_iff (a b : Overload) (typeName : String) :
    a.arguments.map (·.typeIn typeName) = b.arguments.map (·.typeIn typeName) ↔
      List.Forall₂ (TypesCoincide typeName) a.fixedTypes b.fixedTypes := by
  have htypes : ∀ o : Overload,
      o.arguments.map (·.typeIn typeName) = o.fixedTypes.map (·.getD typeName) := by
    intro o
    rw [fixedTypes, List.map_map]
    rfl
  have hcoincide : TypesCoincide typeName = fun x y => x.getD typeName = y.getD typeName := by
    funext x y
    exact propext (typesCoincide_iff typeName x y)
  rw [htypes, htypes, ← List.forall₂_eq_eq_eq, List.forall₂_map_left_iff,
    List.forall₂_map_right_iff, hcoincide]

/-- Registrations have the same signature when labels agree, names agree up to the case of the first
letter, and types coincide. -/
theorem registrationSignature_eq_iff (a b : Overload) (typeName : String) :
    a.registrationSignature typeName = b.registrationSignature typeName ↔
      a.labels = b.labels ∧ (a.name.text = b.name.text ∨ a.name.DifferInCase b.name) ∧
        List.Forall₂ (TypesCoincide typeName) a.fixedTypes b.fixedTypes := by
  rw [registrationSignature, registrationSignature, Prod.mk.injEq, Prod.mk.injEq,
    registrationName_eq_iff, map_typeIn_eq_iff]
  exact and_left_comm

/-- No type of an argument has the name of a vector type, which is no identifier. -/
theorem vector_typeName_not_mem_fixedTypes (o : Overload) (precision : Precision) (width : Int) :
    some (Target.vector precision width).typeName ∉ o.fixedTypes := by
  intro hm
  obtain ⟨a, -, ha⟩ := List.mem_map.1 hm
  obtain ⟨type, -, htype⟩ := Option.map_eq_some_iff.1 ha
  exact type.text_ne_vector_typeName precision width htype

end Overload

/-- Where types coincide without being the same, some argument is fixed to the type of the target
and its counterpart is not. -/
theorem mem_zip_of_typesCoincide {typeName : String} {as bs : List (Option String)}
    (h : List.Forall₂ (TypesCoincide typeName) as bs) (hne : as ≠ bs) :
    (none, some typeName) ∈ as.zip bs ∨ (some typeName, none) ∈ as.zip bs := by
  induction h with
  | nil => exact absurd rfl hne
  | @cons a b as bs hab _ ih =>
    rw [List.zip_cons_cons, List.mem_cons, List.mem_cons]
    rcases hab with rfl | ⟨rfl, rfl⟩ | ⟨rfl, rfl⟩
    · have hrest : as ≠ bs := fun he => hne (he ▸ rfl)
      rcases ih hrest with h | h
      · exact .inl (.inr h)
      · exact .inr (.inr h)
    · exact .inl (.inl rfl)
    · exact .inr (.inl rfl)

namespace Catalog

/-- Two overloads of a catalog have registrations of the same signature exactly when their labels
agree, their names agree up to the case of the first letter and their types coincide. As they are
not the same overload, the names do differ in case then, or the target is a scalar and some argument
is fixed to its type where the other overload has a varying one. -/
theorem registrationSignature_eq_iff_coincide (c : Catalog) {t : Target} (ht : t ≠ .generic)
    {a b : Overload} (ha : a ∈ c.overloads) (hb : b ∈ c.overloads) (hne : a ≠ b) :
    (a.registrationSignature t.typeName = b.registrationSignature t.typeName ↔
      a.labels = b.labels ∧ (a.name.text = b.name.text ∨ a.name.DifferInCase b.name) ∧
        List.Forall₂ (TypesCoincide t.typeName) a.fixedTypes b.fixedTypes) ∧
    (a.registrationSignature t.typeName = b.registrationSignature t.typeName →
      a.name.DifferInCase b.name ∨
        ∃ precision, t = .scalar precision ∧
          ((none, some precision.typeName) ∈ a.fixedTypes.zip b.fixedTypes ∨
            (some precision.typeName, none) ∈ a.fixedTypes.zip b.fixedTypes)) := by
  refine ⟨Overload.registrationSignature_eq_iff a b _, fun h => ?_⟩
  obtain ⟨hlabels, hname, htypes⟩ := (Overload.registrationSignature_eq_iff a b _).1 h
  rcases hname with hname | hcase
  · right
    have hfixed : a.fixedTypes ≠ b.fixedTypes := by
      intro he
      refine hne (eq_of_identity_eq ha hb ?_)
      rw [Overload.identity, Overload.identity, hname, hlabels, he]
    have hmem := mem_zip_of_typesCoincide htypes hfixed
    cases t with
    | generic => exact absurd rfl ht
    | scalar precision => exact ⟨precision, rfl, hmem⟩
    | vector precision width =>
      rcases hmem with hm | hm
      · exact absurd (List.of_mem_zip hm).2 (b.vector_typeName_not_mem_fixedTypes precision width)
      · exact absurd (List.of_mem_zip hm).1 (a.vector_typeName_not_mem_fixedTypes precision width)
  · exact .inl hcase

open Standard

/-- The power and the integer power have the same labels but no common signature. -/
theorem registrationSignature_power_ne :
    (Target.scalar .double ≠ .generic ∧ power ∈ standard.overloads ∧
      integerPower ∈ standard.overloads ∧ power ≠ integerPower) ∧
    power.registrationSignature "Double" ≠ integerPower.registrationSignature "Double" := by
  have hscalar : Target.scalar .double ≠ .generic := by decide
  have hreal : power ∈ standard.overloads := List.mem_append_left _ (List.get_mem _ _)
  have hinteger : integerPower ∈ standard.overloads := List.mem_append_left _ (List.get_mem _ _)
  have hne : power ≠ integerPower := by decide
  refine ⟨⟨hscalar, hreal, hinteger, hne⟩, fun h => ?_⟩
  rcases (registrationSignature_eq_iff_coincide standard hscalar hreal hinteger hne).2 h with
    ⟨c, d, rest, hc, hd, hcd, -⟩ | ⟨precision, -, hm⟩
  · exact hcd (List.cons.inj (hc.symm.trans hd)).1
  · cases precision <;> revert hm <;> decide

/-- The function `g(_ x)`. -/
def small : Overload :=
  sameName (.literal "g")

/-- The function `G(_ x)`. -/
def capital : Overload :=
  sameName (.literal "G")

/-- The function `g(_ x, _ y)`. -/
def varyingSecond : Overload :=
  { power with name := .literal "g" }

/-- The function `g(_ x, _ y: Float)`. -/
def floatSecond : Overload where
  name := .literal "g"
  acceleratedName := none
  arguments := [x, { y with fixedType := some (.literal "Float") }]
  names_nodup := by decide
  head_varying := ⟨x, rfl, rfl⟩

/-- A catalog with functions that differ in the case of the name, and in a type. -/
def coinciding : Catalog where
  sections := [⟨"Functions", "Functions", [small, capital, varyingSecond, floatSecond]⟩]
  keys_nodup := by decide

/-- On every target `_vjpG(_ x)` registers two functions, and on a scalar of single precision two
others are both registered by `_vjpG(_ x: Float, _ y: Float)`. -/
theorem registrationSignature_coinciding :
    (small ∈ coinciding.overloads ∧ capital ∈ coinciding.overloads ∧ small ≠ capital ∧
      ∀ t : Target,
        small.registrationSignature t.typeName = capital.registrationSignature t.typeName) ∧
    (varyingSecond ∈ coinciding.overloads ∧ floatSecond ∈ coinciding.overloads ∧
      varyingSecond ≠ floatSecond ∧
      varyingSecond.registrationSignature (Target.scalar .float).typeName =
        floatSecond.registrationSignature (Target.scalar .float).typeName) := by
  have letters : small.name.DifferInCase capital.name :=
    ⟨'g', 'G', [], rfl, rfl, by decide, by decide⟩
  refine ⟨⟨by decide, by decide, by decide, fun t => ?_⟩, by decide, by decide, by decide, ?_⟩
  · exact (Overload.registrationSignature_eq_iff _ _ _).2
      ⟨Eq.trans (b := ["_"]) rfl rfl, .inr letters, .cons (.inl rfl) .nil⟩
  · exact (Overload.registrationSignature_eq_iff _ _ _).2
      ⟨Eq.trans (b := ["_", "_"]) rfl rfl, .inl rfl,
        .cons (.inl rfl) (.cons (.inr (.inl ⟨rfl, rfl⟩)) .nil)⟩

end Catalog

end Lanewise
