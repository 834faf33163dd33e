import Lanewise.Proofs.Catalog.Reference
import Lanewise.Proofs.Formula.Scaling
import Lanewise.Proofs.Overload.Declaration
import Lanewise.Proofs.Swift.Component
import Lanewise.Proofs.Template.Standard

/-!
# What a pullback returns

A pullback returns a cotangent for each varying argument, and the registration announces their types.
The two are written by different means: the cotangents are the scaled partial derivatives of the
formula, the types come from the arguments of the overload. Both are split into components again,
as many as there are varying arguments. Scaling an expression keeps it a component: it adds
parentheses in pairs, and no comma.
-/

namespace Lanewise

open Swift

namespace Formula

/-- Scaling keeps a component one. -/
theorem isComponent_scaleChars {cotangent expression : List Char}
    (hcotangent : isComponent 0 cotangent = true) (h : isComponent 0 expression = true) :
    isComponent 0 (scaleChars cotangent expression) = true := by
  have htimes : isComponent 0 " * ".toList = true := rfl
  have hdivided : isComponent 0 " / ".toList = true := rfl
  have hsign : isComponent 0 ['-'] = true := rfl
  induction expression using scaleChars.induct with
  | case1 expression hsum =>
    have hopen : cotangent ++ " * (".toList ++ expression ++ [')'] =
        (cotangent ++ " * ".toList) ++ ('(' :: expression ++ [')']) := by
      simp
    rw [scaleChars_of_isSum hsum, hopen]
    exact isComponent.append (isComponent.append hcotangent htimes) (isComponent.parenthesized h)
  | case2 rest hsum ih =>
    rw [Bool.not_eq_true] at hsum
    rw [scaleChars_minus hsum]
    exact isComponent.append hsign (ih h)
  | case3 rest hsum =>
    -- The text in front of the divisor is as good as nothing.
    have hdivisor : isComponent 0 rest = true := h
    rw [Bool.not_eq_true] at hsum
    rw [scaleChars_reciprocal hsum]
    exact isComponent.append (isComponent.append hcotangent hdivided) hdivisor
  | case4 expression hminus hreciprocal hsum =>
    rw [Bool.not_eq_true] at hsum
    rw [scaleChars_factor hsum hminus hreciprocal]
    exact isComponent.append (isComponent.append hcotangent htimes) h

variable [Template.Engine] {f : Formula} {scalarName : String}

/-- The cotangents of a formula are components when its partials are. -/
theorem isComponent_of_mem_cotangents
    (h : ∀ expression ∈ f.partials, isComponent 0 (instantiate scalarName expression).toList = true) :
    ∀ cotangent ∈ f.cotangents scalarName, isComponent 0 cotangent.toList = true := by
  intro cotangent hmem
  obtain ⟨expression, hexpression, rfl⟩ := List.mem_map.1 hmem
  have hname : isComponent 0 cotangentName.toList = true := rfl
  rw [scale, String.toList_ofList]
  exact isComponent_scaleChars hname (h expression hexpression)

/-- The cotangents are read back from what the pullback returns. -/
theorem components?_pullback (hne : f.partials ≠ [])
    (h : ∀ expression ∈ f.partials, isComponent 0 (instantiate scalarName expression).toList = true) :
    components? f.partials.length (f.pullback scalarName) = some (f.cotangents scalarName) := by
  have hcomponent := isComponent_of_mem_cotangents h
  have hlength : (f.cotangents scalarName).length = f.partials.length := List.length_map ..
  have hcotangents : f.cotangents scalarName ≠ [] := by
    rw [← List.length_pos_iff, hlength, List.length_pos_iff]
    exact hne
  rw [← hlength]
  unfold pullback
  split
  · rename_i only honly
    rw [honly] at hcomponent ⊢
    exact components?_one (hcomponent only List.mem_cons_self)
  · rename_i hseveral
    refine components?_parenthesized hcotangents (fun hone => ?_) hcomponent
    obtain ⟨only, honly⟩ := List.length_eq_one_iff.1 hone
    exact hseveral only honly

end Formula

namespace Overload

/-- There is a varying argument. -/
theorem varying_ne_nil (o : Overload) : o.varying ≠ [] := by
  obtain ⟨first, hfirst, hvarying⟩ := o.head_varying
  have hmem : first ∈ o.varying := by
    rw [varying, List.mem_filter]
    exact ⟨List.mem_of_mem_head? hfirst, by simp [Argument.isVarying, Argument.isFixed, hvarying]⟩
  exact List.ne_nil_of_mem hmem

/-- The type of what a pullback returns has the type of the target for each varying argument. -/
theorem components?_cotangentType (o : Overload) (t : Target) :
    components? o.arity (o.cotangentType t.typeName) =
      some (o.varying.map fun _ => t.typeName) := by
  have htype : isComponent 0 t.typeName.toList = true :=
    isComponent_of_not_mem (t.not_mem_typeName (by decide)) (t.not_mem_typeName (by decide))
      (t.not_mem_typeName (by decide))
  have hlength : (o.varying.map fun _ => t.typeName).length = o.arity := List.length_map ..
  unfold cotangentType
  split
  · rename_i only honly
    rw [arity, honly]
    exact components?_one htype
  · rename_i hseveral
    rw [← hlength]
    refine components?_parenthesized (by simpa using o.varying_ne_nil) (fun hone => ?_) ?_
    · rw [List.length_map] at hone
      obtain ⟨only, honly⟩ := List.length_eq_one_iff.1 hone
      exact hseveral only honly
    · intro item hitem
      obtain ⟨a, -, rfl⟩ := List.mem_map.1 hitem
      exact htype

end Overload

namespace Formula

/-- The pullback returns one cotangent for each varying argument, in order, and so its type says. If
a formula has a partial for each varying argument of an overload, and each of them is a component when
it is written for a scalar type, then the cotangents are read back from what the pullback returns. In
its type there is the type of the target as many times, once for each argument that has no type of its
own. -/
theorem components?_pullback_and_type [Template.Engine] (o : Overload) (f : Formula)
    (scalarName : String) (hpartials : f.partials.length = o.arity)
    (h : ∀ expression ∈ f.partials, isComponent 0 (instantiate scalarName expression).toList = true) :
    components? o.arity (f.pullback scalarName) = some (f.cotangents scalarName) ∧
    ∀ t : Target, ∃ types, components? o.arity (o.cotangentType t.typeName) = some types ∧
      types.length = (f.cotangents scalarName).length ∧
      types = (o.arguments.filter fun a => a.fixedType = none).map fun _ => t.typeName := by
  have hlength : (f.cotangents scalarName).length = o.arity := (List.length_map ..).trans hpartials
  have hvarying : o.varying = o.arguments.filter fun a => a.fixedType = none := by
    refine List.filter_congr fun a _ => ?_
    cases hfixed : a.fixedType <;> simp [Argument.isVarying, Argument.isFixed, hfixed]
  have hne : f.partials ≠ [] := by
    rw [← List.length_pos_iff, hpartials, Overload.arity, List.length_pos_iff]
    exact o.varying_ne_nil
  rw [← hvarying]
  refine ⟨hpartials ▸ components?_pullback hne h, fun t => ⟨_, o.components?_cotangentType t, ?_, rfl⟩⟩
  rw [hlength, List.length_map, Overload.arity]

open Catalog.Standard in
/-- The partials of a power have calls with commas of their own. -/
theorem components?_pullback_power :
    let f := closed ["y * pow(x, y - 1)", "value * log(x)"]
    (f.partials.length = power.arity ∧ ∀ expression ∈ f.partials,
      isComponent 0 (instantiate "Double" expression).toList = true) ∧
    f.cotangents "Double" = ["v * y * pow(x, y - 1)", "v * value * log(x)"] ∧
    components? power.arity (f.pullback "Double") = some (f.cotangents "Double") ∧
    ∃ types, components? power.arity (power.cotangentType (Target.vector .double 2).typeName) =
        some types ∧
      types = ["SIMD2<Double>", "SIMD2<Double>"] := by
  intro f
  have hpartials : f.partials.length = power.arity := rfl
  have hbase : instantiate "Double" "y * pow(x, y - 1)" = "y * pow(x, y - 1)" :=
    instantiate_eq_substitute "Double" (by decide)
  have hexponent : instantiate "Double" "value * log(x)" = "value * log(x)" :=
    instantiate_eq_substitute "Double" (by decide)
  have hcomponent : ∀ expression ∈ f.partials,
      isComponent 0 (instantiate "Double" expression).toList = true := by
    intro expression hmem
    rcases List.mem_pair.1 hmem with rfl | rfl
    · rw [hbase]
      rfl
    · rw [hexponent]
      rfl
  have hcotangents : f.cotangents "Double" = ["v * y * pow(x, y - 1)", "v * value * log(x)"] := by
    show [scale cotangentName (instantiate _ _), scale cotangentName (instantiate _ _)] = _
    rw [hbase, hexponent]
    rfl
  obtain ⟨hpullback, htypes⟩ := components?_pullback_and_type power f "Double" hpartials hcomponent
  obtain ⟨types, hread, -, heq⟩ := htypes (.vector .double 2)
  exact ⟨⟨hpartials, hcomponent⟩, hcotangents, hpullback, types, hread, heq⟩

end Formula

end Lanewise
