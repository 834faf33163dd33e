import Lanewise.Formula.Standard
import Lanewise.Proofs.Formula.Reading
import Lanewise.Proofs.Formula.RealFunction
import Lanewise.Proofs.Template.Standard

/-!
# Gradients

A closed form is read over the real numbers: the scalar type stands for them, and functions are
called by their names. In the interior of the domain of every function of the standard catalog that
has a closed form, each cotangent is the cotangent of the result times the derivative in the varying
argument of the same place. Two points are exceptional. In the origin the distance has no derivative,
and for the zeroth power of zero the cotangent does not exist, though the derivative does.
-/

noncomputable section

namespace Lanewise

namespace RealFunction

/-- The names that a pullback sees: its cotangent, the value of the function and the arguments. -/
def scope (F : RealFunction) (o : Overload) (input : String → ℝ) (v : ℝ) : List (String × ℝ) :=
  (Formula.cotangentName, v) :: ("value", F.value input)
    :: o.arguments.map fun a => (a.name.text, input a.name.text)

/-- The derivatives in the varying arguments, in order. -/
def HasGradientAt (F : RealFunction) (o : Overload) (input : String → ℝ)
    (gradient : List ℝ) : Prop :=
  List.Forall₂ (fun a derivative => HasDerivAt
    (fun s => F.value (Function.update input a.name.text s)) derivative (input a.name.text))
    o.varying gradient

end RealFunction

namespace Formula

/-- The value of an expression for a scalar type, with the names in scope. -/
def realValue? (scalarName : String) (scope : List (String × ℝ)) (chars : List Char) : Option ℝ :=
  valueOfChars? (realReading scalarName scope) chars

/-- In the interior of the domain of a function, apart from the exceptions, the cotangents of a formula
are worth the products of the cotangent of the result with the derivatives. -/
def IsGradient [Template.Engine] (f : Formula) (scalarName : String) (o : Overload)
    (F : RealFunction) : Prop :=
  ∀ input ∈ F.domain \ F.exceptions, ∀ v, ∃ gradient, F.HasGradientAt o input gradient
    ∧ f.cotangentValues? scalarName (realValue? scalarName) (F.scope o input v)
        = some (gradient.map (v * ·))

/-! ## Numbers and their values -/

/-- The cotangents of a formula are read behind its bindings, each as a number that may fail to
exist. -/
def ReadsAs (f : Formula) (scalarName : String) (scope : List (String × ℝ))
    (numbers : List PartialReal) : Prop :=
  ∃ inner, bind? (fun scope expression => realValue? scalarName scope
      (substitute scalarName.toList expression.toList)) scope f.bindings = some inner
    ∧ f.partials.mapM (fun expression => numberOfChars? (realReading scalarName inner)
      (scaleChars ['v'] (substitute scalarName.toList expression.toList))) = some numbers

theorem mapM_bind_value? {α : Type} {number? : α → Option PartialReal} {items : List α}
    {numbers : List PartialReal} {values : List ℝ} (hnumbers : items.mapM number? = some numbers)
    (hvalues : List.Forall₂ (fun a r => a.value? = some r) numbers values) :
    items.mapM (fun item => (number? item).bind PartialReal.value?) = some values := by
  induction items generalizing numbers values with
  | nil =>
    cases hnumbers
    cases hvalues
    rfl
  | cons item rest ih =>
    rw [List.mapM_cons, Option.bind_eq_bind, Option.bind_eq_some_iff] at hnumbers
    obtain ⟨a, ha, hrest⟩ := hnumbers
    rw [Option.bind_eq_bind, Option.bind_eq_some_iff] at hrest
    obtain ⟨behind, hbehind, hcons⟩ := hrest
    cases hcons
    cases hvalues with
    | cons hvalue hvalues =>
      rw [List.mapM_cons, ha, Option.bind_some, hvalue, ih hbehind hvalues]
      rfl

/-- A single binding is read before the cotangents, and its number has to exist. -/
theorem readsAs_of_binding {scalarName name text : String} {partials : List String}
    {scope : List (String × ℝ)} {bound : PartialReal} {r : ℝ} {numbers : List PartialReal}
    (hbound : numberOfChars? (realReading scalarName scope)
      (substitute scalarName.toList text.toList) = some bound)
    (hvalue : bound.value? = some r)
    (hnumbers : partials.mapM (fun expression =>
      numberOfChars? (realReading scalarName ((name, r) :: scope))
        (scaleChars ['v'] (substitute scalarName.toList expression.toList))) = some numbers) :
    (closed partials [(name, text)]).ReadsAs scalarName scope numbers := by
  have hreal : realValue? scalarName scope (substitute scalarName.toList text.toList) = some r := by
    rw [realValue?, valueOfChars?, hbound, Option.bind_some, hvalue]
  refine ⟨(name, r) :: scope, ?_, hnumbers⟩
  simp only [closed, bind?, hreal]
  rfl

/-- If the numbers exist, they are the values of the cotangents. -/
theorem ReadsAs.substitutedValues? {f : Formula} {scalarName : String} {scope : List (String × ℝ)}
    {numbers : List PartialReal} {values : List ℝ} (h : f.ReadsAs scalarName scope numbers)
    (hvalues : List.Forall₂ (fun a r => a.value? = some r) numbers values) :
    f.substitutedValues? scalarName (realValue? scalarName) scope = some values := by
  obtain ⟨inner, hinner, hnumbers⟩ := h
  rw [Formula.substitutedValues?, hinner]
  exact mapM_bind_value? hnumbers hvalues

section

variable [Template.Engine] [Template.LawfulEngine]

/-- A formula whose cotangents have been read gives the gradient if they are worth the products of the
cotangent of the result with the derivatives. -/
theorem isGradient_of_reads {scalarName : String} {f : Formula} {o : Overload} {F : RealFunction}
    (numbers : (String → ℝ) → ℝ → List PartialReal)
    (hgradient : ∀ input ∈ F.domain \ F.exceptions, ∃ gradient,
      F.HasGradientAt o input gradient ∧
        ∀ v, List.Forall₂ (fun a r => a.value? = some r) (numbers input v) (gradient.map (v * ·)))
    (hreads : ∀ input ∈ F.domain \ F.exceptions, ∀ v,
      f.ReadsAs scalarName (F.scope o input v) (numbers input v))
    (hplain : f.isPlain) : f.IsGradient scalarName o F := by
  intro input hinput v
  obtain ⟨gradient, hderivatives, hproducts⟩ := hgradient input hinput
  refine ⟨gradient, hderivatives, ?_⟩
  rw [cotangentValues?_eq_substitutedValues? hplain]
  exact (hreads input hinput v).substitutedValues? (hproducts v)

open RealFunction (unary)

/-- For a function of one argument it is enough to look at the only cotangent. -/
theorem isGradient_unary {scalarName : String} {f : Formula} {name : Identifier}
    {acceleratedName : Option Identifier} {x : Argument} {hx : x.fixedType = none}
    {g : ℝ → ℝ} {domain : Set ℝ} (number : ℝ → ℝ → PartialReal)
    (hgradient : ∀ x ∈ domain, ∃ derivative, HasDerivAt g derivative x
      ∧ ∀ v, (number v x).value? = some (v * derivative))
    (hreads : ∀ v x, f.ReadsAs scalarName [("v", v), ("value", g x), ("x", x)] [number v x])
    (hplain : f.isPlain) (hname : x.name.text = "x") :
    f.IsGradient scalarName (Catalog.Standard.unary name acceleratedName x hx)
      (unary g domain) := by
  refine isGradient_of_reads (fun input v => [number v (input "x")]) (fun input hinput => ?_)
    (fun input _ v => ?_) hplain
  · obtain ⟨derivative, hderivative, hproduct⟩ := hgradient (input "x") hinput.1
    refine ⟨[derivative], ?_, fun v => .cons (hproduct v) .nil⟩
    have honly : (Catalog.Standard.unary name acceleratedName x hx).varying = [x] := by
      simp [Overload.varying, Catalog.Standard.unary, Argument.isVarying, Argument.isFixed, hx]
    rw [RealFunction.HasGradientAt, honly]
    refine .cons ?_ .nil
    simpa [unary, hname] using hderivative
  · have hscope : (unary g domain).scope
        (Catalog.Standard.unary name acceleratedName x hx) input v
        = [("v", v), ("value", g (input "x")), ("x", input "x")] := by
      simp [RealFunction.scope, Catalog.Standard.unary, hname, unary, cotangentName]
    rw [hscope]
    exact hreads v (input "x")

namespace Standard

open Catalog.Standard (sameName binary)
open PartialReal (of)

variable (t : Target)

/-! ## Elementary functions -/

theorem isGradient_exp :
    (closed ["value"]).IsGradient t.scalarName (sameName (.literal "exp"))
      (unary Real.exp) := by
  -- The text of the cotangent is read by computation, here and in every row.
  refine isGradient_unary (fun v x => of v * of (Real.exp x)) (fun x _ => ?_)
    (fun _ _ => ⟨_, rfl, rfl⟩) rfl rfl
  exact ⟨_, Real.hasDerivAt_exp x, fun v => by simp⟩

theorem isGradient_expMinusOne :
    (closed ["exp(x)"]).IsGradient t.scalarName
      (Catalog.Standard.unary (.literal "expMinusOne") (some (.literal "expm1")))
      (unary fun x => Real.exp x - 1) := by
  refine isGradient_unary (fun v x => of v * (of x).bind fun x => of (Real.exp x)) (fun x _ => ?_)
    (fun _ _ => ⟨_, rfl, rfl⟩) rfl rfl
  have hslope : HasDerivAt (fun x => Real.exp x - 1) (Real.exp x) x :=
    (Real.hasDerivAt_exp x).sub_const 1
  exact ⟨_, hslope, fun v => by simp⟩

theorem isGradient_cosh :
    (closed ["sinh(x)"]).IsGradient t.scalarName (sameName (.literal "cosh"))
      (unary Real.cosh) := by
  refine isGradient_unary (fun v x => of v * (of x).bind fun x => of (Real.sinh x)) (fun x _ => ?_)
    (fun _ _ => ⟨_, rfl, rfl⟩) rfl rfl
  exact ⟨_, Real.hasDerivAt_cosh x, fun v => by simp⟩

theorem isGradient_sinh :
    (closed ["cosh(x)"]).IsGradient t.scalarName (sameName (.literal "sinh"))
      (unary Real.sinh) := by
  refine isGradient_unary (fun v x => of v * (of x).bind fun x => of (Real.cosh x)) (fun x _ => ?_)
    (fun _ _ => ⟨_, rfl, rfl⟩) rfl rfl
  exact ⟨_, Real.hasDerivAt_sinh x, fun v => by simp⟩

theorem isGradient_tanh :
    (closed ["1 - value * value"]).IsGradient t.scalarName (sameName (.literal "tanh"))
      (unary Real.tanh) := by
  refine isGradient_unary
    (fun v x => of v * (of (1 : ℕ) - of (Real.tanh x) * of (Real.tanh x))) (fun x _ => ?_)
    (fun _ _ => ⟨_, rfl, rfl⟩) rfl rfl
  exact ⟨_, RealFunction.hasDerivAt_tanh x, fun v => by simp⟩

theorem isGradient_cos :
    (closed ["-sin(x)"]).IsGradient t.scalarName (sameName (.literal "cos"))
      (unary Real.cos) := by
  refine isGradient_unary (fun v x => -of v * (of x).bind fun x => of (Real.sin x))
    (fun x _ => ?_) (fun v x => ⟨_, rfl, ?_⟩) rfl rfl
  · exact ⟨_, Real.hasDerivAt_cos x, fun v => by simp⟩
  -- The recursion behind a leading minus computes badly, so the minus is moved out first.
  · have hminus : substitute t.scalarName.toList "-sin(x)".toList = '-' :: "sin(x)".toList := rfl
    simp only [closed, List.mapM_cons, hminus]
    rw [scaleChars_minus rfl]
    rfl

theorem isGradient_sin :
    (closed ["cos(x)"]).IsGradient t.scalarName (sameName (.literal "sin"))
      (unary Real.sin) := by
  refine isGradient_unary (fun v x => of v * (of x).bind fun x => of (Real.cos x)) (fun x _ => ?_)
    (fun _ _ => ⟨_, rfl, rfl⟩) rfl rfl
  exact ⟨_, Real.hasDerivAt_sin x, fun v => by simp⟩

theorem isGradient_tan :
    (closed ["1 / (cosx * cosx)"] [("cosx", "cos(x)")]).IsGradient t.scalarName
      (sameName (.literal "tan")) (unary Real.tan {x | Real.cos x ≠ 0}) := by
  refine isGradient_unary (fun v x => of v / (of (Real.cos x) * of (Real.cos x)))
    (fun x hx => ?_) (fun v x => readsAs_of_binding rfl (by simp) rfl) rfl rfl
  have hcos : Real.cos x ≠ 0 := hx
  have hslope : HasDerivAt Real.tan (1 / Real.cos x ^ 2) x := Real.hasDerivAt_tan hcos
  exact ⟨_, hslope, fun v => by simp [hcos, sq, div_eq_mul_inv]⟩

theorem isGradient_log :
    (closed ["1 / x"]).IsGradient t.scalarName (sameName (.literal "log"))
      (unary Real.log (Set.Ioi 0)) := by
  refine isGradient_unary (fun v x => of v / of x) (fun x hx => ?_)
    (fun _ _ => ⟨_, rfl, rfl⟩) rfl rfl
  have hne : x ≠ 0 := ne_of_gt hx
  exact ⟨_, Real.hasDerivAt_log hne, fun v => by simp [hne, div_eq_mul_inv]⟩

theorem isGradient_log_onePlus :
    (closed ["1 / (1 + x)"]).IsGradient t.scalarName
      (Catalog.Standard.unary (.literal "log") (some (.literal "log1p"))
        { Catalog.Standard.x with label := some (.literal "onePlus") })
      (unary (fun x => Real.log (1 + x)) (Set.Ioi (-1))) := by
  refine isGradient_unary (fun v x => of v / (of (1 : ℕ) + of x)) (fun x hx => ?_)
    (fun _ _ => ⟨_, rfl, rfl⟩) rfl rfl
  have hne : 1 + x ≠ 0 := (neg_lt_iff_pos_add'.1 hx).ne'
  have hslope : HasDerivAt (fun x => Real.log (1 + x)) (1 / (1 + x)) x :=
    ((hasDerivAt_id x).const_add 1).log hne
  exact ⟨_, hslope, fun v => by simp [hne, div_eq_mul_inv]⟩

theorem isGradient_acosh :
    (closed ["1 / sqrt(x * x - 1)"]).IsGradient t.scalarName (sameName (.literal "acosh"))
      (unary Real.arcosh (Set.Ioi 1)) := by
  refine isGradient_unary (fun v x => of v / (of x * of x - of (1 : ℕ)).bind .sqrt)
    (fun x hx => ?_) (fun _ _ => ⟨_, rfl, rfl⟩) rfl rfl
  have hone : 1 < x := hx
  have hpos : 0 < x * x - 1 := by nlinarith
  have hslope : HasDerivAt Real.arcosh (√(x ^ 2 - 1))⁻¹ x := Real.hasDerivAt_arcosh hone
  refine ⟨_, hslope, fun v => ?_⟩
  simp [(sub_pos.1 hpos).le, (Real.sqrt_pos.2 hpos).ne', sq, div_eq_mul_inv]

theorem isGradient_asinh :
    (closed ["1 / sqrt(x * x + 1)"]).IsGradient t.scalarName (sameName (.literal "asinh"))
      (unary Real.arsinh) := by
  refine isGradient_unary (fun v x => of v / (of x * of x + of (1 : ℕ)).bind .sqrt)
    (fun x _ => ?_) (fun _ _ => ⟨_, rfl, rfl⟩) rfl rfl
  have hpos : 0 < x * x + 1 := add_pos_of_nonneg_of_pos (mul_self_nonneg x) one_pos
  have hslope : HasDerivAt Real.arsinh (√(1 + x ^ 2))⁻¹ x := Real.hasDerivAt_arsinh x
  refine ⟨_, hslope, fun v => ?_⟩
  simp [hpos.le, (Real.sqrt_pos.2 hpos).ne', sq, div_eq_mul_inv, add_comm]

theorem isGradient_atanh :
    (closed ["1 / (1 - x * x)"]).IsGradient t.scalarName (sameName (.literal "atanh"))
      (unary Real.artanh (Set.Ioo (-1) 1)) := by
  refine isGradient_unary (fun v x => of v / (of (1 : ℕ) - of x * of x)) (fun x hx => ?_)
    (fun _ _ => ⟨_, rfl, rfl⟩) rfl rfl
  have hne := (RealFunction.one_sub_square_pos hx).ne'
  exact ⟨_, RealFunction.hasDerivAt_artanh hx, fun v => by simp [hne, div_eq_mul_inv]⟩

theorem isGradient_acos :
    (closed ["-1 / sqrt(1 - x * x)"]).IsGradient t.scalarName (sameName (.literal "acos"))
      (unary Real.arccos (Set.Ioo (-1) 1)) := by
  refine isGradient_unary (fun v x => -of v / (of (1 : ℕ) - of x * of x).bind .sqrt)
    (fun x hx => ?_) (fun v x => ⟨_, rfl, ?_⟩) rfl rfl
  · have hpos := RealFunction.one_sub_square_pos hx
    have hslope : HasDerivAt Real.arccos (-(1 / √(1 - x ^ 2))) x :=
      Real.hasDerivAt_arccos hx.1.ne' hx.2.ne
    refine ⟨_, hslope, fun v => ?_⟩
    simp [(sub_pos.1 hpos).le, (Real.sqrt_pos.2 hpos).ne', sq, div_eq_mul_inv]
  · have hminus : substitute t.scalarName.toList "-1 / sqrt(1 - x * x)".toList
        = '-' :: "1 / sqrt(1 - x * x)".toList := rfl
    simp only [closed, List.mapM_cons, hminus]
    rw [scaleChars_minus rfl]
    rfl

theorem isGradient_asin :
    (closed ["1 / sqrt(1 - x * x)"]).IsGradient t.scalarName (sameName (.literal "asin"))
      (unary Real.arcsin (Set.Ioo (-1) 1)) := by
  refine isGradient_unary (fun v x => of v / (of (1 : ℕ) - of x * of x).bind .sqrt)
    (fun x hx => ?_) (fun _ _ => ⟨_, rfl, rfl⟩) rfl rfl
  have hpos := RealFunction.one_sub_square_pos hx
  have hslope : HasDerivAt Real.arcsin (1 / √(1 - x ^ 2)) x :=
    Real.hasDerivAt_arcsin hx.1.ne' hx.2.ne
  refine ⟨_, hslope, fun v => ?_⟩
  simp [(sub_pos.1 hpos).le, (Real.sqrt_pos.2 hpos).ne', sq, div_eq_mul_inv]

theorem isGradient_atan :
    (closed ["1 / (x * x + 1)"]).IsGradient t.scalarName (sameName (.literal "atan"))
      (unary Real.arctan) := by
  refine isGradient_unary (fun v x => of v / (of x * of x + of (1 : ℕ))) (fun x _ => ?_)
    (fun _ _ => ⟨_, rfl, rfl⟩) rfl rfl
  have hpos : 0 < x * x + 1 := add_pos_of_nonneg_of_pos (mul_self_nonneg x) one_pos
  have hslope : HasDerivAt Real.arctan (1 / (1 + x ^ 2)) x := Real.hasDerivAt_arctan x
  exact ⟨_, hslope, fun v => by simp [hpos.ne', sq, div_eq_mul_inv, add_comm]⟩

theorem isGradient_integerPower :
    (closed [scalar ++ "(n) * pow(x, n - 1)"]).IsGradient t.scalarName
      (binary (.literal "pow") (some (.literal "pow")) Catalog.Standard.x Catalog.Standard.n)
      RealFunction.integerPower := by
  refine isGradient_of_reads
    (fun input v => [of v * of (input "n") *
      (of (input "x")).bind fun x => (of (input "n") - of (1 : ℕ)).bind fun y => .pow x y])
    (fun input hinput => ⟨[input "n" * input "x" ^ (input "n" - 1)], ?_, fun v => ?_⟩)
    (fun input _ v => ?_) rfl
  · exact .cons (RealFunction.hasDerivAt_integerPower hinput.1.1 hinput.1.2) .nil
  · have hdefined := RealFunction.defined_pow_sub_one hinput
    rw [PartialReal.defined_pow, sub_nonneg] at hdefined
    refine .cons ?_ .nil
    simp [hdefined, mul_assoc]
  · rcases t.scalarName_eq with hname | hname | hname <;> rw [hname] <;> exact ⟨_, rfl, rfl⟩

theorem isGradient_power :
    (closed ["y * pow(x, y - 1)", "value * log(x)"]).IsGradient t.scalarName
      (binary (.literal "pow") (some (.literal "pow")) Catalog.Standard.x Catalog.Standard.y)
      RealFunction.power := by
  refine isGradient_of_reads
    (fun input v => [of v * of (input "y") *
        (of (input "x")).bind fun x => (of (input "y") - of (1 : ℕ)).bind fun y => .pow x y,
      of v * of (input "x" ^ input "y") * (of (input "x")).bind .log])
    (fun input hinput => ⟨[input "y" * input "x" ^ (input "y" - 1),
      input "x" ^ input "y" * Real.log (input "x")], ?_, fun v => ?_⟩)
    (fun _ _ _ => ⟨_, rfl, rfl⟩) rfl
  · exact .cons (RealFunction.hasDerivAt_power_fst hinput.1 (input "y"))
      (.cons (RealFunction.hasDerivAt_const_rpow hinput.1 (input "y")) .nil)
  · have hpos : 0 < input "x" := hinput.1
    exact .cons (by simp [hpos, mul_assoc]) (.cons (by simp [hpos, mul_assoc]) .nil)

theorem isGradient_sqrt :
    (closed ["1 / (2 * value)"]).IsGradient t.scalarName
      (Catalog.Standard.unary (.literal "sqrt") none) (unary Real.sqrt (Set.Ioi 0)) := by
  refine isGradient_unary (fun v x => of v / (of (2 : ℕ) * of √x)) (fun x hx => ?_)
    (fun _ _ => ⟨_, rfl, rfl⟩) rfl rfl
  have hpos : 0 < √x := Real.sqrt_pos.2 hx
  have hslope : HasDerivAt Real.sqrt (1 / (2 * √x)) x := Real.hasDerivAt_sqrt (ne_of_gt hx)
  exact ⟨_, hslope, fun v => by simp [hpos.ne', div_eq_mul_inv]⟩

theorem isGradient_root :
    (closed ["value / (x * " ++ scalar ++ "(n))"]).IsGradient t.scalarName
      (binary (.literal "root") none Catalog.Standard.x Catalog.Standard.n)
      RealFunction.root := by
  refine isGradient_of_reads
    (fun input v => [of v * of (input "x" ^ (1 / input "n")) / (of (input "x") * of (input "n"))])
    (fun input hinput => ⟨[input "x" ^ (1 / input "n") / (input "x" * input "n")], ?_, fun v => ?_⟩)
    (fun input _ v => ?_) rfl
  · exact .cons (RealFunction.hasDerivAt_root hinput.1.2.2 hinput.1.1) .nil
  · have hx : input "x" ≠ 0 := ne_of_gt hinput.1.1
    have hn : input "n" ≠ 0 := hinput.1.2.2
    exact .cons (by simp [hx, hn, mul_div_assoc]) .nil
  · rcases t.scalarName_eq with hname | hname | hname <;> rw [hname] <;> exact ⟨_, rfl, rfl⟩

/-! ## Real functions -/

theorem isGradient_atan2 :
    (closed ["x / c", "-y / c"] [("c", "x * x + y * y")]).IsGradient t.scalarName
      (binary (.literal "atan2") (some (.literal "atan2"))
        { Catalog.Standard.y with label := none } { Catalog.Standard.x with label := none })
      RealFunction.angle := by
  refine isGradient_of_reads
    (fun input v =>
      [of v * of (input "x") / of (input "x" * input "x" + input "y" * input "y"),
        -of v * of (input "y") / of (input "x" * input "x" + input "y" * input "y")])
    (fun input hinput => ⟨[input "x" / (input "x" * input "x" + input "y" * input "y"),
      -input "y" / (input "x" * input "x" + input "y" * input "y")], ?_, fun v => ?_⟩)
    (fun input _ v => readsAs_of_binding rfl (PartialReal.value?_eq_some_iff.2 ⟨by simp, rfl⟩) ?_) rfl
  · exact .cons (RealFunction.hasDerivAt_angle_snd hinput.1)
      (.cons (RealFunction.hasDerivAt_angle_fst hinput.1) .nil)
  · have haway : input "x" ≠ 0 ∨ input "y" ≠ 0 := hinput.1.imp_left ne_of_gt
    have hne := (RealFunction.sum_of_squares_pos haway).ne'
    exact .cons (by simp [hne, mul_div_assoc]) (.cons (by simp [hne, mul_div_assoc, neg_div]) .nil)
  · have hminus : substitute t.scalarName.toList "-y / c".toList = '-' :: "y / c".toList := rfl
    simp only [List.mapM_cons, hminus]
    rw [scaleChars_minus rfl]
    rfl

theorem isGradient_erf :
    (closed ["2 * exp(-x * x) / " ++ scalar ++ ".sqrt(" ++ scalar ++ ".pi)"]).IsGradient
      t.scalarName (sameName (.literal "erf")) (unary RealFunction.erf) := by
  refine isGradient_unary (fun v x => of v * of (2 : ℕ) *
      ((-of x * of x).bind fun x => of (Real.exp x)) / (of Real.pi).bind .sqrt) (fun x _ => ?_)
    (fun v x => ?_) rfl rfl
  · have hpi := (Real.sqrt_pos.2 Real.pi_pos).ne'
    refine ⟨_, RealFunction.hasDerivAt_erf x, fun v => ?_⟩
    simp only [PartialReal.value?_eq_some_iff]
    refine ⟨by simp [Real.pi_pos.le, hpi], ?_⟩
    simp only [PartialReal.value_div, PartialReal.value_mul, PartialReal.value_neg,
      PartialReal.value_bind, PartialReal.value_of, PartialReal.value_sqrt, Nat.cast_ofNat, neg_mul]
    ring
  · rcases t.scalarName_eq with hname | hname | hname <;> rw [hname] <;> exact ⟨_, rfl, rfl⟩

theorem isGradient_erfc :
    (closed ["-2 * exp(-x * x) / " ++ scalar ++ ".sqrt(" ++ scalar ++ ".pi)"]).IsGradient
      t.scalarName (sameName (.literal "erfc")) (unary fun x => 1 - RealFunction.erf x) := by
  refine isGradient_unary (fun v x => -of v * of (2 : ℕ) *
      ((-of x * of x).bind fun x => of (Real.exp x)) / (of Real.pi).bind .sqrt) (fun x _ => ?_)
    (fun v x => ⟨_, rfl, ?_⟩) rfl rfl
  · have hpi := (Real.sqrt_pos.2 Real.pi_pos).ne'
    have hslope : HasDerivAt (fun x => 1 - RealFunction.erf x)
        (-(2 / √Real.pi * Real.exp (-(x * x)))) x :=
      (RealFunction.hasDerivAt_erf x).const_sub 1
    refine ⟨_, hslope, fun v => ?_⟩
    simp only [PartialReal.value?_eq_some_iff]
    refine ⟨by simp [Real.pi_pos.le, hpi], ?_⟩
    simp only [PartialReal.value_div, PartialReal.value_mul, PartialReal.value_neg,
      PartialReal.value_bind, PartialReal.value_of, PartialReal.value_sqrt, Nat.cast_ofNat, neg_mul]
    ring
  · have hminus : ∀ scalarName, substitute scalarName
        ("-2 * exp(-x * x) / " ++ scalar ++ ".sqrt(" ++ scalar ++ ".pi)").toList
        = '-' :: substitute scalarName
          ("2 * exp(-x * x) / " ++ scalar ++ ".sqrt(" ++ scalar ++ ".pi)").toList :=
      fun _ => rfl
    simp only [closed, List.mapM_cons, hminus]
    rcases t.scalarName_eq with hname | hname | hname <;> rw [hname, scaleChars_minus rfl] <;> rfl

theorem isGradient_exp2 :
    (closed ["value * " ++ scalar ++ ".log(2)"]).IsGradient t.scalarName
      (sameName (.literal "exp2")) (unary fun x => 2 ^ x) := by
  refine isGradient_unary (fun v x => of v * of (2 ^ x) * (of (2 : ℕ)).bind .log) (fun x _ => ?_)
    (fun v x => ?_) rfl rfl
  · exact ⟨_, RealFunction.hasDerivAt_const_rpow two_pos x, fun v => by simp [mul_assoc]⟩
  · rcases t.scalarName_eq with hname | hname | hname <;> rw [hname] <;> exact ⟨_, rfl, rfl⟩

theorem isGradient_exp10 :
    (closed ["value * " ++ scalar ++ ".log(10)"]).IsGradient t.scalarName
      (sameName (.literal "exp10")) (unary fun x => 10 ^ x) := by
  refine isGradient_unary (fun v x => of v * of (10 ^ x) * (of (10 : ℕ)).bind .log)
    (fun x _ => ?_) (fun v x => ?_) rfl rfl
  · have hten : (0 : ℝ) < 10 := by norm_num
    exact ⟨_, RealFunction.hasDerivAt_const_rpow hten x, fun v => by simp [mul_assoc]⟩
  · rcases t.scalarName_eq with hname | hname | hname <;> rw [hname] <;> exact ⟨_, rfl, rfl⟩

theorem isGradient_hypot :
    (closed ["x / c", "y / c"] [("c", "sqrt(x * x + y * y)")]).IsGradient t.scalarName
      (binary (.literal "hypot") (some (.literal "hypot")) Catalog.Standard.x Catalog.Standard.y)
      RealFunction.distance := by
  refine isGradient_of_reads
    (fun input v =>
      [of v * of (input "x") / of √(input "x" * input "x" + input "y" * input "y"),
        of v * of (input "y") / of √(input "x" * input "x" + input "y" * input "y")])
    (fun input hinput => ?_)
    (fun input _ v =>
      readsAs_of_binding rfl (PartialReal.value?_eq_some_iff.2 ⟨?_, rfl⟩) rfl) rfl
  · have haway : input "x" ≠ 0 ∨ input "y" ≠ 0 := by
      by_contra horigin
      rw [not_or, not_not, not_not] at horigin
      exact hinput.2 horigin
    have hpos := RealFunction.sum_of_squares_pos haway
    have hne := (Real.sqrt_pos.2 hpos).ne'
    refine ⟨[input "x" / √(input "x" * input "x" + input "y" * input "y"),
      input "y" / √(input "x" * input "x" + input "y" * input "y")], ?_, fun v => ?_⟩
    · exact .cons (RealFunction.hasDerivAt_distance_fst hpos)
        (.cons (RealFunction.hasDerivAt_distance_snd hpos) .nil)
    · exact .cons (by simp [hne, mul_div_assoc]) (.cons (by simp [hne, mul_div_assoc]) .nil)
  · simp [add_nonneg, mul_self_nonneg]

theorem isGradient_log2 :
    (closed ["1 / (" ++ scalar ++ ".log(2) * x)"]).IsGradient t.scalarName
      (sameName (.literal "log2")) (unary (Real.logb 2) (Set.Ioi 0)) := by
  refine isGradient_unary (fun v x => of v / ((of (2 : ℕ)).bind .log * of x)) (fun x hx => ?_)
    (fun v x => ?_) rfl rfl
  · have hne : x ≠ 0 := ne_of_gt hx
    have hlog : Real.log 2 ≠ 0 := (Real.log_pos one_lt_two).ne'
    exact ⟨_, RealFunction.hasDerivAt_logb 2 hx, fun v => by simp [hne, hlog, div_eq_mul_inv]⟩
  · rcases t.scalarName_eq with hname | hname | hname <;> rw [hname] <;> exact ⟨_, rfl, rfl⟩

theorem isGradient_log10 :
    (closed ["1 / (" ++ scalar ++ ".log(10) * x)"]).IsGradient t.scalarName
      (sameName (.literal "log10")) (unary (Real.logb 10) (Set.Ioi 0)) := by
  refine isGradient_unary (fun v x => of v / ((of (10 : ℕ)).bind .log * of x)) (fun x hx => ?_)
    (fun v x => ?_) rfl rfl
  · have hne : x ≠ 0 := ne_of_gt hx
    have hlog : Real.log 10 ≠ 0 := (Real.log_pos (by norm_num)).ne'
    exact ⟨_, RealFunction.hasDerivAt_logb 10 hx, fun v => by simp [hne, hlog, div_eq_mul_inv]⟩
  · rcases t.scalarName_eq with hname | hname | hname <;> rw [hname] <;> exact ⟨_, rfl, rfl⟩

/-! ## The tables -/

/-- A row is the one of an overload, and its closed form gives the gradient of the function that the
overload stands for. -/
def HasGradient (t : Target) (o : Overload) (row : String × Formula) : Prop :=
  o.key = row.1 ∧ (row.2.kind = .closedForm → ∃ F, RealFunction.standard.lookup row.1 = some F
    ∧ row.2.IsGradient t.scalarName o F)

theorem elementary_hasGradient :
    List.Forall₂ (HasGradient t) Catalog.Standard.elementary Standard.elementary := by
  refine .cons ⟨rfl, fun _ => ⟨_, rfl, isGradient_exp t⟩⟩ <|
    .cons ⟨rfl, fun _ => ⟨_, rfl, isGradient_expMinusOne t⟩⟩ <|
    .cons ⟨rfl, fun _ => ⟨_, rfl, isGradient_cosh t⟩⟩ <|
    .cons ⟨rfl, fun _ => ⟨_, rfl, isGradient_sinh t⟩⟩ <|
    .cons ⟨rfl, fun _ => ⟨_, rfl, isGradient_tanh t⟩⟩ <|
    .cons ⟨rfl, fun _ => ⟨_, rfl, isGradient_cos t⟩⟩ <|
    .cons ⟨rfl, fun _ => ⟨_, rfl, isGradient_sin t⟩⟩ <|
    .cons ⟨rfl, fun _ => ⟨_, rfl, isGradient_tan t⟩⟩ <|
    .cons ⟨rfl, fun _ => ⟨_, rfl, isGradient_log t⟩⟩ <|
    .cons ⟨rfl, fun _ => ⟨_, rfl, isGradient_log_onePlus t⟩⟩ <|
    .cons ⟨rfl, fun _ => ⟨_, rfl, isGradient_acosh t⟩⟩ <|
    .cons ⟨rfl, fun _ => ⟨_, rfl, isGradient_asinh t⟩⟩ <|
    .cons ⟨rfl, fun _ => ⟨_, rfl, isGradient_atanh t⟩⟩ <|
    .cons ⟨rfl, fun _ => ⟨_, rfl, isGradient_acos t⟩⟩ <|
    .cons ⟨rfl, fun _ => ⟨_, rfl, isGradient_asin t⟩⟩ <|
    .cons ⟨rfl, fun _ => ⟨_, rfl, isGradient_atan t⟩⟩ <|
    .cons ⟨rfl, fun _ => ⟨_, rfl, isGradient_integerPower t⟩⟩ <|
    .cons ⟨rfl, fun _ => ⟨_, rfl, isGradient_power t⟩⟩ <|
    .cons ⟨rfl, fun _ => ⟨_, rfl, isGradient_sqrt t⟩⟩ <|
    .cons ⟨rfl, fun _ => ⟨_, rfl, isGradient_root t⟩⟩ .nil

theorem real_hasGradient :
    List.Forall₂ (HasGradient t) Catalog.Standard.real Standard.real := by
  refine .cons ⟨rfl, fun _ => ⟨_, rfl, isGradient_atan2 t⟩⟩ <|
    .cons ⟨rfl, fun _ => ⟨_, rfl, isGradient_erf t⟩⟩ <|
    .cons ⟨rfl, fun _ => ⟨_, rfl, isGradient_erfc t⟩⟩ <|
    .cons ⟨rfl, fun _ => ⟨_, rfl, isGradient_exp2 t⟩⟩ <|
    .cons ⟨rfl, fun _ => ⟨_, rfl, isGradient_exp10 t⟩⟩ <|
    .cons ⟨rfl, fun _ => ⟨_, rfl, isGradient_hypot t⟩⟩ <|
    .cons ⟨rfl, nofun⟩ <|
    .cons ⟨rfl, fun _ => ⟨_, rfl, isGradient_log2 t⟩⟩ <|
    .cons ⟨rfl, fun _ => ⟨_, rfl, isGradient_log10 t⟩⟩ <|
    .cons ⟨rfl, nofun⟩ .nil

end Standard

end

theorem exists_mem_of_forall₂ {α β : Type} {R : α → β → Prop} {as : List α} {bs : List β}
    (h : List.Forall₂ R as bs) {b : β} (hmem : b ∈ bs) : ∃ a ∈ as, R a b := by
  induction h with
  | nil => cases hmem
  | cons hfirst _ ih =>
    rcases List.mem_cons.1 hmem with rfl | hmem
    · exact ⟨_, List.mem_cons_self, hfirst⟩
    · obtain ⟨a, ha, hrelated⟩ := ih hmem
      exact ⟨a, List.mem_cons_of_mem _ ha, hrelated⟩

section

variable [Template.Engine] [Template.LawfulEngine]

/-- Every closed form of the standard table belongs to an overload of the standard catalog, and
gives the gradient of the function that the overload stands for, except in the origin for the distance
and for the zeroth power of zero. -/
theorem Table.standard_isGradient (t : Target) {key : String} {f : Formula}
    (hrow : (key, f) ∈ Table.standard.rows) (hclosed : f.kind = .closedForm) :
    ∃ o F, Catalog.standard.find? key = some o ∧ RealFunction.standard.lookup key = some F
      ∧ f.IsGradient t.scalarName o F := by
  have hfloatingPoint : List.Forall₂ (Standard.HasGradient t) Catalog.Standard.floatingPoint
      Standard.floatingPoint :=
    .cons ⟨rfl, nofun⟩ .nil
  have hsections : List.Forall₂ (Standard.HasGradient t)
      (Catalog.Standard.elementary ++ (Catalog.Standard.real
        ++ (Catalog.Standard.floatingPoint ++ [])))
      (Standard.elementary ++ (Standard.real ++ (Standard.floatingPoint ++ []))) :=
    List.rel_append (Standard.elementary_hasGradient t) <|
      List.rel_append (Standard.real_hasGradient t) <|
        List.rel_append hfloatingPoint .nil
  have hmem : (key, f)
      ∈ Standard.elementary ++ (Standard.real ++ (Standard.floatingPoint ++ [])) := by
    simpa [Table.standard] using hrow
  obtain ⟨o, ho, hkey, hgradient⟩ := exists_mem_of_forall₂ hsections hmem
  obtain ⟨F, hF, hgradient⟩ := hgradient hclosed
  exact ⟨o, F, (Catalog.standard.find?_eq_some_iff key o).2 ⟨ho, hkey⟩, hF, hgradient⟩

end

/-- The angle of the point `(3, 4)`, with the cotangent seven. -/
theorem Table.standard_isGradient_atan2 :
    ∃ o gradient, Catalog.standard.find? "atan2(y:x:)" = some o
      ∧ RealFunction.angle.HasGradientAt o (fun name => if name = "x" then 3 else 4) gradient
      ∧ (Formula.closed ["x / c", "-y / c"] [("c", "x * x + y * y")]).cotangentValues? "Double"
          (realValue? "Double")
          (RealFunction.angle.scope o (fun name => if name = "x" then 3 else 4) 7)
        = some (gradient.map (7 * ·)) := by
  have hrow : ("atan2(y:x:)", Formula.closed ["x / c", "-y / c"] [("c", "x * x + y * y")])
      ∈ Table.standard.rows :=
    List.mem_append_left _ (List.mem_append_right _ List.mem_cons_self)
  obtain ⟨o, F, ho, hF, hgradient⟩ := Table.standard_isGradient (.scalar .double) hrow rfl
  obtain rfl : RealFunction.angle = F := Option.some.inj hF
  have hpoint : (fun name => if name = "x" then 3 else 4)
      ∈ RealFunction.angle.domain \ RealFunction.angle.exceptions := by
    simp [RealFunction.angle]
  obtain ⟨gradient, hderivatives, hproducts⟩ := hgradient _ hpoint 7
  exact ⟨o, gradient, ho, hderivatives, hproducts⟩

/-- In the exceptional points the closed forms do not give the gradient. The distance has none in the
origin. The zeroth power has the derivative zero at zero, but the cotangent has no value there. -/
theorem Table.standard_not_isGradient :
    (∃ o, Catalog.standard.find? "hypot(_:_:)" = some o ∧
      RealFunction.standard.lookup "hypot(_:_:)" = some .distance ∧
      (fun _ => 0) ∈ RealFunction.distance.domain ∧
      ¬ ∃ gradient, RealFunction.distance.HasGradientAt o (fun _ => 0) gradient) ∧
    ∃ o f, Catalog.standard.find? "pow(_:_:Int)" = some o ∧
      ("pow(_:_:Int)", f) ∈ Table.standard.rows ∧
      RealFunction.standard.lookup "pow(_:_:Int)" = some .integerPower ∧
      (fun _ => 0) ∈ RealFunction.integerPower.domain ∧
      RealFunction.integerPower.HasGradientAt o (fun _ => 0) [0] ∧
      f.cotangentValues? "Double" (realValue? "Double")
        (RealFunction.integerPower.scope o (fun _ => 0) 1) = none := by
  constructor
  · refine ⟨Catalog.Standard.binary (.literal "hypot") (some (.literal "hypot"))
      Catalog.Standard.x Catalog.Standard.y, rfl, rfl, trivial, ?_⟩
    rintro ⟨gradient, hgradient⟩
    cases hgradient with
    | cons hfirst _ => exact RealFunction.not_hasDerivAt_distance_zero _ hfirst
  · refine ⟨Catalog.Standard.binary (.literal "pow") (some (.literal "pow"))
      Catalog.Standard.x Catalog.Standard.n,
      closed [Standard.scalar ++ "(n) * pow(x, n - 1)"], rfl, ?_, rfl, ?_, ?_, ?_⟩
    · exact List.mem_append_left _ (List.mem_append_left _ (by simp [Standard.elementary]))
    · exact ⟨⟨0, by simp⟩, .inr le_rfl⟩
    · have hslope := RealFunction.hasDerivAt_integerPower (n := 0) (x := 0) ⟨0, by simp⟩ (.inr le_rfl)
      rw [zero_mul] at hslope
      exact .cons hslope .nil
    · let scope : List (String × ℝ) :=
        [("v", 1), ("value", RealFunction.integerPower.value fun _ => 0), ("x", 0), ("n", 0)]
      have hnumber : numberOfChars? (realReading "Double" scope) (scaleChars ['v']
          (substitute "Double".toList (Standard.scalar ++ "(n) * pow(x, n - 1)").toList)) =
            some (.of 1 * .of 0 * (PartialReal.of 0).bind fun x =>
              (PartialReal.of 0 - .of (1 : ℕ)).bind fun y => .pow x y) := rfl
      have hvalue : realValue? "Double" scope (scaleChars ['v']
          (substitute "Double".toList (Standard.scalar ++ "(n) * pow(x, n - 1)").toList)) = none := by
        rw [realValue?, valueOfChars?, hnumber, Option.bind_some, PartialReal.value?_eq_none_iff]
        simp
      rw [cotangentValues?_eq_substitutedValues? rfl, substitutedValues?]
      exact congrArg (·.bind fun value => some [value]) hvalue

end Formula

end Lanewise

end
