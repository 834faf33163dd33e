import Lanewise.Proofs.Formula.PartialReal

/-!
# The functions of the standard catalog over the reals

Each function of the standard catalog that has a formula stands for a function of real numbers. It
takes its arguments by their names, and comes with the interior of its domain. An integer argument is
a real number that is an integer. Two functions have an exceptional point there: the distance from the
origin has no derivative in the origin, and the zeroth power is given by a formula that asks for a
negative power of its base.
-/

noncomputable section

namespace Lanewise

/-- A function of real arguments that have names. -/
structure RealFunction where
  value : (String → ℝ) → ℝ
  /-- The arguments in the interior of the domain. -/
  domain : Set (String → ℝ)
  /-- Those of them where the derivatives or their formulas do not exist. -/
  exceptions : Set (String → ℝ) := ∅

namespace RealFunction

open PartialReal (IsInteger)

/-- A function of one argument `x`, on a domain. -/
def unary (f : ℝ → ℝ) (domain : Set ℝ := Set.univ) : RealFunction where
  value input := f (input "x")
  domain := {input | input "x" ∈ domain}

/-- The error function. -/
def erf (x : ℝ) : ℝ :=
  2 / √Real.pi * ∫ s in 0..x, Real.exp (-(s * s))

/-- The power of any number by an integer. Negative powers of zero do not exist; the zeroth power
of zero is one. -/
def integerPower : RealFunction where
  value input := input "x" ^ ⌊input "n"⌋
  domain := {input | IsInteger (input "n") ∧ (input "x" ≠ 0 ∨ 0 ≤ input "n")}
  exceptions := {input | input "x" = 0 ∧ input "n" = 0}

/-- The power of a positive number. -/
def power : RealFunction where
  value input := input "x" ^ input "y"
  domain := {input | 0 < input "x"}

/-- The root of a positive number, by an integer that is not zero. -/
def root : RealFunction where
  value input := input "x" ^ (1 / input "n")
  domain := {input | 0 < input "x" ∧ IsInteger (input "n") ∧ input "n" ≠ 0}

/-- The angle of the point `(x, y)`. It jumps on the negative half of the first axis, and the origin
has none. -/
def angle : RealFunction where
  value input := Complex.arg ⟨input "x", input "y"⟩
  domain := {input | 0 < input "x" ∨ input "y" ≠ 0}

/-- The distance of the point `(x, y)` from the origin, where it is not differentiable. -/
def distance : RealFunction where
  value input := √(input "x" ^ 2 + input "y" ^ 2)
  domain := Set.univ
  exceptions := {input | input "x" = 0 ∧ input "y" = 0}

/-- The functions of the standard catalog that have a closed form, by key. -/
def standard : List (String × RealFunction) :=
  [("exp(_:)", unary Real.exp),
   ("expMinusOne(_:)", unary fun x => Real.exp x - 1),
   ("cosh(_:)", unary Real.cosh),
   ("sinh(_:)", unary Real.sinh),
   ("tanh(_:)", unary Real.tanh),
   ("cos(_:)", unary Real.cos),
   ("sin(_:)", unary Real.sin),
   ("tan(_:)", unary Real.tan {x | Real.cos x ≠ 0}),
   ("log(_:)", unary Real.log (Set.Ioi 0)),
   ("log(onePlus:)", unary (fun x => Real.log (1 + x)) (Set.Ioi (-1))),
   ("acosh(_:)", unary Real.arcosh (Set.Ioi 1)),
   ("asinh(_:)", unary Real.arsinh),
   ("atanh(_:)", unary Real.artanh (Set.Ioo (-1) 1)),
   ("acos(_:)", unary Real.arccos (Set.Ioo (-1) 1)),
   ("asin(_:)", unary Real.arcsin (Set.Ioo (-1) 1)),
   ("atan(_:)", unary Real.arctan),
   ("pow(_:_:Int)", integerPower),
   ("pow(_:_:)", power),
   ("sqrt(_:)", unary Real.sqrt (Set.Ioi 0)),
   ("root(_:_:Int)", root),
   ("atan2(y:x:)", angle),
   ("erf(_:)", unary erf),
   ("erfc(_:)", unary fun x => 1 - erf x),
   ("exp2(_:)", unary fun x => 2 ^ x),
   ("exp10(_:)", unary fun x => 10 ^ x),
   ("hypot(_:_:)", distance),
   ("log2(_:)", unary (Real.logb 2) (Set.Ioi 0)),
   ("log10(_:)", unary (Real.logb 10) (Set.Ioi 0))]

/-! ## Derivatives -/

theorem hasDerivAt_tanh (x : ℝ) : HasDerivAt Real.tanh (1 - Real.tanh x * Real.tanh x) x := by
  have hquotient : Real.tanh = fun x => Real.sinh x / Real.cosh x :=
    funext Real.tanh_eq_sinh_div_cosh
  have hcosh := (Real.cosh_pos x).ne'
  rw [hquotient]
  refine ((Real.hasDerivAt_sinh x).div (Real.hasDerivAt_cosh x) hcosh).congr_deriv ?_
  field_simp

theorem hasDerivAt_artanh {x : ℝ} (hx : x ∈ Set.Ioo (-1 : ℝ) 1) :
    HasDerivAt Real.artanh (1 / (1 - x * x)) x := by
  have hbelow : 0 < 1 - x := by linarith [hx.2]
  have habove : 0 < 1 + x := by linarith [hx.1]
  have hlogs : (fun x => (Real.log (1 + x) - Real.log (1 - x)) / 2) =ᶠ[nhds x] Real.artanh := by
    filter_upwards [isOpen_Ioo.mem_nhds hx] with y hy
    have hbelow : 0 < 1 - y := by linarith [hy.2]
    have habove : 0 < 1 + y := by linarith [hy.1]
    rw [Real.artanh_eq_half_log (Set.Ioo_subset_Icc_self hy),
      Real.log_div habove.ne' hbelow.ne']
    ring
  have hright : HasDerivAt (fun x : ℝ => Real.log (1 + x)) (1 / (1 + x)) x :=
    ((hasDerivAt_id x).const_add 1).log habove.ne'
  have hleft : HasDerivAt (fun x : ℝ => Real.log (1 - x)) (-1 / (1 - x)) x :=
    ((hasDerivAt_id x).const_sub 1).log hbelow.ne'
  refine HasDerivAt.congr_of_eventuallyEq
    (((hright.sub hleft).div_const 2).congr_deriv ?_) hlogs.symm
  have hproduct : 1 - x * x = (1 - x) * (1 + x) := by ring
  rw [hproduct]
  field_simp
  ring

theorem hasDerivAt_erf (x : ℝ) : HasDerivAt erf (2 / √Real.pi * Real.exp (-(x * x))) x := by
  have hcontinuous : Continuous fun s : ℝ => Real.exp (-(s * s)) := by fun_prop
  exact (intervalIntegral.integral_hasDerivAt_right (hcontinuous.intervalIntegrable 0 x)
    (hcontinuous.stronglyMeasurableAtFilter _ _) hcontinuous.continuousAt).const_mul _

theorem hasDerivAt_logb (b : ℝ) {x : ℝ} (hx : 0 < x) :
    HasDerivAt (Real.logb b) (1 / (Real.log b * x)) x :=
  ((Real.hasDerivAt_log hx.ne').div_const (Real.log b)).congr_deriv (by field_simp)

theorem hasDerivAt_const_rpow {b : ℝ} (hb : 0 < b) (x : ℝ) :
    HasDerivAt (fun x => b ^ x) (b ^ x * Real.log b) x := by
  simpa [mul_comm] using (hasDerivAt_id x).const_rpow hb

theorem hasDerivAt_integerPower {n x : ℝ} (hn : IsInteger n) (hx : x ≠ 0 ∨ 0 ≤ n) :
    HasDerivAt (fun x => x ^ ⌊n⌋) (n * x ^ (n - 1)) x := by
  obtain ⟨m, rfl⟩ := hn
  have hexponent : (m : ℝ) - 1 = (m - 1 : ℤ) := by push_cast; rfl
  rw [Int.floor_intCast, hexponent, Real.rpow_intCast]
  exact hasDerivAt_zpow m x (by exact_mod_cast hx)

theorem hasDerivAt_power_fst {x : ℝ} (hx : 0 < x) (y : ℝ) :
    HasDerivAt (fun x => x ^ y) (y * x ^ (y - 1)) x :=
  Real.hasDerivAt_rpow_const (Or.inl hx.ne')

theorem hasDerivAt_root {n x : ℝ} (hn : n ≠ 0) (hx : 0 < x) :
    HasDerivAt (fun x => x ^ (1 / n)) (x ^ (1 / n) / (x * n)) x := by
  refine (Real.hasDerivAt_rpow_const (Or.inl hx.ne')).congr_deriv ?_
  rw [Real.rpow_sub_one hx.ne']
  field_simp

/-- The imaginary part of a derivative along a line of the plane. -/
theorem hasDerivAt_arg {path : ℝ → ℂ} {velocity : ℂ} {s : ℝ} (hpath : HasDerivAt path velocity s)
    (hslit : path s ∈ Complex.slitPlane) :
    HasDerivAt (fun s => (path s).arg) (velocity / path s).im s := by
  have himaginary := Complex.imCLM.hasFDerivAt.comp_hasDerivAt s (hpath.clog_real hslit)
  exact himaginary.congr_of_eventuallyEq (.of_forall fun s => (Complex.log_im (path s)).symm)

theorem hasDerivAt_angle_fst {x y : ℝ} (h : 0 < x ∨ y ≠ 0) :
    HasDerivAt (fun x => Complex.arg ⟨x, y⟩) (-y / (x * x + y * y)) x := by
  have hpath : HasDerivAt (fun x : ℝ => (⟨x, y⟩ : ℂ)) 1 x := by
    simpa [Complex.mk_eq_add_mul_I] using
      (hasDerivAt_id x).ofReal_comp.add_const ((y : ℂ) * Complex.I)
  refine (hasDerivAt_arg hpath h).congr_deriv ?_
  simp [Complex.normSq]

theorem hasDerivAt_angle_snd {x y : ℝ} (h : 0 < x ∨ y ≠ 0) :
    HasDerivAt (fun y => Complex.arg ⟨x, y⟩) (x / (x * x + y * y)) y := by
  have hpath : HasDerivAt (fun y : ℝ => (⟨x, y⟩ : ℂ)) Complex.I y := by
    simpa [Complex.mk_eq_add_mul_I] using
      ((hasDerivAt_id y).ofReal_comp.mul_const Complex.I).const_add (x : ℂ)
  refine (hasDerivAt_arg hpath h).congr_deriv ?_
  simp [Complex.div_im, Complex.normSq]

theorem hasDerivAt_distance_fst {x y : ℝ} (h : 0 < x * x + y * y) :
    HasDerivAt (fun x => √(x ^ 2 + y ^ 2)) (x / √(x * x + y * y)) x := by
  rw [← sq, ← sq] at h
  have hsquare : HasDerivAt (fun x => x ^ 2 + y ^ 2) (2 * x) x := by
    simpa using ((hasDerivAt_id x).pow 2).add_const (y ^ 2)
  refine (hsquare.sqrt h.ne').congr_deriv ?_
  simp only [← sq]
  field_simp

theorem hasDerivAt_distance_snd {x y : ℝ} (h : 0 < x * x + y * y) :
    HasDerivAt (fun y => √(x ^ 2 + y ^ 2)) (y / √(x * x + y * y)) y := by
  rw [add_comm] at h
  simpa only [add_comm (x ^ 2), add_comm (x * x)] using hasDerivAt_distance_fst h

/-- Away from the origin a sum of squares is positive. -/
theorem sum_of_squares_pos {x y : ℝ} (h : x ≠ 0 ∨ y ≠ 0) : 0 < x * x + y * y := by
  rcases h with hx | hy
  · exact add_pos_of_pos_of_nonneg (mul_self_pos.2 hx) (mul_self_nonneg y)
  · exact add_pos_of_nonneg_of_pos (mul_self_nonneg x) (mul_self_pos.2 hy)

/-- Between minus one and one the square is less than one. -/
theorem one_sub_square_pos {x : ℝ} (hx : x ∈ Set.Ioo (-1 : ℝ) 1) : 0 < 1 - x * x := by
  have hbelow : 0 < 1 + x := by linarith [hx.1]
  have habove : 0 < 1 - x := by linarith [hx.2]
  nlinarith [mul_pos hbelow habove]

/-- Where the base is zero the exponent is at least one, so there is a power one less. -/
theorem defined_pow_sub_one {input : String → ℝ}
    (h : input ∈ integerPower.domain \ integerPower.exceptions) :
    (PartialReal.pow (input "x") (input "n" - 1)).defined := by
  obtain ⟨⟨hinteger, hdomain⟩, hexception⟩ := h
  obtain ⟨m, hm⟩ := hinteger
  rcases lt_trichotomy (input "x") 0 with hneg | hzero | hpos
  · exact .inr (.inr ⟨hneg, m - 1, by rw [hm]; push_cast; rfl⟩)
  · have hn : 0 ≤ input "n" := hdomain.resolve_left fun hx => hx hzero
    have hne : input "n" ≠ 0 := fun hn => hexception ⟨hzero, hn⟩
    rw [hm] at hn hne
    have hone : 1 ≤ m := by
      have hn : 0 ≤ m := by exact_mod_cast hn
      have hne : m ≠ 0 := by exact_mod_cast hne
      omega
    have hle : 0 ≤ input "n" - 1 := by
      rw [hm, sub_nonneg]
      exact_mod_cast hone
    exact .inr (.inl ⟨hzero, hle⟩)
  · exact .inl hpos

/-- Along an axis the distance from the origin is the absolute value. -/
theorem not_hasDerivAt_distance_zero (derivative : ℝ) :
    ¬ HasDerivAt (fun x : ℝ => √(x ^ 2 + 0 ^ 2)) derivative 0 := by
  have habs : (fun x : ℝ => √(x ^ 2 + 0 ^ 2)) = fun x => |x| := by
    funext x
    rw [zero_pow two_ne_zero, add_zero, Real.sqrt_sq_eq_abs]
  rw [habs]
  exact fun h => not_differentiableAt_abs_zero h.differentiableAt

end RealFunction

end Lanewise

end
