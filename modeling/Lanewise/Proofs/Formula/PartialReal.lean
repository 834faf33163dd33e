import Lanewise.Proofs.Expression.Basic
import Mathlib

/-!
# Real numbers that may fail to exist

Not every expression has a value: there is no quotient by zero, no logarithm of zero, no square root
of a negative number and no negative power of zero. A partial real number is a real number together
with the condition under which it exists, and an operation on such numbers asks for all that it needs.
-/

noncomputable section

namespace Lanewise

/-- A real number that exists under a condition. Otherwise its value says nothing. -/
structure PartialReal where
  defined : Prop
  value : ℝ

namespace PartialReal

/-- A number that exists. -/
def of (r : ℝ) : PartialReal := ⟨True, r⟩

/-- What a function makes of a number. -/
def bind (a : PartialReal) (f : ℝ → PartialReal) : PartialReal :=
  ⟨a.defined ∧ (f a.value).defined, (f a.value).value⟩

instance : Neg PartialReal := ⟨fun a => ⟨a.defined, -a.value⟩⟩

instance : Add PartialReal := ⟨fun a b => ⟨a.defined ∧ b.defined, a.value + b.value⟩⟩

instance : Sub PartialReal := ⟨fun a b => ⟨a.defined ∧ b.defined, a.value - b.value⟩⟩

instance : Mul PartialReal := ⟨fun a b => ⟨a.defined ∧ b.defined, a.value * b.value⟩⟩

/-- A quotient exists unless the divisor is zero. -/
instance : Div PartialReal :=
  ⟨fun a b => ⟨a.defined ∧ b.defined ∧ b.value ≠ 0, a.value / b.value⟩⟩

/-- The natural logarithm of a positive number. -/
def log (x : ℝ) : PartialReal := ⟨0 < x, Real.log x⟩

/-- The square root of a number that is not negative. -/
def sqrt (x : ℝ) : PartialReal := ⟨0 ≤ x, √x⟩

/-- Whether a real number is an integer. -/
def IsInteger (r : ℝ) : Prop :=
  ∃ n : ℤ, r = n

/-- A power. Zero has no negative powers, and negative numbers have integer powers only; the zeroth
power of zero is one. -/
def pow (x y : ℝ) : PartialReal :=
  ⟨0 < x ∨ (x = 0 ∧ 0 ≤ y) ∨ (x < 0 ∧ IsInteger y), x ^ y⟩

section

variable (a b : PartialReal) (f : ℝ → PartialReal) (r : ℝ)

@[simp] theorem defined_of : (of r).defined := trivial
@[simp] theorem value_of : (of r).value = r := rfl

@[simp] theorem defined_bind :
    (a.bind f).defined ↔ a.defined ∧ (f a.value).defined := Iff.rfl
@[simp] theorem value_bind : (a.bind f).value = (f a.value).value := rfl

@[simp] theorem defined_neg : (-a).defined ↔ a.defined := Iff.rfl
@[simp] theorem value_neg : (-a).value = -a.value := rfl

@[simp] theorem defined_add : (a + b).defined ↔ a.defined ∧ b.defined := Iff.rfl
@[simp] theorem value_add : (a + b).value = a.value + b.value := rfl

@[simp] theorem defined_sub : (a - b).defined ↔ a.defined ∧ b.defined := Iff.rfl
@[simp] theorem value_sub : (a - b).value = a.value - b.value := rfl

@[simp] theorem defined_mul : (a * b).defined ↔ a.defined ∧ b.defined := Iff.rfl
@[simp] theorem value_mul : (a * b).value = a.value * b.value := rfl

@[simp] theorem defined_div :
    (a / b).defined ↔ a.defined ∧ b.defined ∧ b.value ≠ 0 := Iff.rfl
@[simp] theorem value_div : (a / b).value = a.value / b.value := rfl

@[simp] theorem defined_log (x : ℝ) : (log x).defined ↔ 0 < x := Iff.rfl
@[simp] theorem value_log (x : ℝ) : (log x).value = Real.log x := rfl

@[simp] theorem defined_sqrt (x : ℝ) : (sqrt x).defined ↔ 0 ≤ x := Iff.rfl
@[simp] theorem value_sqrt (x : ℝ) : (sqrt x).value = √x := rfl

@[simp] theorem defined_pow (x y : ℝ) :
    (pow x y).defined ↔ 0 < x ∨ (x = 0 ∧ 0 ≤ y) ∨ (x < 0 ∧ IsInteger y) := Iff.rfl
@[simp] theorem value_pow (x y : ℝ) : (pow x y).value = x ^ y := rfl

end

open Classical in
/-- The number, if it exists. -/
def value? (a : PartialReal) : Option ℝ :=
  if a.defined then some a.value else none

@[simp]
theorem value?_eq_some_iff {a : PartialReal} {r : ℝ} :
    a.value? = some r ↔ a.defined ∧ a.value = r := by
  unfold value?
  split
  · rename_i hdefined
    simp [hdefined]
  · rename_i hundefined
    simp [hundefined]

theorem value?_eq_none_iff {a : PartialReal} : a.value? = none ↔ ¬ a.defined := by
  unfold value?
  split
  · rename_i hdefined
    simp [hdefined]
  · rename_i hundefined
    simp [hundefined]

end PartialReal

/-! ## Reading over the reals -/

namespace Formula

/-- The functions of one argument that expressions can call. -/
def realCalls : List (String × (ℝ → PartialReal)) :=
  [("exp", fun x => .of (Real.exp x)), ("log", .log), ("sqrt", .sqrt),
   ("sin", fun x => .of (Real.sin x)), ("cos", fun x => .of (Real.cos x)),
   ("sinh", fun x => .of (Real.sinh x)), ("cosh", fun x => .of (Real.cosh x))]

/-- Expressions over the reals, for the names in scope. The scalar type converts integers to reals,
has the constant `pi`, and has the functions that can also be called by their bare names. -/
def realReading (scalarName : String) (scope : List (String × ℝ)) :
    Expression.Interpretation PartialReal where
  number literal :=
    if literal.all Char.isDigit then some (.of (Nat.ofDigitChars 10 literal 0 : ℕ)) else none
  name text := (scope.lookup text).map .of
  member
    | .name base, field =>
      if base = scalarName ∧ field = "pi" then some (.of Real.pi) else none
    | _, _ => none
  call
    | .name function, [(none, a)] =>
      match realCalls.lookup function with
      | some f => some (a.bind f)
      | none => if function = scalarName then some a else none
    | .member (.name base) function, [(none, a)] =>
      if base = scalarName then (realCalls.lookup function).map a.bind else none
    | .name "pow", [(none, a), (none, b)] => some (a.bind fun x => b.bind fun y => .pow x y)
    | _, _ => none

/-- The number that an expression stands for, given by its characters. -/
def numberOfChars? (i : Expression.Interpretation PartialReal) (chars : List Char) :
    Option PartialReal :=
  (Expression.ofChars? chars).bind (Expression.eval i)

/-- The value of an expression that is given by its characters, if it has one. -/
def valueOfChars? (i : Expression.Interpretation PartialReal) (chars : List Char) : Option ℝ :=
  (numberOfChars? i chars).bind PartialReal.value?

/-- The value of a text. -/
def valueOfText? (i : Expression.Interpretation PartialReal) (text : String) : Option ℝ :=
  valueOfChars? i text.toList

end Formula

end Lanewise

end
