import Lanewise.Catalog.Basic

/-!
# The standard catalog

The elementary functions, the real functions and the floating-point functions, each with the name of
its accelerated form. Most are unary; the integer power, the root, the power, the angle of a point
and the length of a hypotenuse take a second argument.
-/

namespace Lanewise

namespace Catalog.Standard

/-- A varying argument that is passed by position. -/
def argument (name : Identifier) : Argument :=
  { name, label := some (.literal Argument.positionalLabel), fixedType := none }

/-- The argument of unary functions. -/
def x : Argument := argument (.literal "x")

/-- The second argument of binary functions. -/
def y : Argument := argument (.literal "y")

/-- The exponent of integer powers and roots. -/
def n : Argument := { argument (.literal "n") with fixedType := some (.literal "Int") }

/-- A function of one varying argument. -/
def unary (name : Identifier) (acceleratedName : Option Identifier) (x : Argument := x)
    (varying : x.fixedType = none := by rfl) : Overload where
  name
  acceleratedName
  arguments := [x]
  names_nodup := by simp
  head_varying := ⟨x, rfl, varying⟩

/-- A function of two arguments, the first of them varying. -/
def binary (name : Identifier) (acceleratedName : Option Identifier) (first second : Argument)
    (distinct : first.name ≠ second.name := by decide)
    (varying : first.fixedType = none := by rfl) : Overload where
  name
  acceleratedName
  arguments := [first, second]
  names_nodup := by simp [distinct]
  head_varying := ⟨first, rfl, varying⟩

/-- A unary function whose accelerated form has the same name. -/
def sameName (name : Identifier) : Overload :=
  unary name (some name)

/-- Exponentials, logarithms, trigonometric and hyperbolic functions, powers and roots. -/
def elementary : List Overload :=
  [sameName (.literal "exp"),
   unary (.literal "expMinusOne") (some (.literal "expm1")),
   sameName (.literal "cosh"),
   sameName (.literal "sinh"),
   sameName (.literal "tanh"),
   sameName (.literal "cos"),
   sameName (.literal "sin"),
   sameName (.literal "tan"),
   sameName (.literal "log"),
   unary (.literal "log") (some (.literal "log1p")) { x with label := some (.literal "onePlus") },
   sameName (.literal "acosh"),
   sameName (.literal "asinh"),
   sameName (.literal "atanh"),
   sameName (.literal "acos"),
   sameName (.literal "asin"),
   sameName (.literal "atan"),
   binary (.literal "pow") (some (.literal "pow")) x n,
   binary (.literal "pow") (some (.literal "pow")) x y,
   unary (.literal "sqrt") none,
   binary (.literal "root") none x n]

/-- Functions of real analysis that are not elementary, or are variants for accuracy. -/
def real : List Overload :=
  [binary (.literal "atan2") (some (.literal "atan2")) { y with label := none }
     { x with label := none },
   sameName (.literal "erf"),
   sameName (.literal "erfc"),
   sameName (.literal "exp2"),
   sameName (.literal "exp10"),
   binary (.literal "hypot") (some (.literal "hypot")) x y,
   unary (.literal "gamma") (some (.literal "tgamma")),
   sameName (.literal "log2"),
   sameName (.literal "log10"),
   unary (.literal "logGamma") (some (.literal "lgamma"))]

/-- Functions of floating-point numbers. -/
def floatingPoint : List Overload :=
  [unary (.literal "abs") (some (.literal "simd_abs"))]

/-- The sections, each with the protocol that declares its functions. -/
def sections : List Section :=
  [⟨"ElementaryFunctions", "ElementaryFunctions", elementary⟩,
   ⟨"RealFunctions", "RealFunctions", real⟩,
   ⟨"FloatingPointFunctions", "Real", floatingPoint⟩]

end Catalog.Standard

/-- The catalog that is used unless another is given. -/
def Catalog.standard : Catalog where
  sections := Standard.sections
  keys_nodup := by decide

end Lanewise
