import Lanewise.Catalog.Standard
import Lanewise.Formula.Table

/-!
# The standard formulas

The derivatives of the functions of the standard catalog. The gamma function and its logarithm have
no formula yet; the absolute value is piecewise linear.
-/

namespace Lanewise

namespace Formula

namespace Standard

/-- The hole for the scalar type. -/
def scalar : String := "\x7b\x7b T \x7d\x7d"

/-- A function whose derivative is still missing. -/
def unimplemented : Formula :=
  { kind := .unimplemented }

/-- The derivatives of the elementary functions. -/
def elementary : List (String × Formula) :=
  [("exp(_:)", closed ["value"]),
   ("expMinusOne(_:)", closed ["exp(x)"]),
   ("cosh(_:)", closed ["sinh(x)"]),
   ("sinh(_:)", closed ["cosh(x)"]),
   ("tanh(_:)", closed ["1 - value * value"]),
   ("cos(_:)", closed ["-sin(x)"]),
   ("sin(_:)", closed ["cos(x)"]),
   ("tan(_:)", closed ["1 / (cosx * cosx)"] [("cosx", "cos(x)")]),
   ("log(_:)", closed ["1 / x"]),
   ("log(onePlus:)", closed ["1 / (1 + x)"]),
   ("acosh(_:)", closed ["1 / sqrt(x * x - 1)"]),
   ("asinh(_:)", closed ["1 / sqrt(x * x + 1)"]),
   ("atanh(_:)", closed ["1 / (1 - x * x)"]),
   ("acos(_:)", closed ["-1 / sqrt(1 - x * x)"]),
   ("asin(_:)", closed ["1 / sqrt(1 - x * x)"]),
   ("atan(_:)", closed ["1 / (x * x + 1)"]),
   ("pow(_:_:Int)", closed [scalar ++ "(n) * pow(x, n - 1)"]),
   ("pow(_:_:)", closed ["y * pow(x, y - 1)", "value * log(x)"]),
   ("sqrt(_:)", closed ["1 / (2 * value)"]),
   ("root(_:_:Int)", closed ["value / (x * " ++ scalar ++ "(n))"])]

/-- The derivatives of the real functions. -/
def real : List (String × Formula) :=
  [("atan2(y:x:)", closed ["x / c", "-y / c"] [("c", "x * x + y * y")]),
   ("erf(_:)", closed ["2 * exp(-x * x) / " ++ scalar ++ ".sqrt(" ++ scalar ++ ".pi)"]),
   ("erfc(_:)", closed ["-2 * exp(-x * x) / " ++ scalar ++ ".sqrt(" ++ scalar ++ ".pi)"]),
   ("exp2(_:)", closed ["value * " ++ scalar ++ ".log(2)"]),
   ("exp10(_:)", closed ["value * " ++ scalar ++ ".log(10)"]),
   ("hypot(_:_:)", closed ["x / c", "y / c"] [("c", "sqrt(x * x + y * y)")]),
   ("gamma(_:)", unimplemented),
   ("log2(_:)", closed ["1 / (" ++ scalar ++ ".log(2) * x)"]),
   ("log10(_:)", closed ["1 / (" ++ scalar ++ ".log(10) * x)"]),
   ("logGamma(_:)", unimplemented)]

/-- The derivatives of the floating-point functions. -/
def floatingPoint : List (String × Formula) :=
  [("abs(_:)", { kind := .signPiecewise })]

end Standard

/-- The table that is used unless another is given. -/
def Table.standard : Table where
  rows := Standard.elementary ++ Standard.real ++ Standard.floatingPoint
  keys_nodup := by decide

end Formula

end Lanewise
