import Lanewise.Failure

/-!
# Targets

A target is a type for which code is generated: the generic vector over any scalar, a scalar, or a
vector of a width. Only the widths that a matrix offers make a target, so `Target.ofRow` is told
them.
-/

namespace Lanewise

/-- The scalar types. -/
inductive Precision where
  | float
  | double
deriving DecidableEq, Repr

namespace Precision

/-- All precisions, in the order of the matrix. -/
def all : List Precision :=
  [float, double]

/-- The name of the scalar type. -/
def typeName : Precision → String
  | float => "Float"
  | double => "Double"

/-- The precision of a name. -/
def ofName? (name : String) : Option Precision :=
  all.find? (·.typeName = name)

/-- The precision that a value names. -/
def ofDatum (value : Datum) : Except Failure Precision :=
  match value with
  | .text name => (ofName? name).elim (.error (.notInVocabulary value .precision)) .ok
  | _ => .error (.notInVocabulary value .precision)

end Precision

/-- A type for which code is generated. -/
inductive Target where
  /-- The vector of any width over any scalar. -/
  | generic
  /-- A scalar. -/
  | scalar (precision : Precision)
  /-- A vector of so many scalars. -/
  | vector (precision : Precision) (width : Int)
deriving DecidableEq, Repr

namespace Target

/-- The type as the code of its own extension names it. -/
def typeName : Target → String
  | generic => "Self"
  | scalar precision => precision.typeName
  | vector precision width => "SIMD" ++ toString width ++ "<" ++ precision.typeName ++ ">"

/-- The type that the extension extends. -/
def objectType : Target → String
  | generic => "SIMD"
  | other => other.typeName

/-- The type of one lane. -/
def scalarName : Target → String
  | generic => "Scalar"
  | scalar precision => precision.typeName
  | vector precision _ => precision.typeName

/-- Whether the target is the generic vector. -/
def isGeneric : Target → Bool
  | generic => true
  | _ => false

/-- Whether the target is a vector of a width. -/
def isVector : Target → Bool
  | vector _ _ => true
  | _ => false

/-- The width at which acceleration ends. -/
def accelerationLimit : Int := 16

/-- Vectors below the limit are accelerated, and at the limit those of single precision. -/
def isAccelerable : Target → Bool
  | vector precision width =>
    width < accelerationLimit || (width = accelerationLimit && precision = .float)
  | _ => false

/-- The width that a value gives, among those offered. A width is declared to be an integer, and
only integers give one. A decimal or a truth value that is equal to an offered width is outside the
declared type: it is refused here, and nothing is said of the vector that it would make. -/
def offeredWidth (widths : List Int) (width : Datum) : Except Failure Int :=
  match width with
  | .int value => if value ∈ widths then .ok value else .error (.unsupportedWidth width widths)
  | _ => .error (.unsupportedWidth width widths)

/-- The precision that a value gives for a target. -/
def givenPrecision (precision : Datum) : Except Failure Precision :=
  match precision with
  | .text name => (Precision.ofName? name).elim (.error (.unsupportedPrecision precision)) .ok
  | _ => .error (.unsupportedPrecision precision)

/-- The target of a row with a precision and a width, where `null` stands for a missing one. The
width is checked before the precision. -/
def ofRow (widths : List Int) (precision width : Datum) : Except Failure Target :=
  match precision, width with
  | .null, .null => .ok .generic
  | .null, _ => .error .missingPrecision
  | _, .null => return .scalar (← givenPrecision precision)
  | _, _ => do
    let width ← offeredWidth widths width
    return .vector (← givenPrecision precision) width

end Target

end Lanewise
