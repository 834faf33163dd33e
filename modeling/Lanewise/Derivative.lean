import Lanewise.Formula.Cotangent
import Lanewise.Overload.Signature
import Lanewise.Swift.Source
import Lanewise.Tables

/-!
# Derivative registrations

A derivative is registered by a function that returns the value of the function it is for, together
with a pullback: a closure that takes a cotangent `v` of the result to the cotangents of the varying
arguments.
-/

namespace Lanewise

open Swift

variable [Template.Engine]

namespace Formula

/-- The body of a registration for a closed form. The forward call is bound to a name when an
expression mentions the value; bindings stand inside the pullback, before its result. -/
def closedFormBody (f : Formula) (o : Overload) (scalarName : String) : List String :=
  let forward := o.call false ""
  let opening := if f.usesValue then ["let value = " ++ forward] else []
  let value := if f.usesValue then "value" else forward
  let returning := if f.usesValue then "return (" else "("
  let result := f.pullback scalarName
  match f.boundExpressions scalarName with
  | [] =>
    opening ++ [returning ++ "value: " ++ value ++ ", pullback: \x7b v in " ++ result ++ " \x7d)"]
  | bindings =>
    opening ++ [returning, "    value: " ++ value ++ ",", "    pullback: \x7b v in"]
      ++ bindings.map (fun (name, expression) => "        let " ++ name ++ " = " ++ expression)
      ++ ["        return " ++ result, "    \x7d", ")"]

/-- The body of a registration for the absolute value. On a scalar, zero belongs to the positive
side. -/
def signPiecewiseBody (t : Target) : List String :=
  if t.isVector then
    ["(value: abs(x), pullback: \x7b v in v.replacing(with: -v, where: x .< .zero) \x7d)"]
  else
    ["x < 0 ? (value: -x, pullback: \x7b v in .zero - v \x7d) "
      ++ ": (value: x, pullback: \x7b v in v \x7d)"]

/-- The body of a registration. -/
def body (f : Formula) (o : Overload) (t : Target) : List String :=
  match f.kind with
  | .closedForm => f.closedFormBody o t.scalarName
  | .signPiecewise => signPiecewiseBody t
  | .unimplemented => ["fatalError(\"unimplemented\")"]

end Formula

namespace Derivative

/-- The body of the registration for an overload, by the formula that the table has for it. -/
def body (formulas : Formula.Table) (t : Target) (o : Overload) : Except Failure (List String) := do
  return (← formulas.find o).body o t

/-- The head of the function that registers a derivative. -/
def head (o : Overload) (typeName : String) : String :=
  "public static func " ++ o.registrationName ++ "(" ++ o.parameters typeName ++ ") -> (value: "
    ++ typeName ++ ", pullback: (" ++ typeName ++ ") -> " ++ o.cotangentType typeName ++ ")"

/-- The lines of a registration. -/
def lines (c : Catalog) (f : Formula) (o : Overload) (t : Target) : List String :=
  ("    @derivative(of: " ++ c.reference o ++ ")") ::
    block "    " (head o t.typeName) (indented "        " (f.body o t))

/-- A target is refused when it is generic. -/
def checkTarget : Target → Except Failure Unit
  | .generic => .error .derivativeOnGeneric
  | _ => .ok ()

/-- The lines of the registration for an overload, by the formula that the table has for it. -/
def registration (tables : Tables) (t : Target) (o : Overload) : Except Failure (List String) := do
  checkTarget t
  let f ← tables.formulas.find o
  return lines tables.catalog f o t

/-- The text of the registration for an overload. -/
def registrationText (tables : Tables) (t : Target) (o : Overload) : Except Failure String := do
  return "\n".intercalate (← registration tables t o)

/-- The extension that registers the derivatives of a section. -/
def sectionLines (tables : Tables) (t : Target) (s : Section) : Except Failure (List String) := do
  let registrations ← s.overloads.mapM (registration tables t)
  return ["", "// MARK: " ++ s.title ++ " derivatives", "extension " ++ t.typeName ++ " \x7b"]
    ++ Source.lines (Source.spaced (registrations.map fun lines => [.plain lines])) ++ ["\x7d"]

/-- The file of derivatives for a target. All of it is for compilers that can differentiate. -/
def source (tables : Tables) (t : Target) : Except Failure Source := do
  let sections ← tables.catalog.sections.mapM (sectionLines tables t)
  return [.conditional "" "_Differentiation"
    (["import _Differentiation", "import RealModule"] ++ sections.flatten) []]

/-- The text of the file of derivatives. -/
def fileText (tables : Tables) (t : Target) : Except Failure String := do
  return (← source tables t).text

end Derivative

end Lanewise
