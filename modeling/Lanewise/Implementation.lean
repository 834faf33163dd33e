import Lanewise.Catalog.Basic
import Lanewise.Overload.Signature
import Lanewise.Swift.Source
import Lanewise.Target

/-!
# Implementations

A vector function is implemented by a loop over the lanes that calls the scalar function. Where an
accelerated form exists and the target is narrow enough, a call of that form takes the place of the
loop for compilers that can import the module it is in. Scalars have their implementations already.
-/

namespace Lanewise

open Swift

namespace Overload

/-- How a function is computed on a target. -/
inductive Policy where
  | accelerated
  | elementWise
deriving DecidableEq, Repr

/-- The word for a policy. -/
def Policy.name : Policy → String
  | accelerated => "accelerated"
  | elementWise => "element_wise"

/-- The name of the accelerated form, where the function has one and the target allows it. -/
def accelerated? (o : Overload) (t : Target) : Option String :=
  if t.isAccelerable then o.acceleratedName.map (·.text) else none

/-- How the function is computed on the target. -/
def policy (o : Overload) (t : Target) : Policy :=
  if (o.accelerated? t).isSome then .accelerated else .elementWise

/-- The function as a loop over the lanes. -/
def elementWiseLines (o : Overload) (typeName : String) : List String :=
  "    @_transparent" ::
    block "    " (o.declaration typeName)
      (["        var v = Self()"]
        ++ block "        " "for i in v.indices" ["            v[i] = " ++ o.call true "."]
        ++ ["        return v"])

/-- The function as a call of its accelerated form. -/
def acceleratedLines (o : Overload) (acceleratedName typeName : String) : List String :=
  "    @_transparent" ::
    block "    " (o.declaration typeName)
      ["        simd." ++ acceleratedName ++ "(" ++ o.acceleratedArguments ++ ")"]

/-- The implementation of a function on a vector. -/
def implementation (o : Overload) (t : Target) : Source :=
  match o.accelerated? t with
  | some acceleratedName =>
    [.conditional "    " "simd" (o.acceleratedLines acceleratedName t.typeName)
      (o.elementWiseLines t.typeName)]
  | none => [.plain (o.elementWiseLines t.typeName)]

end Overload

namespace Implementation

/-- A target is refused when it is a scalar. -/
def checkTarget : Target → Except Failure Unit
  | .scalar precision => .error (.implementationOnScalar precision.typeName)
  | _ => .ok ()

/-- The text of the implementation of one function. -/
def functionText (t : Target) (o : Overload) : Except Failure String := do
  checkTarget t
  return (o.implementation t).body

/-- A remark for the section of the real functions. -/
def signGammaNote : List String :=
  ["",
   "    // signGamma is not generated: it would have to return a vector of",
   "    // FloatingPointSign, so SIMD types cannot conform to RealFunctions."]

/-- What the generic extension asks of the scalar. -/
def requirement (s : Section) : Target → String
  | .generic => " where Scalar: " ++ s.conformance
  | _ => ""

/-- The extension that implements the functions of a section. -/
def sectionSource (t : Target) (s : Section) : Source :=
  [.plain ["", "// MARK: " ++ s.title,
    "extension " ++ t.objectType ++ requirement s t ++ " \x7b"]]
    ++ Source.spaced (s.overloads.map (·.implementation t))
    ++ [.plain ((if s.conformance = "RealFunctions" then signGammaNote else []) ++ ["\x7d"])]

/-- The imports of a file. The module of the accelerated forms is imported only where it is used. -/
def imports (c : Catalog) (t : Target) : Source :=
  (if c.overloads.any (·.policy t = .accelerated) then
    [.conditional "" "simd" ["import simd"] []]
  else []) ++ [.plain ["import RealModule"]]

/-- The file of implementations for a vector. -/
def source (c : Catalog) (t : Target) : Source :=
  imports c t ++ c.sections.flatMap (sectionSource t)

/-- The text of the file of implementations. A scalar target is refused as soon as there is a
function to implement. -/
def fileText (c : Catalog) (t : Target) : Except Failure String := do
  unless c.overloads.isEmpty do checkTarget t
  return (source c t).text

end Implementation

end Lanewise
