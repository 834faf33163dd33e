import Lanewise.Overload.Basic

/-!
# Signatures and calls

How an overload is declared and called in source text. A parameter shows its label only when that is
not its own name; an argument is passed with its label unless it is positional. Inside a loop over
the lanes a varying argument is read at the lane, and in an accelerated call a fixed one is
broadcast.
-/

namespace Lanewise

namespace Argument

/-- The type of the argument in a declaration for the named type. -/
def typeIn (a : Argument) (typeName : String) : String :=
  a.fixedTypeName.getD typeName

/-- The parameter that declares the argument. -/
def parameter (a : Argument) (typeName : String) : String :=
  let typed := a.name.text ++ ": " ++ a.typeIn typeName
  match a.label with
  | none => typed
  | some label => label.text ++ " " ++ typed

/-- The value passed for the argument: a varying one is read at the current lane when `indexed`. -/
def value (a : Argument) (indexed : Bool) : String :=
  if indexed && a.isVarying then a.name.text ++ "[i]" else a.name.text

/-- The argument as a call passes it. -/
def callPiece (a : Argument) (indexed : Bool) : String :=
  if a.isPositional then a.value indexed else a.externalName ++ ": " ++ a.value indexed

/-- The argument as an accelerated call passes it. -/
def acceleratedPiece (a : Argument) : String :=
  if a.isFixed then ".init(repeating: .init(" ++ a.name.text ++ "))" else a.name.text

end Argument

namespace Overload

/-- The parameter list of a declaration for the named type. -/
def parameters (o : Overload) (typeName : String) : String :=
  Text.commaSeparated (o.arguments.map (·.parameter typeName))

/-- The argument list of a call. -/
def callArguments (o : Overload) (indexed : Bool) : String :=
  Text.commaSeparated (o.arguments.map (·.callPiece indexed))

/-- The argument list of an accelerated call. -/
def acceleratedArguments (o : Overload) : String :=
  Text.commaSeparated (o.arguments.map (·.acceleratedPiece))

/-- A call, with a qualifier in front of the name. -/
def call (o : Overload) (indexed : Bool) (qualifier : String) : String :=
  qualifier ++ o.name.text ++ "(" ++ o.callArguments indexed ++ ")"

/-- The declaration for the named type. -/
def declaration (o : Overload) (typeName : String) : String :=
  "public static func " ++ o.name.text ++ "(" ++ o.parameters typeName ++ ") -> " ++ typeName

/-- The type of what a pullback returns: one cotangent for each varying argument. -/
def cotangentType (o : Overload) (typeName : String) : String :=
  match o.varying with
  | [_] => typeName
  | several => Text.parenthesized (several.map fun _ => typeName)

/-- The name of the function that registers the derivative: the function's own with a capital. -/
def registrationName (o : Overload) : String :=
  "_vjp" ++ String.ofList (o.name.text.toList.modifyHead Char.toUpper)

end Overload

end Lanewise
