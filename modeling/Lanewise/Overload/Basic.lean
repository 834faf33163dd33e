import Lanewise.Identifier

/-!
# Overloads

An overload is a function of the catalog: a name, the arguments with their labels and types, and the
name of its accelerated form if it has one. Overloads of one name are told apart by their labels and
by the types of their fixed arguments; the selector shows the labels, the key shows both.
-/

namespace Lanewise

/-- One argument of an overload. -/
structure Argument where
  name : Identifier
  /-- The label at call sites. Without one, the argument is labelled with its own name. -/
  label : Option Identifier
  /-- A type that is the same for every target. Without one, the argument has the target's type. -/
  fixedType : Option Identifier
deriving DecidableEq

namespace Argument

/-- The label of arguments that are passed by position. -/
def positionalLabel : String := "_"

/-- Whether the argument has a type of its own. It is broadcast, not indexed, and gets no cotangent.
-/
def isFixed (a : Argument) : Bool :=
  a.fixedType.isSome

/-- Whether the argument has the target's type. -/
def isVarying (a : Argument) : Bool :=
  !a.isFixed

/-- The name that callers see. -/
def externalName (a : Argument) : String :=
  (a.label.getD a.name).text

/-- Whether the argument is passed without a label. -/
def isPositional (a : Argument) : Bool :=
  a.label.any (·.text = positionalLabel)

/-- The name of the argument's own type, if it has one. -/
def fixedTypeName (a : Argument) : Option String :=
  a.fixedType.map (·.text)

/-- The argument of a row. The name is checked before the label, and the label before the type. -/
def ofRow (name label fixedType : Datum) : Except Failure Argument := do
  let name ← Identifier.ofDatum .argumentName name
  let label ← Identifier.ofDatum? .argumentLabel label
  let fixedType ← Identifier.ofDatum? .argumentType fixedType
  return { name, label, fixedType }

end Argument

/-- A function of the catalog. -/
structure Overload where
  name : Identifier
  /-- The name of the accelerated form. -/
  acceleratedName : Option Identifier
  arguments : List Argument
  names_nodup : (arguments.map (·.name)).Nodup
  /-- There is a first argument, and it has the target's type. -/
  head_varying : ∃ first ∈ arguments.head?, first.fixedType = none
deriving DecidableEq

namespace Overload

/-- The overload with the given parts. The first argument decides whether there are any, then come
the names, and the type of the first argument is last. -/
def ofParts (name : Identifier) (acceleratedName : Option Identifier) :
    List Argument → Except Failure Overload
  | [] => .error (.noArguments name.text)
  | first :: rest =>
    if names_nodup : ((first :: rest).map (·.name)).Nodup then
      if varying : first.fixedType = none then
        .ok ⟨name, acceleratedName, first :: rest, names_nodup, first, rfl, varying⟩
      else .error (.fixedFirstArgument name.text)
    else .error (.duplicateArguments name.text ((first :: rest).map (·.name.text)))

/-- The overload of a row, whose arguments are checked already. -/
def ofRow (name acceleratedName : Datum) (arguments : List Argument) : Except Failure Overload := do
  let name ← Identifier.ofDatum .functionName name
  let acceleratedName ← Identifier.ofDatum? .acceleratedName acceleratedName
  ofParts name acceleratedName arguments

/-- The names that callers see, in order. -/
def labels (o : Overload) : List String :=
  o.arguments.map (·.externalName)

/-- The types of the fixed arguments, in order, with nothing for a varying one. -/
def fixedTypes (o : Overload) : List (Option String) :=
  o.arguments.map (·.fixedTypeName)

/-- The arguments that have the target's type. -/
def varying (o : Overload) : List Argument :=
  o.arguments.filter (·.isVarying)

/-- The arguments that have a type of their own. -/
def fixed (o : Overload) : List Argument :=
  o.arguments.filter (·.isFixed)

/-- The number of varying arguments. -/
def arity (o : Overload) : Nat :=
  o.varying.length

/-- The name with all labels. -/
def selector (o : Overload) : String :=
  o.name.text ++ "(" ++ String.join (o.labels.map (· ++ ":")) ++ ")"

/-- The name with all labels, each followed by the type of its argument if that is fixed. -/
def key (o : Overload) : String :=
  o.name.text ++ "("
    ++ String.join (o.arguments.map fun a => a.externalName ++ ":" ++ a.fixedTypeName.getD "")
    ++ ")"

end Overload

end Lanewise
