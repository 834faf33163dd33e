import Lanewise.Failure

/-!
# The package

A listing of the package shows the operations that it exports. Asked for a name, the package also
knows its parts and the names that it has because every package has them.
-/

namespace Lanewise

namespace Package

/-- The exported operations, sorted by name. -/
def operations : List String :=
  ["declared_outputs", "generate"]

/-- The parts of the package. -/
def parts : List String :=
  ["catalog", "derivatives", "emitter", "errors", "generator", "scalar_types", "selector",
   "signatures", "templates"]

/-- The names that every package has. -/
def inherent : List String :=
  ["__all__", "__annotations__", "__builtins__", "__cached__", "__class__", "__delattr__",
   "__dict__", "__dir__", "__doc__", "__eq__", "__file__", "__format__", "__ge__", "__getattr__",
   "__getattribute__", "__getstate__", "__gt__", "__hash__", "__init__", "__init_subclass__",
   "__le__", "__loader__", "__lt__", "__name__", "__ne__", "__new__", "__package__", "__path__",
   "__reduce__", "__reduce_ex__", "__repr__", "__setattr__", "__sizeof__", "__spec__", "__str__",
   "__subclasshook__"]

/-- All names of the package. -/
def names : List String :=
  operations ++ parts ++ inherent

/-- Whether the package has a name, which has to be a text. -/
def check : Datum → Except Failure Unit
  | .text name => if name ∈ names then .ok () else .error (.notInPackage name)
  | other => .error (.notPackageName other.kindName)

end Package

end Lanewise
