import Lanewise.Failure
import Lanewise.Template
import Lanewise.Text.Word

/-!
# Derivative formulas

A formula describes the derivative of a function by one expression for each varying argument. The
expressions speak of the arguments, of the function's `value` and of local bindings; the hole `T` in
them stands for the scalar type.
-/

namespace Lanewise

namespace Formula

/-- How a derivative is given. -/
inductive Kind where
  /-- By expressions. -/
  | closedForm
  /-- By the sign of the argument. -/
  | signPiecewise
  /-- Not at all. -/
  | unimplemented
deriving DecidableEq, Repr

namespace Kind

/-- All kinds. -/
def all : List Kind :=
  [closedForm, signPiecewise, unimplemented]

/-- The word for a kind. -/
def name : Kind → String
  | closedForm => "closed_form"
  | signPiecewise => "sign_piecewise"
  | unimplemented => "unimplemented"

/-- The kind that a value names. -/
def ofDatum (value : Datum) : Except Failure Kind :=
  (all.find? fun kind => Datum.text kind.name = value).elim
    (.error (.notInVocabulary value .formulaKind)) .ok

end Kind

end Formula

/-- The derivative of a function. -/
structure Formula where
  kind : Formula.Kind
  /-- The partial derivatives by the varying arguments, in order. -/
  partials : List String := []
  /-- Local names with their expressions, in order. -/
  bindings : List (String × String) := []
deriving DecidableEq

namespace Formula

/-- A formula that is given by its partial derivatives. -/
def closed (partials : List String) (bindings : List (String × String) := []) : Formula :=
  { kind := .closedForm, partials, bindings }

/-- Whether an expression mentions the value of the function. -/
def usesValue (f : Formula) : Bool :=
  (f.partials ++ f.bindings.map Prod.snd).any (Text.hasWord "value")

variable [Template.Engine]

/-- An expression for a scalar type. -/
def instantiate (scalarName expression : String) : String :=
  Template.fill expression fun name => if name = "T" then some scalarName else none

/-- The bindings for a scalar type. -/
def boundExpressions (f : Formula) (scalarName : String) : List (String × String) :=
  f.bindings.map fun (name, expression) => (name, instantiate scalarName expression)

end Formula

end Lanewise
