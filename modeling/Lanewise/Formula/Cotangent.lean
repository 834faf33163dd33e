import Lanewise.Formula.Basic
import Lanewise.Text.Blank

/-!
# Cotangents

A pullback multiplies each partial derivative by the cotangent of the result. The product is written
without redundant factors: a sum is put in parentheses, a leading minus moves to the front, and a
partial that is a reciprocal becomes a quotient of the cotangent.
-/

namespace Lanewise

namespace Formula

/-- Characters that end an operand, so that a sign after them is an operator. -/
def endsOperand (c : Char) : Bool :=
  Text.isAlphanumeric c || c == '_' || c == ')' || c == '.'

/-- Whether a sum stands outside all parentheses, at the given depth and after the given character
that is not blank. -/
def hasSumAfter (depth : Int) (previous : Option Char) : List Char → Bool
  | [] => false
  | c :: rest =>
    if c = '(' then hasSumAfter (depth + 1) (some c) rest
    else if c = ')' then hasSumAfter (depth - 1) (some c) rest
    else if (c = '+' ∨ c = '-') ∧ depth = 0 ∧ previous.any endsOperand then true
    else hasSumAfter depth (if Text.isBlank c then previous else some c) rest

/-- Whether an expression is a sum or a difference outside all parentheses. -/
def isSum (expression : List Char) : Bool :=
  hasSumAfter 0 none expression

/-- The product of the cotangent and an expression. -/
def scaleChars (cotangent expression : List Char) : List Char :=
  if isSum expression then cotangent ++ " * (".toList ++ expression ++ [')']
  else
    match expression with
    | '-' :: rest => '-' :: scaleChars cotangent rest
    | '1' :: ' ' :: '/' :: ' ' :: rest => cotangent ++ " / ".toList ++ rest
    | expression => cotangent ++ " * ".toList ++ expression
termination_by structural expression

/-- Whether an expression is written as a sum or a difference outside all parentheses. -/
def hasTopLevelSum (expression : String) : Bool :=
  isSum expression.toList

/-- The product of the cotangent and an expression, as text. -/
def scale (cotangent expression : String) : String :=
  String.ofList (scaleChars cotangent.toList expression.toList)

/-- The name of the cotangent in a pullback. -/
def cotangentName : String := "v"

variable [Template.Engine]

/-- The cotangents of the varying arguments for a scalar type, in order. -/
def cotangents (f : Formula) (scalarName : String) : List String :=
  f.partials.map fun expression => scale cotangentName (instantiate scalarName expression)

/-- What the pullback returns: the only cotangent, or all in parentheses. -/
def pullback (f : Formula) (scalarName : String) : String :=
  match f.cotangents scalarName with
  | [only] => only
  | several => Text.parenthesized several

end Formula

end Lanewise
