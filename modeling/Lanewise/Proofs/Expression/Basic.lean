import Lanewise.Identifier
import Lanewise.Text.Blank
import Mathlib.Algebra.Field.Defs
import Mathlib.Algebra.Group.Basic

/-!
# Arithmetic expressions

The partial derivatives of a formula are texts of arithmetic expressions: numbers, names, members,
calls, parentheses, signs and the four operations. A sign binds more tightly than a product and a
product more tightly than a sum; operations of one rank associate to the left.

A text is cut into tokens, and the tokens are read from left to right. What has been read but not
completed waits on a stack: signs and left operands until a weaker operator, a comma or a closing
parenthesis completes them, and open parentheses until they are closed.

An expression has a value as soon as its numbers, names, members and calls have one, in a field or
wherever else there are signs and the four operations.
-/

namespace Lanewise

/-- A piece of the text of an expression. -/
inductive Token where
  /-- A number as it is written. -/
  | number (literal : List Char)
  | word (text : String)
  /-- An operator, a sign, a parenthesis, a point, a comma or a colon. -/
  | mark (c : Char)
deriving DecidableEq, Repr

namespace Token

/-- Whether a word is a number: digits, perhaps a point and more digits, perhaps an exponent. -/
def isNumber (word : List Char) : Bool :=
  let fraction := match word.dropWhile Char.isDigit with
    | '.' :: rest => rest.dropWhile Char.isDigit
    | rest => rest
  match fraction with
  | [] => true
  | 'e' :: exponent | 'E' :: exponent =>
    let digits := match exponent with
      | '+' :: rest | '-' :: rest => rest
      | rest => rest
    !digits.isEmpty && digits.all Char.isDigit
  | _ => false

/-- Whether a word is a number as far as it goes, so that it can go on with a point or a sign. -/
def startsNumber (word : List Char) : Bool :=
  word.head?.any Char.isDigit

/-- Whether a character goes on with a word. A point belongs to a number behind its first digits,
and a sign behind the letter that announces the exponent. -/
def continues (word : List Char) (c : Char) : Bool :=
  Identifier.isTail c
    || (c == '.' && !word.isEmpty && word.all Char.isDigit)
    || ((c == '+' || c == '-') && startsNumber word
        && word.getLast?.any fun last => last == 'e' || last == 'E')

/-- The tokens with a word in front of them, if there is one. -/
def withWord (word : List Char) (tokens : List Token) : Option (List Token) :=
  if word.isEmpty then some tokens
  else if startsNumber word then
    if isNumber word then some (.number word :: tokens) else none
  else some (.word (String.ofList word) :: tokens)

/-- The characters that are tokens by themselves. -/
def marks : List Char :=
  ['+', '-', '*', '/', '(', ')', '.', ',', ':']

/-- The tokens of a text, the start of whose first word has been read. -/
def ofCharsAfter (word : List Char) : List Char → Option (List Token)
  | [] => withWord word []
  | c :: rest =>
    if continues word c then ofCharsAfter (word ++ [c]) rest
    else do
      let tokens ← ofCharsAfter [] rest
      if c ∈ marks then withWord word (.mark c :: tokens)
      else if Text.isBlank c then withWord word tokens
      else none

end Token

/-- An operation on two operands. -/
inductive Operator where
  | add
  | sub
  | mul
  | div
deriving DecidableEq, Repr

/-- A sign in front of an operand. -/
inductive Sign where
  | plus
  | minus
deriving DecidableEq, Repr

/-- An arithmetic expression. -/
inductive Expression where
  /-- A number as it is written. -/
  | number (literal : List Char)
  | name (text : String)
  | member (base : Expression) (name : String)
  /-- A call, whose arguments may have labels. -/
  | call (function : Expression) (arguments : List (Option String × Expression))
  | parenthesized (inner : Expression)
  | signed (sign : Sign) (operand : Expression)
  | binary (operator : Operator) (left right : Expression)

namespace Operator

/-- The operator of a mark. -/
def ofMark? : Char → Option Operator
  | '+' => some add
  | '-' => some sub
  | '*' => some mul
  | '/' => some div
  | _ => none

/-- How tightly an operator binds. -/
def rank : Operator → Nat
  | add | sub => 1
  | mul | div => 2

end Operator

/-- The sign of a mark. -/
def Sign.ofMark? : Char → Option Sign
  | '+' => some plus
  | '-' => some minus
  | _ => none

namespace Expression

/-- What waits for an operand to be completed. -/
inductive Pending where
  | sign (sign : Sign)
  | operand (left : Expression) (operator : Operator)
  /-- An open parenthesis. -/
  | parenthesis
  /-- The open parenthesis of a call, with the arguments that are complete and the label of the
  next one. -/
  | argument (function : Expression) (complete : List (Option String × Expression))
      (label : Option String)

/-- Completes signs and operations at least of a rank, from the top of the stack. -/
def complete (rank : Nat) (e : Expression) : List Pending → Expression × List Pending
  | .sign sign :: stack => complete rank (.signed sign e) stack
  | .operand left operator :: stack =>
    if rank ≤ operator.rank then complete rank (.binary operator left e) stack
    else (e, .operand left operator :: stack)
  | stack => (e, stack)

mutual

/-- Reads on where an operand has to come. -/
def readOperand (stack : List Pending) : List Token → Option Expression
  | .number literal :: rest => readAfter (.number literal) stack rest
  | .word text :: rest =>
    match rest, stack with
    | .mark ':' :: rest, .argument function complete none :: stack =>
      readOperand (.argument function complete (some text) :: stack) rest
    | rest, stack => readAfter (.name text) stack rest
  | .mark '(' :: rest => readOperand (.parenthesis :: stack) rest
  | .mark ')' :: rest =>
    match stack with
    | .argument function [] none :: stack => readAfter (.call function []) stack rest
    | _ => none
  | .mark c :: rest =>
    match Sign.ofMark? c with
    | some sign => readOperand (.sign sign :: stack) rest
    | none => none
  | [] => none

/-- Reads on after an operand. -/
def readAfter (e : Expression) (stack : List Pending) : List Token → Option Expression
  | [] =>
    match complete 0 e stack with
    | (e, []) => some e
    | _ => none
  | .mark '.' :: .word field :: rest => readAfter (.member e field) stack rest
  | .mark '(' :: rest => readOperand (.argument e [] none :: stack) rest
  | .mark ')' :: rest =>
    match complete 0 e stack with
    | (e, .parenthesis :: stack) => readAfter (.parenthesized e) stack rest
    | (e, .argument function complete label :: stack) =>
      readAfter (.call function (complete ++ [(label, e)])) stack rest
    | _ => none
  | .mark ',' :: rest =>
    match complete 0 e stack with
    | (e, .argument function complete label :: stack) =>
      readOperand (.argument function (complete ++ [(label, e)]) none :: stack) rest
    | _ => none
  | .mark c :: rest =>
    match Operator.ofMark? c with
    | some operator =>
      let (left, stack) := complete operator.rank e stack
      readOperand (.operand left operator :: stack) rest
    | none => none
  | _ => none

end

/-- The expression of some characters. -/
def ofChars? (chars : List Char) : Option Expression :=
  (Token.ofCharsAfter [] chars).bind (readOperand [])

/-- The expression of a text. -/
def ofText? (text : String) : Option Expression :=
  ofChars? text.toList

@[simp]
theorem ofText?_ofList (chars : List Char) : ofText? (String.ofList chars) = ofChars? chars := by
  rw [ofText?, String.toList_ofList]

/-- A sign binds more tightly than a quotient. -/
example : ofText? "-y / c" = some (.binary .div (.signed .minus (.name "y")) (.name "c")) := rfl

/-! ## Values -/

/-- What numbers, names, members and calls stand for. -/
structure Interpretation (K : Type) where
  number : List Char → Option K
  name : String → Option K
  member : Expression → String → Option K
  call : Expression → List (Option String × K) → Option K

variable {K : Type} [Neg K] [Add K] [Sub K] [Mul K] [Div K]

mutual

/-- The value of an expression. -/
def eval (i : Interpretation K) : Expression → Option K
  | number literal => i.number literal
  | name text => i.name text
  | member base field => i.member base field
  | call function arguments => (evalArguments i arguments).bind (i.call function)
  | parenthesized inner => eval i inner
  | signed .plus operand => eval i operand
  | signed .minus operand => (eval i operand).map (- ·)
  | binary operator left right =>
    (eval i left).bind fun l => (eval i right).map fun r =>
      match operator with
      | .add => l + r
      | .sub => l - r
      | .mul => l * r
      | .div => l / r

/-- The values of arguments, with their labels. -/
def evalArguments (i : Interpretation K) :
    List (Option String × Expression) → Option (List (Option String × K))
  | [] => some []
  | (label, e) :: rest =>
    (eval i e).bind fun value => (evalArguments i rest).map ((label, value) :: ·)

end

end Expression

end Lanewise
