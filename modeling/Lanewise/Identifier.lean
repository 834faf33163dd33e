import Lanewise.Failure

/-!
# Identifiers

Names of functions, arguments, labels and types are ASCII identifiers: a letter or an underscore,
then letters, digits and underscores. One line break at the very end is tolerated.
-/

namespace Lanewise

namespace Identifier

/-- The characters that an identifier may start with. -/
def isHead (c : Char) : Bool :=
  c.isAlpha || c == '_'

/-- The characters that may follow in an identifier. -/
def isTail (c : Char) : Bool :=
  c.isAlphanum || c == '_'

/-- Whether the characters after the first complete an identifier. -/
def completes : List Char → Bool
  | [] => true
  | c :: rest => (c == '\n' && rest.isEmpty) || (isTail c && completes rest)

/-- Whether a text is an identifier. -/
def accepts : List Char → Bool
  | [] => false
  | c :: rest => isHead c && completes rest

end Identifier

/-- A text that is an identifier. -/
structure Identifier where
  text : String
  valid : Identifier.accepts text.toList = true
deriving DecidableEq

namespace Identifier

theorem text_injective {a b : Identifier} (h : a.text = b.text) : a = b := by
  cases a; cases b; cases h; rfl

/-- The identifier that a value holds, where `role` says what it is for. -/
def ofDatum (role : NameRole) : Datum → Except Failure Identifier
  | .text text =>
    if valid : accepts text.toList = true then .ok ⟨text, valid⟩
    else .error (.invalidName role (.text text))
  | other => .error (.invalidName role other)

/-- The identifier that a value holds, or nothing for `null`. -/
def ofDatum? (role : NameRole) : Datum → Except Failure (Option Identifier)
  | .null => .ok none
  | other => (ofDatum role other).map some

/-- An identifier that is written out. -/
def literal (text : String) (valid : accepts text.toList = true := by decide) : Identifier :=
  ⟨text, valid⟩

end Identifier

end Lanewise
