import Lanewise.Text.Printable

/-!
# Quoted text

Diagnostics show a text between quotation marks, with its unprintable characters escaped, so that a
reader sees where the text ends and what is in it. The mark is an apostrophe, unless the text has
apostrophes and no double quotes.
-/

namespace Lanewise.Text

/-- The mark that needs the fewest escapes around a text. -/
def quoteMark (chars : List Char) : Char :=
  if chars.contains '\x27' && !chars.contains '"' then '"' else '\x27'

/-- A number in lower-case hexadecimal, filled with zeros on the left up to a width. -/
def hexDigits (width number : Nat) : List Char :=
  (Nat.toDigits 16 number).leftpad width '0'

/-- A character as it stands inside quotation marks of the given kind. -/
def escaped (mark c : Char) : List Char :=
  if c = mark ∨ c = '\\' then ['\\', c]
  else if c = '\n' then ['\\', 'n']
  else if c = '\r' then ['\\', 'r']
  else if c = '\t' then ['\\', 't']
  else if isPrintable c then [c]
  else if c.toNat < 0x100 then '\\' :: 'x' :: hexDigits 2 c.toNat
  else if c.toNat < 0x10000 then '\\' :: 'u' :: hexDigits 4 c.toNat
  else '\\' :: 'U' :: hexDigits 8 c.toNat

/-- A text between quotation marks. -/
def quoted (text : String) : String :=
  let mark := quoteMark text.toList
  String.ofList (mark :: text.toList.flatMap (escaped mark) ++ [mark])

end Lanewise.Text
