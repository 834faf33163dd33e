/-!
# Lists in text

Items in a text are separated by a comma and a space, with or without marks around them all.
-/

namespace Lanewise.Text

/-- Items separated by commas. -/
def commaSeparated (items : List String) : String :=
  ", ".intercalate items

/-- Items between brackets. -/
def bracketed (items : List String) : String :=
  "[" ++ commaSeparated items ++ "]"

/-- Items between parentheses. -/
def parenthesized (items : List String) : String :=
  "(" ++ commaSeparated items ++ ")"

/-- Items between parentheses, where a single item keeps a comma after it. -/
def tuple : List String → String
  | [item] => "(" ++ item ++ ",)"
  | items => parenthesized items

end Lanewise.Text
