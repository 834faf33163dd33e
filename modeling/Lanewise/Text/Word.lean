import Lanewise.Text.Alphanumeric

/-!
# Whole words

A word occurs in a text as a whole when no word character stands directly before or after it.
-/

namespace Lanewise.Text

/-- Whether a nonempty word occurs as a whole in what follows `previous`. -/
def hasWordAfter (word : List Char) (previous : Option Char) : List Char → Bool
  | [] => false
  | c :: rest =>
    (!previous.any isWordChar && word.isPrefixOf (c :: rest)
        && !((c :: rest).drop word.length).head?.any isWordChar)
      || hasWordAfter word (some c) rest

/-- Whether a nonempty word occurs as a whole in a text. -/
def hasWord (word text : String) : Bool :=
  hasWordAfter word.toList none text.toList

end Lanewise.Text
