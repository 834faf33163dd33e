import Lanewise.Template
import Lanewise.Text.Blank
import Lanewise.Text.Compatibility
import Lanewise.Text.Joining

/-!
# The standard template engine

The engine that the program runs with. It cuts a source at its holes, with any white space around
the names, and shows what is between the holes as it is. What is put into a hole is not looked at
again. A name that the context does not know leaves its hole empty. The engine takes every source:
double braces around anything but a name are text to it.

The truth values and the missing value are written by words, which no context can redefine. A few
other names have a meaning of their own when the context gives them none.

Names with the same compatibility form share a slot, though the context keeps them apart. Each fills
the slot when it first appears, and the holes are filled after that, so all of them get what the
last name to appear for the first time stands for.

In a source every kind of line break counts as a line feed, and one line break at the very end is
dropped.
-/

namespace Lanewise

namespace Template

/-- A text with line feeds for all kinds of line breaks. -/
def unifyBreaks : List Char → List Char
  | [] => []
  | '\r' :: '\n' :: rest => '\n' :: unifyBreaks rest
  | c :: rest => (if c = '\r' then '\n' else c) :: unifyBreaks rest

/-- A text without the line feed at its end, if there is one. -/
def dropFinalBreak (chars : List Char) : List Char :=
  if chars.getLast? = some '\n' then chars.dropLast else chars

/-- Whether a word can name a hole: it does not start with a digit. -/
def isHoleName : List Char → Bool
  | [] => false
  | c :: _ => !c.isDigit

/-- The name of a hole and the text after it, read from behind the opening braces. -/
def hole? (chars : List Char) : Option (String × List Char) :=
  let start := chars.dropWhile Text.isBlank
  let name := start.takeWhile Text.continuesName
  match (start.dropWhile Text.continuesName).dropWhile Text.isBlank with
  | '}' :: '}' :: rest => if isHoleName name then some (String.ofList name, rest) else none
  | _ => none

theorem length_lt_of_hole?_eq_some {chars rest : List Char} {name : String}
    (h : hole? chars = some (name, rest)) : rest.length < chars.length := by
  have hshorter : (((chars.dropWhile Text.isBlank).dropWhile Text.continuesName).dropWhile
      Text.isBlank).length ≤ chars.length :=
    Nat.le_trans (List.dropWhile_suffix _).length_le
      (Nat.le_trans (List.dropWhile_suffix _).length_le (List.dropWhile_suffix _).length_le)
  simp only [hole?] at h
  split at h
  · rename_i rest' hclosed
    split at h
    · cases h
      rw [hclosed] at hshorter
      simp only [List.length_cons] at hshorter
      omega
    · cases h
  · cases h

/-- The pieces of a text. Double braces that enclose no name are text. -/
def pieces : List Char → List Piece
  | [] => []
  | '{' :: '{' :: rest =>
    match hfound : hole? rest with
    | some (name, after) =>
      have := length_lt_of_hole?_eq_some hfound
      .hole name :: pieces after
    | none => .char '{' :: pieces ('{' :: rest)
  | c :: rest => .char c :: pieces rest
termination_by chars => chars.length
decreasing_by all_goals simp only [List.length_cons]; omega

/-- The words for the truth values and for the missing value, with their text. -/
def constants : List (String × String) :=
  [("true", "True"), ("True", "True"), ("false", "False"), ("False", "False"), ("none", "None"),
   ("None", "None")]

/-- The names that mean something in every context, with their text. -/
def standingNames : List (String × String) :=
  [("range", "<class 'range'>"), ("dict", "<class 'dict'>"),
   ("cycler", "<class 'jinja2.utils.Cycler'>"), ("joiner", "<class 'jinja2.utils.Joiner'>"),
   ("namespace", "<class 'jinja2.utils.Namespace'>"), ("self", "<TemplateReference None>")]

/-- The name of the template itself, whose slot is filled before all others. -/
def selfName : String := "self"

/-- What a hole shows when nothing was put into its slot. For the template's own name this happens
only when another name has emptied the slot, and the hole says so. -/
def vacant (name : String) : String :=
  if name = selfName then "missing" else ""

/-- What a name stands for in a context, taken by itself. -/
def meaning? (context : String → Option String) (name : String) : Option String :=
  context name <|> standingNames.lookup name

/-- The name in a hole. Constants are no names. -/
def Piece.name? : Piece → Option String
  | .char _ => none
  | .hole name => if (constants.lookup name).isSome then none else some name

/-- The names of a template in the order in which they fill their slots. -/
def names (template : List Piece) : List String :=
  let appearing := (template.filterMap Piece.name?).eraseDups
  if selfName ∈ appearing then selfName :: appearing.erase selfName else appearing

/-- Whether two names share a slot. -/
def sharesSlot (a b : String) : Bool :=
  Text.compatibilityForm a.toList = Text.compatibilityForm b.toList

/-- The last of some names that fills the slot of a name. -/
def filler (names : List String) (name : String) : String :=
  (names.reverse.find? (sharesSlot name)).getD name

/-- What a piece becomes in a context, in a template with the given names. -/
def Piece.fill (context : String → Option String) (names : List String) : Piece → List Char
  | .char c => [c]
  | .hole name =>
    let text :=
      match constants.lookup name with
      | some text => text
      | none => (meaning? context (filler names name)).getD (vacant name)
    text.toList

/-- The pieces of a source. -/
def piecesOf (source : List Char) : List Piece :=
  pieces (dropFinalBreak (unifyBreaks source))

/-- What the standard engine makes of a source. -/
def standardOutput (source : List Char) (context : String → Option String) : List Char :=
  (piecesOf source).flatMap (Piece.fill context (names (piecesOf source)))

instance : Engine where
  output := standardOutput

end Template

end Lanewise
