import Lanewise.Failure

/-!
# Templates

The expressions of a formula are templates: text with names between double braces, in whose places a
context puts strings. They are filled by a template engine, and the program relies only on what an
engine makes of plain text and of names between braces.
-/

namespace Lanewise

namespace Template

/-- A piece of a template. -/
inductive Piece where
  | char (c : Char)
  | hole (name : String)
deriving DecidableEq

/-- A template engine. -/
class Engine where
  /-- What the engine makes of a source in a context. Nothing is said of sources that an engine does
  not accept. -/
  output (source : List Char) (context : String → Option String) : List Char

variable [Engine]

/-- A template filled in a context. -/
def fill (source : String) (context : String → Option String) : String :=
  String.ofList (Engine.output source.toList context)

/-- A template filled in a context that is given as a list. Two names are taken already, because
they are names of parameters on the way from the list to the template. -/
def render (source : String) (context : List (String × String)) : Except Failure String :=
  if (context.lookup "source").isSome then .error (.boundTwice "render_expression" "source")
  else if (context.lookup "self").isSome then .error (.boundTwice "Template.render" "self")
  else .ok (fill source fun name => context.lookup name)

end Template

end Lanewise
