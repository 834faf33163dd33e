/-!
# Source text with conditional compilation

A source is a sequence of chunks. A chunk is either a run of lines or a conditional block, which has
one run of lines for compilers that can import a module and possibly another for those that cannot.
Blocks do not nest. The lines of a source show both branches between directives; `resolve` keeps
what a compiler sees.
-/

namespace Lanewise

namespace Swift

/-- A stretch of a source. -/
inductive Chunk where
  /-- Lines that every compiler sees. -/
  | plain (lines : List String)
  /-- Lines that depend on whether a module can be imported. The margin stands before each
  directive. -/
  | conditional (margin module : String) (present absent : List String)
deriving DecidableEq, Repr

namespace Chunk

/-- The lines of a chunk. The directive between the branches is left out when the second is empty.
-/
def lines : Chunk → List String
  | plain lines => lines
  | conditional margin module present absent =>
    [margin ++ "#if canImport(" ++ module ++ ")"] ++ present
      ++ (if absent.isEmpty then [] else (margin ++ "#else") :: absent)
      ++ [margin ++ "#endif"]

/-- The lines that remain for a compiler that can import the given modules. -/
def resolve (canImport : String → Bool) : Chunk → List String
  | plain lines => lines
  | conditional _ module present absent => if canImport module then present else absent

end Chunk

/-- A sequence of chunks. -/
abbrev Source := List Chunk

namespace Source

/-- The lines of a source. -/
def lines (s : Source) : List String :=
  s.flatMap Chunk.lines

/-- The lines that remain for a compiler that can import the given modules. -/
def resolve (canImport : String → Bool) (s : Source) : List String :=
  s.flatMap (Chunk.resolve canImport)

@[simp]
theorem lines_nil : lines [] = [] := rfl

@[simp]
theorem lines_cons (c : Chunk) (s : Source) : lines (c :: s) = c.lines ++ lines s := rfl

@[simp]
theorem lines_append (s t : Source) : lines (s ++ t) = lines s ++ lines t := by
  simp [lines]

@[simp]
theorem resolve_nil (canImport : String → Bool) : resolve canImport [] = [] := rfl

@[simp]
theorem resolve_cons (canImport : String → Bool) (c : Chunk) (s : Source) :
    resolve canImport (c :: s) = c.resolve canImport ++ resolve canImport s := rfl

@[simp]
theorem resolve_append (canImport : String → Bool) (s t : Source) :
    resolve canImport (s ++ t) = resolve canImport s ++ resolve canImport t := by
  simp [resolve]

/-- Sources one after another with an empty line between them. Without any there is one empty line.
-/
def spaced : List Source → Source
  | [] => [.plain [""]]
  | [only] => only
  | first :: rest => first ++ .plain [""] :: spaced rest

/-- The text of a source, without a line break at the end. -/
def body (s : Source) : String :=
  "\n".intercalate s.lines

/-- The text of a source as a file. -/
def text (s : Source) : String :=
  s.body ++ "\n"

end Source

/-- Lines with a margin before each of them. -/
def indented (margin : String) (lines : List String) : List String :=
  lines.map (margin ++ ·)

/-- A declaration or statement with a body between braces, of which the braces stand at the margin.
-/
def block (margin head : String) (body : List String) : List String :=
  [margin ++ head ++ " \x7b"] ++ body ++ [margin ++ "\x7d"]

end Swift

end Lanewise
