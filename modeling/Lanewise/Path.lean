/-!
# Paths

A path is an anchor and the names below it. Writing a path down and reading it back loses repeated
slashes, slashes at the end and names that are a single dot; two dots stay, because what they mean
depends on the files. Exactly two slashes at the front are an anchor of their own.
-/

namespace Lanewise

/-- Where a path starts. -/
inductive Path.Anchor where
  /-- At the current directory. -/
  | relative
  /-- At the root. -/
  | root
  /-- At the root, written with two slashes. -/
  | doubleRoot
deriving DecidableEq, Repr

/-- A path without redundant parts. -/
structure Path where
  anchor : Path.Anchor
  parts : List String
deriving DecidableEq, Repr

namespace Path

/-- The stretches of a text between its slashes. There is always at least one. -/
def stretches : List Char → List (List Char)
  | [] => [[]]
  | '/' :: rest => [] :: stretches rest
  | c :: rest => (stretches rest).modifyHead (c :: ·)

/-- The anchor of a path that is given as text. -/
def anchorOf (chars : List Char) : Anchor :=
  match (chars.takeWhile (· = '/')).length with
  | 0 => .relative
  | 2 => .doubleRoot
  | _ => .root

/-- The path that a text denotes. -/
def ofString (text : String) : Path where
  anchor := anchorOf text.toList
  parts := ((stretches text.toList).map String.ofList).filter fun name => name ≠ "" ∧ name ≠ "."

/-- The text of an anchor. -/
def Anchor.text : Anchor → String
  | relative => ""
  | root => "/"
  | doubleRoot => "//"

/-- The text of a path. The path without anchor and names is a dot. -/
def toString (p : Path) : String :=
  if p.anchor = .relative ∧ p.parts = [] then "."
  else p.anchor.text ++ "/".intercalate p.parts

instance : ToString Path := ⟨toString⟩

/-- The path of a name below a path. -/
def child (p : Path) (name : String) : Path :=
  { p with parts := p.parts ++ [name] }

@[simp]
theorem child_inj (p : Path) {a b : String} : p.child a = p.child b ↔ a = b := by
  simp [child]

/-- The last name of a path. -/
def name? (p : Path) : Option String :=
  p.parts.getLast?

/-- The path that the last name is below. -/
def parent (p : Path) : Path :=
  { p with parts := p.parts.dropLast }

/-- Whether the text of the path holds a null character. -/
def hasNull (p : Path) : Bool :=
  p.toString.toList.contains '\x00'

/-- The path with another last name. -/
def withName (p : Path) (name : String) : Path :=
  p.parent.child name

end Path

end Lanewise
