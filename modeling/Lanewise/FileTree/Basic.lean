import Lanewise.Path

/-!
# File trees

The files and directories below a directory, as a value. A location is the list of names that leads
from the top to a node; the top itself is a directory. `find?` is the view of a tree through which
the operations are told.
-/

namespace Lanewise

namespace FileTree

/-- What stands at a location. -/
inductive Node where
  | file (content : ByteArray)
  | directory

/-- The names from the top to a node. -/
abbrev Location := List String

end FileTree

/-- Files and directories by location. -/
structure FileTree where
  entries : List (FileTree.Location × FileTree.Node)

namespace FileTree

/-- The tree without files and directories below the top. -/
def empty : FileTree :=
  ⟨[]⟩

/-- The node at a location. -/
def find? (t : FileTree) (location : Location) : Option Node :=
  if location = [] then some .directory
  else (t.entries.find? (·.1 = location)).map Prod.snd

/-- The tree without the node at a location. -/
def erase (t : FileTree) (location : Location) : FileTree :=
  ⟨t.entries.filter (·.1 ≠ location)⟩

/-- The tree with a node at a location, in place of the one that was there. -/
def insert (t : FileTree) (location : Location) (node : Node) : FileTree :=
  ⟨(location, node) :: (t.erase location).entries⟩

@[simp]
theorem find?_nil (t : FileTree) : t.find? [] = some .directory := rfl

theorem find?_erase (t : FileTree) {gone : Location} (below : gone ≠ []) (location : Location) :
    (t.erase gone).find? location = if location = gone then none else t.find? location := by
  by_cases top : location = []
  · subst top
    simp [below.symm]
  · simp only [find?, top, erase, if_false]
    induction t.entries with
    | nil => simp
    | cons entry rest ih => grind

theorem find?_insert (t : FileTree) {new : Location} (below : new ≠ []) (node : Node)
    (location : Location) :
    (t.insert new node).find? location =
      if location = new then some node else t.find? location := by
  have erased := find?_erase t below location
  by_cases top : location = []
  · subst top
    simp [below.symm]
  · simp only [find?, top, if_false, insert] at erased ⊢
    grind

end FileTree

end Lanewise
