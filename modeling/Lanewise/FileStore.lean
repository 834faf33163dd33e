import Lanewise.FileTree.Operation

/-!
# File stores

Generation needs four operations on files. A monad that has them is a file store: the files of the
machine are one, and so is a file tree that is passed along as state.
-/

namespace Lanewise

/-- The operations on files that generation needs. Each reports its error as a result, because an
error does not undo what was done before it. -/
class FileStore (m : Type → Type) where
  /-- Makes a directory and those above it. Directories that are there stay. -/
  makeDirectories : Path → m (Except FileError Unit)
  /-- Writes a file with a text, which replaces the file that was there. -/
  writeText : Path → String → m (Except FileError Unit)
  /-- Gives a file another path, where it replaces the file that was there. -/
  rename : Path → Path → m (Except FileError Unit)
  /-- Removes a file. -/
  remove : Path → m (Except FileError Unit)

namespace FileTree

/-- The outcome of an operation together with the tree after it. -/
def outcome (t : FileTree) : Except FileError FileTree → Except FileError Unit × FileTree
  | .ok after => (.ok (), after)
  | .error e => (.error e, t)

instance : FileStore (StateM FileTree) where
  makeDirectories p t := t.makeDirectories p
  writeText p text t := t.outcome (t.write p text.toUTF8)
  rename source destination t := t.outcome (t.rename source destination)
  remove p t := t.outcome (t.remove p)

end FileTree

end Lanewise
