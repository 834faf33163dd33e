import Lanewise.FileError
import Lanewise.FileTree.Basic

/-!
# Operations on file trees

The operations on files that a POSIX system offers, on a tree without links and permissions. A path
is walked name by name: each name before the last has to be a directory, and two dots lead to the
directory above. An operation that fails leaves the tree as it is; only `makeDirectories` may leave
some of the directories that it made on the way.
-/

namespace Lanewise

namespace FileTree

open FileError

/-- The most bytes that a name may have. -/
def nameLimit : Nat := 255

/-- The most bytes that a path may have. -/
def pathLimit : Nat := 4095

/-- The name that leads to the directory above. -/
def above : String := ".."

/-- The directory that some names lead to. -/
def descend (t : FileTree) : Location → List String → Except Reason Location
  | here, [] => .ok here
  | here, name :: rest =>
    if name = above then t.descend here.dropLast rest
    else if nameLimit < name.utf8ByteSize then .error .nameTooLong
    else
      match t.find? (here ++ [name]) with
      | some .directory => t.descend (here ++ [name]) rest
      | some (.file _) => .error .notDirectory
      | none => .error .noSuchEntry

/-- What a path leads to: a directory that is named by dots or not at all, or a name in a directory,
which need not exist. -/
inductive Place where
  | unnamed (directory : Location)
  | entry (directory : Location) (name : String)
deriving DecidableEq

/-- The location of a place. -/
def Place.location : Place → Location
  | unnamed directory => directory
  | entry directory name => directory ++ [name]

/-- The place that a path leads to. -/
def place (t : FileTree) (p : Path) : Except Reason Place :=
  if pathLimit < p.toString.utf8ByteSize then .error .nameTooLong
  else
    match p.name? with
    | none => .ok (.unnamed [])
    | some name =>
      if name = above then (t.descend [] p.parts).map .unnamed
      else do
        let directory ← t.descend [] p.parent.parts
        if nameLimit < name.utf8ByteSize then throw .nameTooLong
        return .entry directory name

/-- The node that a path leads to. -/
def node (t : FileTree) (p : Path) : Except Reason Node := do
  let found ← t.place p
  (t.find? found.location).elim (throw .noSuchEntry) pure

/-- An error at a path. -/
def errorAt (p : Path) (reason : Reason) : FileError :=
  { reason, path := p.toString }

/-- The tree after a file was written, made if there was none and replaced if there was one. -/
def write (t : FileTree) (p : Path) (content : ByteArray) : Except FileError FileTree :=
  match t.place p with
  | .error reason => .error (errorAt p reason)
  | .ok (.unnamed _) => .error (errorAt p .isDirectory)
  | .ok found =>
    match t.find? found.location with
    | some .directory => .error (errorAt p .isDirectory)
    | _ => .ok (t.insert found.location (.file content))

/-- The tree without a file. -/
def remove (t : FileTree) (p : Path) : Except FileError FileTree :=
  match t.place p with
  | .error reason => .error (errorAt p reason)
  | .ok found =>
    match t.find? found.location with
    | some (.file _) => .ok (t.erase found.location)
    | some .directory => .error (errorAt p .isDirectory)
    | none => .error (errorAt p .noSuchEntry)

/-- Why a file cannot get the name of a place. -/
def renameObstacle? (t : FileTree) : Place → Option Reason
  | .unnamed _ => some .busy
  | found =>
    match t.find? found.location with
    | some .directory => some .isDirectory
    | _ => none

/-- The tree after a file got another path, where it replaces the file that was there. Directories
are not moved. -/
def rename (t : FileTree) (source destination : Path) : Except FileError FileTree :=
  let failed (reason : Reason) : FileError :=
    { reason, path := source.toString, destination := some destination.toString }
  match t.place source, t.place destination with
  | .error reason, _ => .error (failed reason)
  | _, .error reason => .error (failed reason)
  | .ok old, .ok new =>
    match t.find? old.location with
    | none => .error (failed .noSuchEntry)
    | some .directory => .error (failed .isDirectory)
    | some (.file content) =>
      match t.renameObstacle? new with
      | some reason => .error (failed reason)
      | none => .ok ((t.erase old.location).insert new.location (.file content))

/-- The tree with a directory that was not there. -/
def makeDirectory (t : FileTree) (p : Path) : Except FileError FileTree :=
  match t.place p with
  | .error reason => .error (errorAt p reason)
  | .ok found =>
    match found, t.find? found.location with
    | .entry _ _, none => .ok (t.insert found.location .directory)
    | _, _ => .error (errorAt p .alreadyExists)

/-- Whether a path leads to a directory. -/
def isDirectory (t : FileTree) (p : Path) : Bool :=
  match t.node p with
  | .ok .directory => true
  | _ => false

/-- Makes a directory whose parent is there. It may be there itself. -/
def makeLast (t : FileTree) (p : Path) : Except FileError Unit × FileTree :=
  match t.makeDirectory p with
  | .ok made => (.ok (), made)
  | .error e => (if t.isDirectory p then .ok () else .error e, t)

/-- Makes a directory and those above it that are missing. It may be there already. -/
def makeDirectories (t : FileTree) (p : Path) : Except FileError Unit × FileTree :=
  match t.makeDirectory p with
  | .ok made => (.ok (), made)
  | .error e =>
    if e.reason = .noSuchEntry ∧ p.parts ≠ [] then
      match t.makeDirectories p.parent with
      | (.error e, t) => (.error e, t)
      | (.ok (), t) => t.makeLast p
    else (if t.isDirectory p then .ok () else .error e, t)
termination_by p.parts.length
decreasing_by
  simp only [Path.parent, List.length_dropLast]
  have := List.length_pos_iff.2 (by assumption : _ ∧ p.parts ≠ []).2
  omega

end FileTree

end Lanewise
