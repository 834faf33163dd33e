import Lanewise.Failure
import Lanewise.FileTree.Operation

/-!
# Paths as they are spelled

The system reads more into the text of a path than its names. The empty text leads nowhere, a slash
or a dot at the end asks for a directory, and an error shows the text as it was given. The
operations here take such a text; a null character in it is refused before anything is done.
-/

namespace Lanewise

namespace FileTree

open FileError

/-- Whether the last name of a text is a dot, apart from slashes behind it. -/
def endsInDot (text : String) : Bool :=
  ((Path.stretches text.toList).filter (· ≠ [])).getLast? = some ['.']

/-- Whether a text can only lead to a directory. -/
def asksDirectory (text : String) : Bool :=
  text.toList.getLast? = some '/' || endsInDot text

/-- The path along which a text leads. -/
def spelled (text : String) : Except Reason Path :=
  if text.isEmpty then .error .noSuchEntry
  else if pathLimit < text.utf8ByteSize then .error .nameTooLong
  else .ok (.ofString text)

/-- The node to which a text leads. -/
def nodeAt (t : FileTree) (text : String) : Except Reason Node := do
  match ← t.node (← spelled text) with
  | .directory => return .directory
  | .file content => if asksDirectory text then throw .notDirectory else return .file content

/-- Whether a text leads to a node. -/
def existsAt (t : FileTree) (text : String) : Bool :=
  (t.nodeAt text).isOk

/-- A failure at a text. -/
def failureAt (text : String) (reason : Reason) : Failure :=
  .fileError { reason, path := text }

/-- What an operation at a text comes to, unless there is a null character in the text. -/
def unlessNull {α : Type} (text : String) (result : Except Reason α) : Except Failure α :=
  if text.toList.contains '\x00' then .error .nullInPath
  else result.mapError (failureAt text)

/-- The bytes of a file. -/
def readAt (t : FileTree) (text : String) : Except Failure ByteArray :=
  unlessNull text do
    match ← t.nodeAt text with
    | .file content => return content
    | .directory => throw .isDirectory

/-- The tree after a file was written, made if there was none and replaced if there was one. -/
def writeAt (t : FileTree) (text : String) (content : ByteArray) : Except Failure FileTree :=
  unlessNull text do
    let p ← spelled text
    if endsInDot text then
      let _ ← t.nodeAt text
      throw .isDirectory
    else if asksDirectory text then
      let _ ← t.descend [] p.parent.parts
      throw .isDirectory
    else (t.write p content).mapError FileError.reason

/-- The tree with a directory that was not there. -/
def makeDirectoryAt (t : FileTree) (text : String) : Except Failure FileTree :=
  unlessNull text do
    let p ← spelled text
    if endsInDot text then
      let _ ← t.nodeAt text
      throw .alreadyExists
    else (t.makeDirectory p).mapError FileError.reason

/-- The part of a text before its last slash, without the slashes at its end, and the part behind.
Where there is nothing but slashes in front, they stay. -/
def splitAtSlash (chars : List Char) : List Char × List Char :=
  let front := chars.reverse.dropWhile (· ≠ '/')
  let last := (chars.reverse.takeWhile (· ≠ '/')).reverse
  (if front.all (· = '/') then front else (front.dropWhile (· = '/')).reverse, last)

/-- The text of the directory above and the last name, for a text that may end in slashes. -/
def aboveAndName (chars : List Char) : List Char × List Char :=
  match splitAtSlash chars with
  | (above, []) => splitAtSlash above
  | parts => parts

theorem length_splitAtSlash (chars : List Char) :
    (splitAtSlash chars).1.length + (splitAtSlash chars).2.length ≤ chars.length := by
  have whole := congrArg List.length
    (List.takeWhile_append_dropWhile (p := (· ≠ '/')) (l := chars.reverse))
  have shorter :=
    (List.dropWhile_suffix (· = '/') (l := chars.reverse.dropWhile (· ≠ '/'))).length_le
  simp only [List.length_append, List.length_reverse] at whole
  simp only [splitAtSlash, List.length_reverse]
  split
  · omega
  · rw [List.length_reverse]
    omega

theorem length_aboveAndName {chars : List Char} (named : (aboveAndName chars).2 ≠ []) :
    (aboveAndName chars).1.length < chars.length := by
  have once := length_splitAtSlash chars
  have twice := length_splitAtSlash (splitAtSlash chars).1
  have positive := List.length_pos_iff.2 named
  unfold aboveAndName at positive ⊢
  split at positive <;> simp_all <;> omega

/-- Whether a result keeps the directories below from being made. That a directory was there already
does not. -/
def isObstacle : Except Failure Unit → Bool
  | .ok () => false
  | .error (.fileError e) => e.reason ≠ .alreadyExists
  | .error _ => true

/-- Makes a directory and those above it that are missing. The directory itself must not be there
yet, except that a dot behind a directory that was made asks for nothing more. -/
def makeDirectoriesAt (t : FileTree) (chars : List Char) : Except Failure Unit × FileTree :=
  let above := (aboveAndName chars).1
  let name := (aboveAndName chars).2
  let last (t : FileTree) : Except Failure Unit × FileTree :=
    match t.makeDirectoryAt (String.ofList chars) with
    | .ok made => (.ok (), made)
    | .error failure => (.error failure, t)
  if missing : above ≠ [] ∧ name ≠ [] ∧ t.existsAt (String.ofList above) = false then
    have : above.length < chars.length := length_aboveAndName missing.2.1
    let (result, t) := t.makeDirectoriesAt above
    if isObstacle result then (result, t) else if name = ['.'] then (.ok (), t) else last t
  else last t
termination_by chars.length

end FileTree

end Lanewise
