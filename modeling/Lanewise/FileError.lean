import Lanewise.Text.Quoted

/-!
# Errors of the file system

An operation on files names the paths it was given and the reason why it failed. Reasons have the
numbers and the wording that POSIX systems give them.
-/

namespace Lanewise

namespace FileError

/-- Why an operation on files fails. -/
inductive Reason where
  | noSuchEntry
  | busy
  | alreadyExists
  | notDirectory
  | isDirectory
  | nameTooLong
  | other (code : Nat) (wording : String)
deriving DecidableEq, Repr

namespace Reason

/-- The number of an error on POSIX systems. -/
def code : Reason → Nat
  | noSuchEntry => 2
  | busy => 16
  | alreadyExists => 17
  | notDirectory => 20
  | isDirectory => 21
  | nameTooLong => 36
  | other code _ => code

/-- The wording of an error on POSIX systems. -/
def wording : Reason → String
  | noSuchEntry => "No such file or directory"
  | busy => "Device or resource busy"
  | alreadyExists => "File exists"
  | notDirectory => "Not a directory"
  | isDirectory => "Is a directory"
  | nameTooLong => "File name too long"
  | other _ wording => wording

end Reason

end FileError

/-- A failed operation on files: the reason, the path it was given, and for a renaming the path it
was to have afterwards. -/
structure FileError where
  reason : FileError.Reason
  path : String
  destination : Option String := none
deriving DecidableEq, Repr

/-- The text of an error: number, wording and quoted paths. -/
def FileError.message (e : FileError) : String :=
  let subject := "[Errno " ++ toString e.reason.code ++ "] " ++ e.reason.wording ++ ": "
    ++ Text.quoted e.path
  match e.destination with
  | none => subject
  | some destination => subject ++ " -> " ++ Text.quoted destination

end Lanewise
