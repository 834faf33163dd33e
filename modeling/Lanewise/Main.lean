import Lanewise.CommandLine

/-!
# The program

Runs the command line on the files of the machine.
-/

namespace Lanewise

/-- The reason that an error of the machine gives for an action on a path. That another entry exists
already is told of a file above the path, where a directory would have to be. -/
def FileError.Reason.ofMachine (p : Path) : IO.Error → FileError.Reason
  | .noFileOrDirectory .. => .noSuchEntry
  | .resourceBusy .. => .busy
  | .alreadyExists entry .. => if entry = some p.toString then .alreadyExists else .notDirectory
  | .inappropriateType _ code _ => if code = 20 then .notDirectory else .isDirectory
  | .invalidArgument _ code wording =>
    if code = 36 then .nameTooLong else .other code.toNat wording
  | .permissionDenied _ code wording | .resourceExhausted _ code wording =>
    .other code.toNat wording
  | e => .other 0 (toString e)

/-- The result of an action on a file, with its error as a value. -/
def attempt (p : Path) (destination : Option Path) (action : IO Unit) :
    IO (Except FileError Unit) := do
  try
    action
    return .ok ()
  catch e =>
    return .error
      { reason := .ofMachine p e, path := p.toString, destination := destination.map (·.toString) }

instance : FileStore IO where
  makeDirectories p := attempt p none (IO.FS.createDirAll p.toString)
  writeText p text := attempt p none (IO.FS.writeFile p.toString text)
  rename source destination :=
    attempt source (some destination) (IO.FS.rename source.toString destination.toString)
  remove p := attempt p none (IO.FS.removeFile p.toString)

end Lanewise

/-- Runs the command with the standard tables and tells its outcome. -/
def main (arguments : List String) : IO UInt32 := do
  match ← Lanewise.CommandLine.run .standard arguments with
  | .ok outcome =>
    IO.print outcome.output
    IO.eprint outcome.errors
    return outcome.exitCode
  | .error failure =>
    IO.eprintln failure.message
    return 1
