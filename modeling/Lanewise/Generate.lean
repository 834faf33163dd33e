import Lanewise.Artifact
import Lanewise.FileStore

/-!
# Generation

Generation writes all artifacts of the matrix below a root. Each file is written under a temporary
name first and then renamed, so that no reader finds half a file. When that fails, neither the
temporary file nor one of an earlier run stays behind, because such a file must not pass for the
result of this run.
-/

namespace Lanewise

/-- What the name of a temporary file ends in. -/
def temporarySuffix : String := ".tmp"

section

variable {m : Type → Type} [Monad m] [FileStore m]

/-- Puts a text in the place of a file, by way of a temporary one. -/
def replaceFile (temporary p : Path) (text : String) : m (Except FileError Unit) := do
  match ← FileStore.writeText temporary text with
  | .ok () => FileStore.rename temporary p
  | .error e => return .error e

/-- Writes a file. If that fails, the file and its temporary one are removed. -/
def writeFile (p : Path) (text : String) : m (Except Failure Unit) := do
  match p.name? with
  | none => return .error (.noFileName p.toString)
  | some name =>
    if p.hasNull then return .error .nullInPath
    else
      let temporary := p.withName (name ++ temporarySuffix)
      match ← replaceFile temporary p text with
      | .ok () => return .ok ()
      | .error e =>
        discard (FileStore.remove (m := m) temporary)
        discard (FileStore.remove (m := m) p)
        return .error (.notWritten p.toString e)

variable [Template.Engine]

/-- Renders and writes artifacts in order, up to the first failure. Tells what was written. -/
def writeArtifacts (tables : Tables) (root : Path) :
    List Artifact → m (Except Failure (List Artifact.Rendered))
  | [] => return .ok []
  | a :: rest => do
    match a.render tables root with
    | .error failure => return .error failure
    | .ok rendered =>
      match ← writeFile rendered.path rendered.text with
      | .error failure => return .error failure
      | .ok () =>
        match ← writeArtifacts tables root rest with
        | .error failure => return .error failure
        | .ok written => return .ok (rendered :: written)

/-- What was written, in the order of the matrix. -/
def inMatrixOrder (widths : List Int) (written : List Artifact.Rendered) :
    List Artifact.Rendered :=
  (Artifact.matrix widths).filterMap fun a => written.find? (·.artifact = a)

/-- Writes artifacts in the given order below a root, which is made if it is missing, and tells what
was written in the order of the matrix. The number of workers, if given, has to be positive. -/
def generateInOrder (order : List Artifact) (tables : Tables) (root : Path) (workers : Option Int) :
    m (Except Failure (List Artifact.Rendered)) := do
  if root.hasNull then return .error .nullInPath
  else
    match ← FileStore.makeDirectories root with
    | .error e => return .error (.notWritten root.toString e)
    | .ok () =>
      match Artifact.declaredOutputs tables.widths root with
      | .error failure => return .error failure
      | .ok _ =>
        if workers.any (· ≤ 0) then return .error .noWorkers
        else
          match ← writeArtifacts tables root order with
          | .error failure => return .error failure
          | .ok written => return .ok (inMatrixOrder tables.widths written)

/-- Writes all artifacts of the matrix below a root. Artifacts do not depend on each other, so any
other order would do as well. -/
def generate (tables : Tables) (root : Path) (workers : Option Int) :
    m (Except Failure (List Artifact.Rendered)) :=
  generateInOrder (Artifact.matrix tables.widths) tables root workers

end

end Lanewise
