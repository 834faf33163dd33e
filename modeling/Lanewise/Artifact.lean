import Lanewise.Derivative
import Lanewise.Implementation
import Lanewise.Path

/-!
# Artifacts

An artifact is one generated file: the implementations or the derivatives for a target. The generic
vector has no derivatives, because these are registered on concrete types; scalars have no
implementations, because they have them already. The matrix lists all other pairs.
-/

namespace Lanewise

namespace Artifact

/-- What a generated file holds. -/
inductive Kind where
  | implementations
  | derivatives
deriving DecidableEq, Repr

namespace Kind

/-- All kinds. -/
def all : List Kind :=
  [implementations, derivatives]

/-- The word for a kind. -/
def name : Kind → String
  | implementations => "implementations"
  | derivatives => "derivatives"

/-- The kind that a value names. -/
def ofDatum (value : Datum) : Except Failure Kind :=
  (all.find? fun kind => Datum.text kind.name = value).elim
    (.error (.notInVocabulary value .artifactKind)) .ok

end Kind

/-- Why a target has no file of a kind. -/
def refusal? : Target → Kind → Option Failure
  | .generic, .derivatives => some .genericDerivatives
  | .scalar precision, .implementations => some (.scalarImplementations precision.typeName)
  | _, _ => none

end Artifact

/-- A file that is generated. -/
structure Artifact where
  target : Target
  kind : Artifact.Kind
  admitted : Artifact.refusal? target kind = none
deriving DecidableEq

namespace Artifact

/-- The artifact of a target and a kind, unless the target has none of that kind. -/
def ofParts (target : Target) (kind : Kind) : Except Failure Artifact :=
  match refused : refusal? target kind with
  | none => .ok ⟨target, kind, refused⟩
  | some failure => .error failure

/-- The part of a file name that tells the target. -/
def targetStem : Target → String
  | .generic => "SIMD+RealFunctions"
  | .scalar precision => precision.typeName ++ "+RealFunctions"
  | .vector precision width =>
    "SIMD" ++ toString width ++ "+" ++ precision.typeName ++ "+RealFunctions"

/-- The name of the file. -/
def fileName (a : Artifact) : String :=
  targetStem a.target
    ++ (match a.kind with
      | .implementations => ""
      | .derivatives => "+Derivatives")
    ++ ".swift"

/-- The artifacts of a precision: the derivatives of the scalar, then both files of each vector. -/
def row (widths : List Int) (precision : Precision) : List Artifact :=
  ⟨.scalar precision, .derivatives, rfl⟩ ::
    widths.flatMap fun width =>
      [⟨.vector precision width, .implementations, rfl⟩,
       ⟨.vector precision width, .derivatives, rfl⟩]

/-- All artifacts: those of the generic vector, then those of each precision. -/
def matrix (widths : List Int) : List Artifact :=
  ⟨.generic, .implementations, rfl⟩ :: Precision.all.flatMap (row widths)

/-- The text of the file. -/
def text [Template.Engine] (tables : Tables) (a : Artifact) : Except Failure String :=
  match a.kind with
  | .implementations => Implementation.fileText tables.catalog a.target
  | .derivatives => Derivative.fileText tables a.target

/-- The path of the file below a root. -/
def path (root : Path) (a : Artifact) : Path :=
  root.child a.fileName

/-- An artifact with the path of its file below a root and the text of the file. -/
structure Rendered where
  artifact : Artifact
  path : Path
  text : String

/-- The artifact with its path and its text. -/
def render [Template.Engine] (tables : Tables) (root : Path) (a : Artifact) :
    Except Failure Rendered := do
  return { artifact := a, path := a.path root, text := ← a.text tables }

/-- The paths of all files of the matrix. -/
def paths (widths : List Int) (root : Path) : List Path :=
  (matrix widths).map (path root)

/-- The paths of all files of the matrix, which have to be different. -/
def declaredOutputs (widths : List Int) (root : Path) : Except Failure (List Path) :=
  if (paths widths root).Nodup then .ok (paths widths root) else .error .pathsCollide

end Artifact

end Lanewise
