import Lanewise.Datum
import Lanewise.FileError

/-!
# Failures

Everything that can go wrong while a catalog is read, looked up, rendered or written, told by its
cause. `Failure.message` is the one place where a cause becomes text.
-/

namespace Lanewise

/-- What a name is used for. -/
inductive NameRole where
  | argumentName
  | argumentLabel
  | argumentType
  | functionName
  | acceleratedName
deriving DecidableEq, Repr

/-- The wording for a role. -/
def NameRole.wording : NameRole → String
  | argumentName => "argument name"
  | argumentLabel => "argument label"
  | argumentType => "argument type"
  | functionName => "function name"
  | acceleratedName => "accelerated alias"

/-- A closed list of words, of which a value has to be one. -/
inductive Vocabulary where
  | precision
  | artifactKind
  | formulaKind
deriving DecidableEq, Repr

/-- The wording for a vocabulary. -/
def Vocabulary.wording : Vocabulary → String
  | precision => "Precision"
  | artifactKind => "ArtifactKind"
  | formulaKind => "FormulaKind"

/-- A function whose formula has the wrong number of partials. -/
structure ArityMismatch where
  key : String
  partials : Nat
  varying : Nat
deriving DecidableEq, Repr

/-- How a table of formulas differs from the catalog it is for. -/
structure Drift where
  /-- Keys of functions without a formula, sorted. -/
  missing : List String
  /-- Keys of formulas without a function, sorted. -/
  unexpected : List String
  /-- Wrong numbers of partials, sorted by key. -/
  mismatches : List ArityMismatch
deriving DecidableEq, Repr

/-- A cause of failure. -/
inductive Failure where
  /-- A vector target without a precision. -/
  | missingPrecision
  /-- A width that no vector target has. -/
  | unsupportedWidth (width : Datum) (widths : List Int)
  /-- A precision that no target has. -/
  | unsupportedPrecision (precision : Datum)
  /-- A value that is no word of a vocabulary. -/
  | notInVocabulary (value : Datum) (vocabulary : Vocabulary)
  /-- A value that is no identifier where one is needed. -/
  | invalidName (role : NameRole) (value : Datum)
  /-- A function without arguments. -/
  | noArguments (function : String)
  /-- A function with two arguments of one name. -/
  | duplicateArguments (function : String) (names : List String)
  /-- A function whose first argument has a type of its own. -/
  | fixedFirstArgument (function : String)
  /-- A catalog with two functions of one key. -/
  | duplicateEntry (key : String)
  /-- A key that is a list or a record, so that nothing can be found by it. -/
  | compoundKey (kind : String)
  /-- A name or key that no function has. -/
  | unknownFunction (wanted : String)
  /-- A question to which several functions answer. -/
  | ambiguousFunction (name : String) (keys : List String)
  /-- A name that a context cannot give, because a parameter has it. -/
  | boundTwice (procedure name : String)
  /-- A function without a formula. -/
  | missingFormula (key : String)
  /-- A table of formulas that does not fit the catalog. -/
  | tableDrift (drift : Drift)
  /-- A file of derivatives for the generic target. -/
  | genericDerivatives
  /-- A file of implementations for a scalar target. -/
  | scalarImplementations (typeName : String)
  /-- Two files of one path. -/
  | pathsCollide
  /-- A derivative of a function on the generic target. -/
  | derivativeOnGeneric
  /-- An implementation of a function on a scalar target. -/
  | implementationOnScalar (typeName : String)
  /-- A path that holds a null character, which no system takes. -/
  | nullInPath
  /-- A path that ends in no file name. -/
  | noFileName (path : String)
  /-- A number of workers below one. -/
  | noWorkers
  /-- A path that could not be written. -/
  | notWritten (path : String) (error : FileError)
  /-- An operation on files that failed. -/
  | fileError (error : FileError)
  /-- A name that the package does not have. -/
  | notInPackage (name : String)
  /-- A value that is asked of the package as if it were a name. -/
  | notPackageName (kind : String)
deriving DecidableEq

namespace Failure

/-- The lines that tell how a table of formulas differs from its catalog. -/
def driftLines (drift : Drift) : List String :=
  let listed (title : String) (keys : List String) :=
    if keys.isEmpty then [] else [title ++ ": " ++ Text.bracketed (keys.map Text.quoted)]
  listed "catalog functions without a derivative formula" drift.missing
    ++ listed "derivative formulas without a catalog function" drift.unexpected
    ++ drift.mismatches.map fun m =>
      m.key ++ " has " ++ toString m.partials ++ " partials for " ++ toString m.varying
        ++ " varying arguments"

/-- The text of a failure. -/
def message : Failure → String
  | missingPrecision => "vector targets require a scalar precision"
  | unsupportedWidth width widths =>
    "unsupported SIMD width " ++ width.plain ++ ", expected one of "
      ++ Text.tuple (widths.map toString)
  | unsupportedPrecision precision => "unsupported scalar precision: " ++ precision.quoted
  | notInVocabulary value vocabulary => value.quoted ++ " is not a valid " ++ vocabulary.wording
  | invalidName role value => "invalid " ++ role.wording ++ ": " ++ value.quoted
  | noArguments function => function ++ " declares no arguments"
  | duplicateArguments function names =>
    function ++ " declares duplicate arguments: " ++ Text.bracketed (names.map Text.quoted)
  | fixedFirstArgument function => function ++ " must take a varying-type first argument"
  | duplicateEntry key => "duplicate catalog entry: " ++ key
  | compoundKey kind => "unhashable type: '" ++ kind ++ "'"
  | unknownFunction wanted => "unknown catalog function: " ++ wanted
  | ambiguousFunction name keys =>
    "ambiguous catalog function " ++ name ++ ", candidates: "
      ++ Text.bracketed (keys.map Text.quoted)
  | boundTwice procedure name =>
    procedure ++ "() got multiple values for argument '" ++ name ++ "'"
  | missingFormula key => "no derivative formula for " ++ key
  | tableDrift drift =>
    "derivative table/catalog drift detected:\n" ++ "\n".intercalate (driftLines drift)
  | genericDerivatives => "the generic SIMD extension has no derivatives"
  | scalarImplementations typeName => typeName ++ " implementations come from RealModule"
  | pathsCollide => "artifact paths collide"
  | derivativeOnGeneric => "derivatives are only registered on concrete types"
  | implementationOnScalar typeName => typeName ++ " takes its implementations from RealModule"
  | nullInPath => "embedded null byte"
  | noFileName path => "PosixPath(" ++ Text.quoted path ++ ") has an empty name"
  | noWorkers => "max_workers must be greater than 0"
  | notWritten path error => "failed to write " ++ path ++ ": " ++ error.message
  | fileError error => error.message
  | notInPackage name =>
    "module 'realfunctions_codegen' has no attribute " ++ Text.quoted name
  | notPackageName kind => "attribute name must be string, not '" ++ kind ++ "'"

end Failure

end Lanewise
