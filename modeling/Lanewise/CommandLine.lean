import Lanewise.Generate
import Lanewise.Template.Standard
import Lanewise.Text.DecimalDigit

/-!
# The command line

The command takes one word, the directory to write to, and an option that shows how to use it. Words
that start with a dash are options, unless they are a dash alone, a negative number or have a space
in them; after two dashes on their own every word is a value. Long options may be shortened, and
short ones may be run together. Templates are filled by the standard engine.
-/

namespace Lanewise

namespace CommandLine

/-- The name of the command. -/
def program : String := "generate_real_functions.py"

/-- The line that shows how to use the command. -/
def usage : String :=
  "usage: " ++ program ++ " [-h] output_dir\n"

/-- The text that explains the command. -/
def help : String :=
  usage ++ "\nGenerate RealFunctions implementations for SIMD types and their reverse-mode\n"
    ++ "derivative registrations.\n\npositional arguments:\n"
    ++ "  output_dir  Directory that receives the generated Swift sources.\n\noptions:\n"
    ++ "  -h, --help  show this help message and exit\n"

/-! ## Words -/

/-- What a word of the command line means. -/
inductive Word where
  /-- Two dashes, after which there are no options. -/
  | separator
  /-- A word that is no option. -/
  | value (text : String)
  /-- The option that asks for help. -/
  | help
  /-- The option that asks for help, with an argument that it does not take. -/
  | helpWith (argument : String)
  /-- An option that the command does not have. -/
  | unknown (text : String)
deriving DecidableEq, Repr

/-- The long form of the option that asks for help. -/
def longHelp : List Char := "--help".toList

/-- A word without a line feed at its end. -/
def trimBreak (chars : List Char) : List Char :=
  if chars.getLast? = some '\n' then chars.dropLast else chars

/-- Whether a text is a number without a sign: digits, with at most one point before the last ones.
-/
def isNumber (chars : List Char) : Bool :=
  match chars.dropWhile Text.isDecimalDigit with
  | [] => !chars.isEmpty
  | '.' :: fraction => !fraction.isEmpty && fraction.all Text.isDecimalDigit
  | _ => false

/-- The parts of a word before and after its first equals sign. -/
def splitArgument (chars : List Char) : List Char × Option (List Char) :=
  match chars.dropWhile (· ≠ '=') with
  | [] => (chars, none)
  | _ :: argument => (chars.takeWhile (· ≠ '='), some argument)

/-- The option for help in its short form with something directly behind it: more of the same letter
is the same option once more, and what is left is an argument. -/
def shortHelp (behind : List Char) : Word :=
  if behind = [] then .helpWith ""
  else
    match behind.dropWhile (· = 'h') with
    | [] => .help
    | argument => .helpWith (String.ofList argument)

/-- The meaning of a word that starts with a dash and is no option for help. -/
def otherOption (chars : List Char) : Word :=
  if isNumber (trimBreak chars.tail) || chars.contains ' ' then .value (String.ofList chars)
  else .unknown (String.ofList chars)

/-- The meaning of a word before any separator. -/
def Word.ofChars (chars : List Char) : Word :=
  match chars with
  | ['-'] => .value "-"
  | '-' :: '-' :: _ =>
    let (name, argument) := splitArgument chars
    if name.isPrefixOf longHelp then
      argument.elim .help fun argument => .helpWith (String.ofList argument)
    else otherOption chars
  | ['-', 'h'] => .help
  | '-' :: 'h' :: '=' :: argument => shortHelp argument
  | '-' :: 'h' :: behind => shortHelp behind
  | '-' :: _ => otherOption chars
  | _ => .value (String.ofList chars)

/-- The meanings of the words of a command line. -/
def words : List String → List Word
  | [] => []
  | "--" :: rest => .separator :: rest.map .value
  | text :: rest => Word.ofChars text.toList :: words rest

/-! ## Requests -/

/-- What a command line asks for. -/
inductive Request where
  | help
  | generate (directory : String)
  | misuse (message : String)
deriving DecidableEq, Repr

/-- What is asked for once all words are read. That the directory is missing is told before words
that the command has no use for. -/
def Request.ofParts : Option String → List String → Request
  | none, _ => .misuse "the following arguments are required: output_dir"
  | some directory, [] => .generate directory
  | some _, unused => .misuse ("unrecognized arguments: " ++ " ".intercalate unused)

/-- What the words ask for, where a directory may be known and some words may be unused already. The
first value is the directory, together with a separator next to it. -/
def Request.read : Option String → List String → List Word → Request
  | directory, unused, [] => .ofParts directory unused
  | _, _, .help :: _ => .help
  | _, _, .helpWith argument :: _ =>
    .misuse ("argument -h/--help: ignored explicit argument " ++ Text.quoted argument)
  | directory, unused, .unknown text :: rest => read directory (unused ++ [text]) rest
  | none, unused, .value text :: .separator :: rest => read (some text) unused rest
  | none, unused, .separator :: .value text :: rest => read (some text) unused rest
  | none, unused, .value text :: rest => read (some text) unused rest
  | some directory, unused, .value text :: rest => read (some directory) (unused ++ [text]) rest
  | directory, unused, .separator :: rest => read directory (unused ++ ["--"]) rest

/-- What a command line asks for. -/
def Request.ofArguments (arguments : List String) : Request :=
  read none [] (words arguments)

/-! ## Outcomes -/

/-- What a command leaves: its exit code and what it writes. -/
structure Outcome where
  exitCode : UInt32
  output : String
  errors : String
deriving DecidableEq, Repr

/-- A line of the log. -/
def logLine (text : String) : String :=
  "[realfunctions-codegen] " ++ text ++ "\n"

/-- What is written after the given files were generated. -/
def report (paths : List Path) : String :=
  String.join (paths.map fun p => logLine ("wrote " ++ p.toString))
    ++ logLine ("generated " ++ toString paths.length ++ " files.")

/-- Runs the command. -/
def run {m : Type → Type} [Monad m] [FileStore m] (tables : Tables) (arguments : List String) :
    m (Except Failure Outcome) := do
  match Request.ofArguments arguments with
  | .help => return .ok { exitCode := 0, output := help, errors := "" }
  | .misuse message =>
    return .ok
      { exitCode := 2, output := "", errors := usage ++ program ++ ": error: " ++ message ++ "\n" }
  | .generate directory =>
    match ← generate tables (.ofString directory) none with
    | .error failure => return .error failure
    | .ok written =>
      return .ok { exitCode := 0, output := report (written.map (·.path)), errors := "" }

end CommandLine

end Lanewise
