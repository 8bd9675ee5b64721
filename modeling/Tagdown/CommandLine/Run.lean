import Tagdown.CommandLine.Arguments
import Tagdown.CommandLine.Directory
import Tagdown.RuleSetConfig

/-!
# What the command line does

`produce` makes the text that a request asks for, from what can be read, and `fulfil` has the text
written, in any system of files (`FileSystem`). `run` reads the arguments and works in a directory.
A run that fails before its text is there writes nothing at all, whatever the reason was, and tells
the first one: the rule set is read and made into rules, then the input is read, converted and
written.
-/

namespace Tagdown.CommandLine

/-- Why a request cannot be met. -/
inductive Failure where
  | readRules (path : String) (fault : FileFault)
  | loadRules (path : String) (error : Error)
  | readInput (path : String) (fault : FileFault)
  | readStdin (fault : FileFault)
  | conversion (error : Error)
  | writeOutput (path : String) (fault : FileFault)
deriving DecidableEq

namespace Failure

/-- What could not be done. -/
def summary : Failure → String
  | readRules path _ => "Failed to read rule set " ++ path
  | loadRules path _ => "Failed to load rule set " ++ path
  | readInput path _ => "Failed to read " ++ path
  | readStdin _ => "Failed to read stdin"
  | conversion _ => "Failed to convert HTML"
  | writeOutput path _ => "Failed to write " ++ path

/-- The reason. -/
def cause : Failure → String
  | readRules _ fault => fault.message
  | loadRules _ error => error.message
  | readInput _ fault => fault.message
  | readStdin fault => fault.message
  | conversion error => error.message
  | writeOutput _ fault => fault.message

end Failure

/-- How files are read. -/
abbrev Reader := String → Except FileFault (List UInt8)

/-- A system of files, with the reasons that it has to refuse one. -/
class FileSystem (σ : Type) where
  read : σ → Reader
  /-- The system after a file was written, and the reason if it could not be written. -/
  write : σ → String → List UInt8 → σ × Option FileFault

instance : FileSystem Directory where
  read := Directory.read
  write d path bytes :=
    match d.write path bytes with
    | .ok written => (written, none)
    | .error fault => (d, some fault)

/-- The text of a file. -/
def readText (read : Reader) (path : String) : Except FileFault String := do
  match Utf8.decode (← read path) with
  | .ok text => .ok text
  | .error _ => .error .notText

/-- The converter that a file with a rule set describes. -/
def loadRules (read : Reader) (path : String) : Except Failure Converter := do
  let document ← (readText read path).mapError (.readRules path)
  let config ← (RuleSetConfig.ofJson document).mapError (.loadRules path)
  (Converter.ofConfig config).mapError (.loadRules path)

/-- The converter that the rules of a request come to. -/
def ruleSet (r : Request) (read : Reader) : Except Failure Converter :=
  match r.rules with
  | none => .ok .standard
  | some path => loadRules read path

/-- The converter that a request asks for. To keep unmatched elements is the last word, whatever
the rule set says. -/
def converter (r : Request) (read : Reader) : Except Failure Converter :=
  (ruleSet r read).map fun c =>
    if r.keepUnmatched then c.mapOptions ({ · with unmatched := .keep }) else c

/-- The file that a request names as its input; a hyphen is none. -/
def Request.inputFile? (r : Request) : Option String :=
  r.input.filter (· != "-")

/-- The bytes that are to be converted. -/
def inputBytes (r : Request) (read : Reader) (stdin : Except FileFault (List UInt8)) :
    Except Failure (List UInt8) :=
  match r.inputFile? with
  | some path => (read path).mapError (.readInput path)
  | none => stdin.mapError .readStdin

/-- A text as a file of lines; no text is an empty file. -/
def asLines (text : String) : String :=
  if text = "" then "" else text ++ "\n"

/-- The text that a request asks for. -/
def produce (r : Request) (read : Reader) (stdin : Except FileFault (List UInt8)) :
    Except Failure String := do
  let c ← converter r read
  let bytes ← inputBytes r read stdin
  let markdown ← (c.convertBytes bytes).mapError .conversion
  .ok (asLines markdown)

/-! ## Writing the text -/

/-- How a run ends. -/
inductive Ending where
  | success
  | failure (reason : Failure)
  | usage (fault : ArgumentFault)

/-- The number that the system is told. -/
def Ending.code : Ending → Nat
  | success => 0
  | failure _ => 1
  | usage _ => 2

/-- What a run leaves behind: what it has printed, and the files where it ran. -/
structure Outcome (σ : Type) where
  ending : Ending
  stdout : String
  directory : σ

variable {σ : Type} [FileSystem σ]

/-- Put the text where the request wants it. -/
def deliver (r : Request) (s : σ) (text : String) : Outcome σ :=
  match r.output with
  | none => { ending := .success, stdout := text, directory := s }
  | some path =>
    match FileSystem.write s path text.toUTF8.data.toList with
    | (s, none) => { ending := .success, stdout := "", directory := s }
    | (s, some fault) =>
      { ending := .failure (.writeOutput path fault), stdout := "", directory := s }

/-- Meet a request among files. -/
def fulfil (r : Request) (s : σ) (stdin : Except FileFault (List UInt8)) : Outcome σ :=
  match produce r (FileSystem.read s) stdin with
  | .ok text => deliver r s text
  | .error reason => { ending := .failure reason, stdout := "", directory := s }

/-! ## Running in a directory -/

def versionText : String := "to-markdown 0.1.0\n"

def helpText : String :=
  "Convert HTML to Markdown\n\n"
    ++ "Usage: to-markdown [OPTIONS] [INPUT]\n\n"
    ++ "Arguments:\n"
    ++ "  [INPUT]  Input HTML file; reads stdin when absent or `-`\n\n"
    ++ "Options:\n"
    ++ "  -o, --output <OUTPUT>    Write Markdown to this file instead of stdout\n"
    ++ "      --rules <FILE.json>  JSON rule set to use instead of the bundled rules\n"
    ++ "      --keep-unmatched     Keep the markup of elements no rule matches\n"
    ++ "  -v, --verbose...         More logging on stderr (-v debug, -vv trace)\n"
    ++ "  -h, --help               Print help\n"
    ++ "  -V, --version            Print version\n"

/-- Do what the arguments ask for. -/
def run (arguments : List String) (d : Directory) (stdin : List UInt8) : Outcome Directory :=
  match Command.parse arguments with
  | .error fault => { ending := .usage fault, stdout := "", directory := d }
  | .ok .showVersion => { ending := .success, stdout := versionText, directory := d }
  | .ok .showHelp => { ending := .success, stdout := helpText, directory := d }
  | .ok (.convert r) => fulfil r d (.ok stdin)

end Tagdown.CommandLine
