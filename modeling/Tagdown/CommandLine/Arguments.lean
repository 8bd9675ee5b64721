/-!
# The arguments of the command line

`Command.parse` reads the arguments in order, and the first that is wrong decides. What asks
for the version or for help is carried out as soon as it is met.

An option can have its value in the next argument or, after an equals sign, in its own. Short
options can be put together behind one hyphen. A single hyphen is an argument like any other,
and so is everything after two hyphens.
-/

namespace Tagdown.CommandLine

/-- A conversion that is asked for. -/
structure Request where
  /-- the file to read; standard input if there is none, or if it is a hyphen -/
  input : Option String := none
  /-- the file to write; standard output if there is none -/
  output : Option String := none
  /-- the file with the rule set; the bundled rules if there is none -/
  rules : Option String := none
  /-- elements that no rule matches stay as they are -/
  keepUnmatched : Bool := false
  /-- how often more messages were asked for -/
  verbosity : Nat := 0
deriving DecidableEq

/-- What is asked for. -/
inductive Command where
  | convert (request : Request)
  | showVersion
  | showHelp
deriving DecidableEq

/-- Why the arguments cannot be used. -/
inductive ArgumentFault where
  | unexpected (argument : String)
  | missingValue (option : String)
  | repeated (option : String)
deriving DecidableEq

/-- The text of a fault. -/
def ArgumentFault.message : ArgumentFault → String
  | unexpected argument => "unexpected argument '" ++ argument ++ "'"
  | missingValue option => "a value is required for '" ++ option ++ "'"
  | repeated option => "the argument '" ++ option ++ "' cannot be used more than once"

/-! ## Single options -/

/-- Name a file that was not named before. A file has a name. -/
def nameFile (option : String) (old : Option String) (value : String) :
    Except ArgumentFault (Option String) :=
  if value = "" then .error (.missingValue option)
  else if old.isSome then .error (.repeated option)
  else .ok (some value)

def Request.setOutput (r : Request) (value : String) : Except ArgumentFault Request :=
  (nameFile "--output" r.output value).map fun output => { r with output }

def Request.setRules (r : Request) (value : String) : Except ArgumentFault Request :=
  (nameFile "--rules" r.rules value).map fun rules => { r with rules }

/-- There is one input. -/
def Request.setInput (r : Request) (value : String) : Except ArgumentFault Request :=
  if r.input.isSome then .error (.unexpected value)
  else (nameFile "INPUT" r.input value).map fun input => { r with input }

def Request.setKeepUnmatched (r : Request) : Except ArgumentFault Request :=
  if r.keepUnmatched then .error (.repeated "--keep-unmatched")
  else .ok { r with keepUnmatched := true }

def Request.moreVerbose (r : Request) : Request :=
  { r with verbosity := r.verbosity + 1 }

/-- The argument is an option or several; a single hyphen is none. -/
def isOption (argument : String) : Bool :=
  match argument.toList with
  | '-' :: _ :: _ => true
  | _ => false

/-! ## Short options -/

/-- What short options behind one hyphen come to. -/
inductive ShortOptions where
  | done (request : Request)
  /-- the last one has its value in the next argument -/
  | wantsOutput (request : Request)
  | showVersion
  | showHelp

/-- Read short options. One with a value takes all that is left for it. -/
def readShort (r : Request) : List Char → Except ArgumentFault ShortOptions
  | [] => .ok (.done r)
  | 'v' :: rest => readShort r.moreVerbose rest
  | 'V' :: _ => .ok .showVersion
  | 'h' :: _ => .ok .showHelp
  | 'o' :: [] => .ok (.wantsOutput r)
  | 'o' :: '=' :: value => (r.setOutput (String.ofList value)).map .done
  | 'o' :: value => (r.setOutput (String.ofList value)).map .done
  | c :: _ => .error (.unexpected (String.ofList ['-', c]))

/-! ## All arguments -/

/-- The option that an argument names, and its value if it has one. -/
def splitValue (argument : List Char) : String × Option String :=
  match argument.dropWhile (· != '=') with
  | _ :: value => (String.ofList (argument.takeWhile (· != '=')), some (String.ofList value))
  | [] => (String.ofList argument, none)

/-- Everything from here on is input. -/
def readInputs (r : Request) : List String → Except ArgumentFault Command
  | [] => .ok (.convert r)
  | argument :: rest => (r.setInput argument).bind fun r => readInputs r rest

/-- Read arguments after those that gave `r`. -/
def readArguments (r : Request) : List String → Except ArgumentFault Command
  | [] => .ok (.convert r)
  | argument :: rest =>
    match argument.toList with
    | ['-', '-'] => readInputs r rest
    | '-' :: '-' :: name =>
      match splitValue name with
      | ("output", some value) => (r.setOutput value).bind fun r => readArguments r rest
      | ("rules", some value) => (r.setRules value).bind fun r => readArguments r rest
      | ("output", none) =>
        match rest with
        | value :: rest =>
          if isOption value then .error (.missingValue "--output")
          else (r.setOutput value).bind fun r => readArguments r rest
        | [] => .error (.missingValue "--output")
      | ("rules", none) =>
        match rest with
        | value :: rest =>
          if isOption value then .error (.missingValue "--rules")
          else (r.setRules value).bind fun r => readArguments r rest
        | [] => .error (.missingValue "--rules")
      | ("keep-unmatched", none) => r.setKeepUnmatched.bind fun r => readArguments r rest
      | ("verbose", none) => readArguments r.moreVerbose rest
      | ("version", none) => .ok .showVersion
      | ("help", none) => .ok .showHelp
      | _ => .error (.unexpected argument)
    | '-' :: c :: options =>
      match readShort r (c :: options) with
      | .error fault => .error fault
      | .ok (.done r) => readArguments r rest
      | .ok .showVersion => .ok .showVersion
      | .ok .showHelp => .ok .showHelp
      | .ok (.wantsOutput r) =>
        match rest with
        | value :: rest =>
          if isOption value then .error (.missingValue "--output")
          else (r.setOutput value).bind fun r => readArguments r rest
        | [] => .error (.missingValue "--output")
    | _ => (r.setInput argument).bind fun r => readArguments r rest

/-- What the arguments ask for. -/
def Command.parse (arguments : List String) : Except ArgumentFault Command :=
  readArguments {} arguments

end Tagdown.CommandLine
