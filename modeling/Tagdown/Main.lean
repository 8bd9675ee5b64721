import Tagdown.CommandLine.Run

/-!
# The program

The outer layer: it looks the named files up in the real file system, and writes what
`CommandLine.produce` makes of them. Nothing is decided here.
-/

open Tagdown CommandLine

namespace Tagdown.Program

/-- The reason for a failure of the system. -/
def faultOf : IO.Error → FileFault
  | .noFileOrDirectory _ _ _ => .notFound
  | error => .system (toString error)

/-- What a file holds, or why it cannot be read. -/
def readFile (path : String) : IO (Except FileFault (List UInt8)) := do
  try
    let bytes ← IO.FS.readBinFile path
    return .ok bytes.data.toList
  catch error =>
    return .error (faultOf error)

/-- What comes from standard input, or why it cannot be read. -/
def readStdin : IO (Except FileFault (List UInt8)) := do
  try
    let bytes ← (← IO.getStdin).readBinToEnd
    return .ok bytes.data.toList
  catch error =>
    return .error (faultOf error)

/-- Write a file, or tell why it cannot be written. -/
def writeFile (path text : String) : IO (Option FileFault) := do
  try
    IO.FS.writeFile path text
    return none
  catch error =>
    return some (faultOf error)

/-- Tell a failure on the error stream. -/
def report (reason : Failure) : IO UInt32 := do
  IO.eprintln ("Error: " ++ reason.summary ++ "\n\nCaused by:\n    " ++ reason.cause)
  return 1

/-- Read the named files once, for a reader of these files. -/
def readerOf (paths : List String) : IO Reader := do
  let files ← paths.mapM fun path => return (path, ← readFile path)
  return fun path =>
    match files.find? (·.1 == path) with
    | some (_, result) => result
    | none => .error .notFound

/-- Meet a request. -/
def fulfilRequest (r : Request) : IO UInt32 := do
  let read ← readerOf (r.rules.toList ++ r.inputFile?.toList)
  let stdin ← match r.inputFile? with
    | some _ => pure (.ok [])
    | none => readStdin
  match produce r read stdin with
  | .error reason => report reason
  | .ok text =>
    match r.output with
    | none =>
      (← IO.getStdout).putStr text
      return 0
    | some path =>
      match ← writeFile path text with
      | none => return 0
      | some fault => report (.writeOutput path fault)

end Tagdown.Program

/-- Do what the arguments ask for. -/
def main (arguments : List String) : IO UInt32 := do
  match Command.parse arguments with
  | .error fault =>
    IO.eprintln ("error: " ++ fault.message)
    return 2
  | .ok .showVersion =>
    (← IO.getStdout).putStr versionText
    return 0
  | .ok .showHelp =>
    (← IO.getStdout).putStr helpText
    return 0
  | .ok (.convert r) => Program.fulfilRequest r
