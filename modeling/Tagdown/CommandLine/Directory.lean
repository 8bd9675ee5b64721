/-!
# Files in a directory

A `Directory` is a directory with files, seen from inside. A path leads from it to a `Place`,
name by name, and every name but the last must be that of a directory (`Directory.walk?`).
Files can be read and written like real ones, with the same reasons to fail.
-/

namespace Tagdown.CommandLine

/-- Why a file cannot be read or written. -/
inductive FileFault where
  | notFound
  | notDirectory
  | isDirectory
  | nameTooLong
  /-- The file is to be text, and is not UTF-8. -/
  | notText
  /-- Another reason, in the words of the system. -/
  | system (reason : String)
deriving DecidableEq

/-- The text of a fault. -/
def FileFault.message : FileFault → String
  | notFound => "No such file or directory (os error 2)"
  | notDirectory => "Not a directory (os error 20)"
  | isDirectory => "Is a directory (os error 21)"
  | nameTooLong => "File name too long (os error 36)"
  | notText => "stream did not contain valid UTF-8"
  | system reason => reason

/-- The greatest size of a name, in bytes. -/
def maxNameSize : Nat := 255

/-- The greatest size of a path, in bytes. -/
def maxPathSize : Nat := 4095

/-- The names on a path. -/
def pathNames (path : String) : List String :=
  ((path.toList.splitOn '/').filter (!·.isEmpty)).map String.ofList

/-- The path begins at the top of the system. -/
def isAbsolute (path : String) : Bool :=
  path.toList.head? == some '/'

/-- The path asks for a directory. -/
def endsInSlash (path : String) : Bool :=
  path.toList.getLast? == some '/'

/-- The files of a directory, each with the names that lead to it. -/
structure Directory where
  files : List (List String × List UInt8)

/-- Where a path leads. -/
inductive Place where
  /-- the directory that we are in, or one inside of it -/
  | directory (names : List String)
  | file (names : List String) (bytes : List UInt8)
  /-- a place in a directory where nothing is yet -/
  | vacant (names : List String)
  /-- a directory around the one that we are in -/
  | outside
  /-- a place in a directory outside, where nothing is known to be -/
  | unknown

namespace Directory

/-- The directory with these files. -/
def ofFiles (files : List (String × List UInt8)) : Directory :=
  ⟨files.map fun (path, bytes) => (pathNames path, bytes)⟩

/-- There is a directory: the one that we are in, or one with a file in it. -/
def hasDirectory (d : Directory) (names : List String) : Bool :=
  names.isEmpty || d.files.any fun (path, _) => names.isPrefixOf path && path != names

/-- What stands where the names lead. -/
def placeAt (d : Directory) (names : List String) : Place :=
  if d.hasDirectory names then .directory names
  else
    match d.files.find? (·.1 == names) with
    | some (_, bytes) => .file names bytes
    | none => .vacant names

/-- Go on from a place by one name. A dot stays where it is, and two dots lead back. -/
def enter? (d : Directory) (place : Place) (name : String) : Except FileFault Place :=
  match place with
  | .file _ _ => .error .notDirectory
  | .vacant _ => .error .notFound
  | .unknown => .error .notFound
  | .outside =>
    if maxNameSize < name.utf8ByteSize then .error .nameTooLong
    else if name = "." || name = ".." then .ok .outside
    else .ok .unknown
  | .directory names =>
    if maxNameSize < name.utf8ByteSize then .error .nameTooLong
    else if name = "." then .ok place
    else if name = ".." then
      .ok (if names.isEmpty then .outside else .directory names.dropLast)
    else .ok (d.placeAt (names ++ [name]))

/-- Follow names from the beginning of a path. -/
def walk? (d : Directory) (path : String) (names : List String) : Except FileFault Place :=
  if path = "" then .error .notFound
  else if maxPathSize < path.utf8ByteSize then .error .nameTooLong
  else names.foldlM d.enter? (if isAbsolute path then .outside else .directory [])

/-- What the file at a path holds. -/
def read (d : Directory) (path : String) : Except FileFault (List UInt8) := do
  let names := pathNames path
  match ← d.walk? path (if endsInSlash path then names ++ ["."] else names) with
  | .file _ bytes => .ok bytes
  | .directory _ => .error .isDirectory
  | .outside => .error .isDirectory
  | .vacant _ => .error .notFound
  | .unknown => .error .notFound

/-- Put a file where the names lead, in the place of one that may be there. -/
def put (d : Directory) (names : List String) (bytes : List UInt8) : Directory :=
  ⟨d.files.filter (·.1 != names) ++ [(names, bytes)]⟩

/-- The directory with these bytes in the file at a path. The file may be new, but not the
directory that it stands in. A path that ends in a slash is never that of a file; to find that
out, the way up to its last name is enough. A file outside is no concern of the directory. -/
def write (d : Directory) (path : String) (bytes : List UInt8) : Except FileFault Directory := do
  let names := pathNames path
  if endsInSlash path then
    let _ ← d.walk? path (names.dropLast ++ ["."])
    .error .isDirectory
  else
    match ← d.walk? path names with
    | .file names _ => .ok (d.put names bytes)
    | .vacant names => .ok (d.put names bytes)
    | .unknown => .ok d
    | .directory _ => .error .isDirectory
    | .outside => .error .isDirectory

end Directory

end Tagdown.CommandLine
