import Tagdown.Regex.Escape
import Tagdown.Regex.Nested

/-!
# Classes in brackets

`readBracket?` reads a class such as `[^a-z[:digit:]&&[^3]]` after its opening bracket. Classes
can stand inside each other, and are combined by `&&`, `--` and `~~`, which bind alike and from
the left. The reader goes through the text once and keeps the classes that are still open on a
stack.
-/

namespace Tagdown.Regex

/-- An operation on the classes to the left and to the right of it. -/
inductive ClassOp where
  | inter
  | diff
  | symmDiff

/-- Combine two classes. -/
def ClassOp.apply : ClassOp → CharClass → CharClass → CharClass
  | inter, a, b => .inter a b
  | diff, a, b => .diff a b
  | symmDiff, a, b => .symmDiff a b

/-- A class whose closing bracket is still to come. -/
structure OpenClass where
  negated : Bool
  /-- what stands to the left of the last operation, with that operation -/
  left : Option (Nested CharClass × ClassOp) := none
  /-- the members read since -/
  members : CharClass := .nothing
  /-- the depth of each of these members -/
  depths : List Nat := []

/-- Add a member to the class. -/
def OpenClass.add (cls : OpenClass) (member : Nested CharClass) : OpenClass :=
  { cls with
    members := .union cls.members member.value
    depths := member.depth :: cls.depths }

/-- What has been read, with the last operation carried out. -/
def OpenClass.combined (flags : Flags) (cls : OpenClass) : Nested CharClass :=
  let depth := depthTogether cls.depths
  match cls.left with
  | some (left, op) =>
    { value := op.apply (flags.fold left.value) (flags.fold cls.members)
      depth := max left.depth depth + 1 }
  | none => ⟨cls.members, depth⟩

/-- The class is complete. -/
def OpenClass.close? (flags : Flags) (cls : OpenClass) : Option (Nested CharClass) :=
  let all := cls.combined flags
  (flags.foldOrNegate? cls.negated all.value).map (⟨·, all.depth + 1⟩)

/-- The classes that have a name between `[:` and `:]`. -/
def asciiClass? (name : String) : Option CharClass :=
  match name with
  | "alnum" => some (.ofRanges [('0', '9'), ('A', 'Z'), ('a', 'z')])
  | "alpha" => some (.ofRanges [('A', 'Z'), ('a', 'z')])
  | "ascii" => some (.range '\x00' '\x7f')
  | "blank" => some (.ofRanges [('\t', '\t'), (' ', ' ')])
  | "cntrl" => some (.ofRanges [('\x00', '\x1f'), ('\x7f', '\x7f')])
  | "digit" => some (.range '0' '9')
  | "graph" => some (.range '!' '~')
  | "lower" => some (.range 'a' 'z')
  | "print" => some (.range ' ' '~')
  | "punct" => some (.ofRanges [('!', '/'), (':', '@'), ('[', '\x60'), ('\x7b', '~')])
  | "space" => some (.ofRanges [('\t', '\x0d'), (' ', ' ')])
  | "upper" => some (.range 'A' 'Z')
  | "word" => some (.ofRanges [('0', '9'), ('A', 'Z'), ('_', '_'), ('a', 'z')])
  | "xdigit" => some (.ofRanges [('0', '9'), ('A', 'F'), ('a', 'f')])
  | _ => none

/-- A named class after its `[:`, and whether it is the characters that are not in it. If there
is none, the bracket opens a class like any other. -/
def readAsciiClass? (s : List Char) : Option (Bool × CharClass × List Char) :=
  let (negated, s) := match s with
    | '^' :: rest => (true, rest)
    | s => (false, s)
  match s.dropWhile (· != ':') with
  | ':' :: ']' :: rest =>
    (asciiClass? (String.ofList (s.takeWhile (· != ':')))).map (negated, ·, rest)
  | _ => none

/-- One character or escape inside brackets. Without Unicode, a class there is one of bytes, and
has no character beyond ASCII. -/
def readMember? (flags : Flags) (s : List Char) : Option (Primitive × List Char) := do
  let (member, rest) ←
    match s with
    | '\\' :: rest => readEscape? flags rest
    | c :: rest => some (.literal c, rest)
    | [] => none
  match member with
  | .literal c => if !flags.unicode && 0x80 ≤ c.toNat then none else some (member, rest)
  | _ => some (member, rest)

/-- The member is a class by itself. -/
def Primitive.toClass? : Primitive → Option CharClass
  | literal c => some (.single c)
  | named cls => some cls
  | assertion _ => none

/-- A member, or a range if a hyphen follows that is neither the last member of the class nor
the beginning of an operation. -/
def readRange? (flags : Flags) (s : List Char) : Option (CharClass × List Char) := do
  let (first, rest) ← readMember? flags s
  match flags.skip rest with
  | [] => none
  | '-' :: rest =>
    match flags.skip rest with
    | [] => none
    | ']' :: _ => (first.toClass?).map (·, '-' :: rest)
    | '-' :: _ => (first.toClass?).map (·, '-' :: rest)
    | rest =>
      match first, ← readMember? flags rest with
      | .literal lo, (.literal hi, rest) => if lo ≤ hi then some (.range lo hi, rest) else none
      | _, _ => none
  | rest => (first.toClass?).map (·, rest)

/-- The hyphens that begin a class are members. -/
def readHyphens (flags : Flags) (cls : OpenClass) (s : List Char) : OpenClass × List Char :=
  match s with
  | '-' :: rest => readHyphens flags (cls.add ⟨.single '-', 0⟩) (flags.skip rest)
  | s => (cls, s)
termination_by s.length
decreasing_by exact Nat.lt_succ_of_le (flags.length_skip_le _)

/-- The beginning of a class after its opening bracket. A closing bracket that comes first is
a member, unless a hyphen stands before it. -/
def openClass (flags : Flags) (s : List Char) : OpenClass × List Char :=
  let (negated, s) := match flags.skip s with
    | '^' :: rest => (true, flags.skip rest)
    | s => (false, s)
  match s with
  | ']' :: rest => (OpenClass.add { negated } ⟨.single ']', 0⟩, rest)
  | s => readHyphens flags { negated } s

/-- Read on until the outermost class is closed. `outer` are the classes around `cls`. -/
def readClassFrom? (flags : Flags) :
    Nat → List OpenClass → OpenClass → List Char → Option (Nested CharClass × List Char)
  | 0, _, _, _ => none
  | fuel + 1, outer, cls, s =>
    let operator (op : ClassOp) (rest : List Char) :=
      readClassFrom? flags fuel outer
        { cls with left := some (cls.combined flags, op), members := .nothing } rest
    let nested (rest : List Char) :=
      let (inner, rest) := openClass flags rest
      readClassFrom? flags fuel (cls :: outer) inner rest
    match flags.skip s with
    | [] => none
    | '[' :: ':' :: rest =>
      match readAsciiClass? rest with
      | some (negated, named, rest) => do
        let named ← flags.foldOrNegate? negated named
        readClassFrom? flags fuel outer (cls.add ⟨named, 0⟩) rest
      | none => nested (':' :: rest)
    | '[' :: rest => nested rest
    | ']' :: rest => do
      let closed ← cls.close? flags
      match outer with
      | [] => some (closed, rest)
      | around :: outer => readClassFrom? flags fuel outer (around.add closed) rest
    | '&' :: '&' :: rest => operator .inter rest
    | '-' :: '-' :: rest => operator .diff rest
    | '~' :: '~' :: rest => operator .symmDiff rest
    | s => do
      let (member, rest) ← readRange? flags s
      readClassFrom? flags fuel outer (cls.add ⟨member, 0⟩) rest

/-- Read a class after its opening bracket. Each round takes at least one character. -/
def readBracket? (flags : Flags) (s : List Char) : Option (Nested CharClass × List Char) :=
  let (cls, rest) := openClass flags s
  readClassFrom? flags (s.length + 1) [] cls rest

end Tagdown.Regex
