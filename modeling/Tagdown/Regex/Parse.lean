import Tagdown.Regex.Bracket
import Tagdown.Regex.Size

/-!
# Reading a pattern

`Regex.compile` reads a pattern, or refuses it. Groups, alternatives and repetitions are put
together by a machine that goes through the text once; the groups that are still open are on
its stack. Each group begins with the flags of the place where it opens, and what is changed
inside it ends with it.

Look-around and references to groups are not part of the patterns and are refused. So are
patterns in which too much is nested, or which stand for too much.
-/

namespace Tagdown.Regex

open Text (CharacterSet isAsciiDigit isWhitespace digitsValue)

/-- An element of a sequence. Setting flags is one too, but nothing can repeat it. -/
inductive Item where
  | expr (e : Nested Expr)
  | flags

/-- The depth of an element. -/
def Item.depth : Item → Nat
  | expr e => e.depth
  | flags => 0

/-- What a group has in it up to now. -/
structure Sequence where
  /-- the alternatives that are complete, the last one first -/
  alternatives : List (Nested Expr) := []
  /-- the items of the alternative that is being read, the last one first -/
  items : List Item := []

/-- The items one after the other. -/
def concatItems (items : List Item) : Nested Expr :=
  let value := items.foldl
    (fun rest item => match item with
      | .expr e => match rest with
        | .empty => e.value
        | rest => .concat e.value rest
      | .flags => rest)
    .empty
  { value, depth := depthTogether (items.map Item.depth) }

/-- Add an expression to the current alternative. -/
def Sequence.push (seq : Sequence) (e : Nested Expr) : Sequence :=
  { seq with items := .expr e :: seq.items }

/-- Begin the next alternative. -/
def Sequence.nextAlternative (seq : Sequence) : Sequence :=
  { alternatives := concatItems seq.items :: seq.alternatives }

/-- All that has been read, as one expression. -/
def Sequence.toExpr (seq : Sequence) : Nested Expr :=
  let last := concatItems seq.items
  { value := seq.alternatives.foldl (fun rest e => .alternation e.value rest) last.value
    depth := depthTogether (last.depth :: seq.alternatives.map Nested.depth) }

/-- Repeat the last item, if there is one that can be repeated. -/
def Sequence.repeatLast? (seq : Sequence) (min : Nat) (max : Option Nat) : Option Sequence :=
  match seq.items with
  | .expr e :: items =>
    some { seq with
      items := .expr { value := .repetition e.value min max, depth := e.depth + 1 } :: items }
  | _ => none

/-- A group whose closing parenthesis is still to come: the flags around it, and what the
sequence around it had in it. -/
structure OpenGroup where
  flags : Flags
  seq : Sequence
  /-- the group keeps what it matches -/
  captures : Bool

/-! ## Repetitions -/

/-- A question mark after a repetition makes it prefer fewer rounds, which changes no answer
about whether there is a match. -/
def skipLazy (s : List Char) : List Char :=
  match s with
  | '?' :: rest => rest
  | s => s

/-- A decimal number below 2^32, with white space around it. -/
def readCount? (flags : Flags) (s : List Char) : Option (Nat × List Char) :=
  let (digits, rest) := flags.takeWhile isAsciiDigit (s.dropWhile isWhitespace)
  let n := digitsValue 10 (digits.map fun c => c.toNat - '0'.toNat)
  if digits.isEmpty || Nat.pow 2 32 ≤ n then none else some (n, rest.dropWhile isWhitespace)

/-- The bounds of a repetition after its opening brace. -/
def readBounds? (flags : Flags) (s : List Char) : Option ((Nat × Option Nat) × List Char) := do
  let (min, rest) ← readCount? flags (flags.skip s)
  match rest with
  | '}' :: rest => some ((min, some min), rest)
  | ',' :: rest =>
    match flags.skip rest with
    | '}' :: rest => some ((min, none), rest)
    | rest =>
      match ← readCount? flags rest with
      | (max, '}' :: rest) => if min ≤ max then some ((min, some max), rest) else none
      | _ => none
  | _ => none

/-! ## Groups -/

/-- Set one flag. The flag on greed changes no answer about whether there is a match. -/
def Flags.set? (flags : Flags) (flag : Char) (value : Bool) : Option Flags :=
  match flag with
  | 'i' => some { flags with ignoreCase := value }
  | 'm' => some { flags with multiLine := value }
  | 's' => some { flags with dotMatchesNewline := value }
  | 'R' => some { flags with crlf := value }
  | 'u' => some { flags with unicode := value }
  | 'x' => some { flags with verbose := value }
  | 'U' => some flags
  | _ => none

/-- Read flags up to a colon or a closing parenthesis, which is left in place. No flag may be
given twice; after a hyphen the flags are taken away, and at least one must follow it. `seen`
are the flags and hyphens so far, the last one first. -/
def readFlags? (flags : Flags) (seen : List Char) :
    List Char → Option (Flags × List Char × List Char)
  | [] => none
  | c :: rest =>
    if c = ':' || c = ')' then
      if seen.head? = some '-' then none else some (flags, seen, c :: rest)
    else if c ∈ seen then none
    else if c = '-' then readFlags? flags (c :: seen) rest
    else (flags.set? c ('-' ∉ seen)).bind fun flags => readFlags? flags (c :: seen) rest

/-- The letters, and what else is part of words like one. -/
def alphabeticSet : CharacterSet := (property? "alphabetic".toList).getD (.union [])

/-- The digits and other numbers. -/
def numberSet : CharacterSet := (property? "number".toList).getD (.union [])

/-- A character that the name of a group may have at its beginning. -/
def isNameStart (c : Char) : Bool :=
  c == '_' || alphabeticSet.contains c

/-- A character that the name of a group may have after its beginning. -/
def isNamePart (c : Char) : Bool :=
  isNameStart c || numberSet.contains c || c == '.' || c == '[' || c == ']'

/-- The name of a group up to the bracket after it, which is passed over. -/
def readName? (s : List Char) : Option (List Char × List Char) :=
  match s.takeWhile (· != '>'), s.dropWhile (· != '>') with
  | c :: cs, _ :: rest => if isNameStart c && cs.all isNamePart then some (c :: cs, rest) else none
  | _, _ => none

/-- How a group begins. -/
inductive GroupStart where
  | capture (flags : Flags) (name : Option (List Char))
  | group (flags : Flags)
  | setFlags (flags : Flags)

/-- Read the beginning of a group after its parenthesis. -/
def readGroupStart? (flags : Flags) (s : List Char) : Option (GroupStart × List Char) :=
  match flags.skip s with
  | '?' :: 'P' :: '<' :: rest =>
    (readName? rest).map fun (name, rest) => (.capture flags (some name), rest)
  | '?' :: '<' :: rest =>
    (readName? rest).map fun (name, rest) => (.capture flags (some name), rest)
  | '?' :: rest =>
    match readFlags? flags [] rest with
    | some (inner, _, ':' :: rest) => some (.group inner, rest)
    | some (inner, seen, ')' :: rest) =>
      if seen.isEmpty then none else some (.setFlags inner, rest)
    | _ => none
  | rest => some (.capture flags none, rest)

/-! ## The machine -/

/-- A character that stands for itself. -/
def Flags.literal (flags : Flags) (c : Char) : Expr :=
  .chars (flags.fold (.single c))

/-- What a dot stands for. -/
def Flags.dot? (flags : Flags) : Option Expr :=
  let excluded : CharClass :=
    if flags.dotMatchesNewline then .nothing
    else if flags.crlf then .ofRanges [('\n', '\n'), ('\r', '\r')]
    else .single '\n'
  (flags.negated? excluded).map .chars

/-- What a circumflex stands for. -/
def Flags.start (flags : Flags) : Assertion :=
  if flags.multiLine then .lineStart flags.crlf else .textStart

/-- What a dollar sign stands for. -/
def Flags.stop (flags : Flags) : Assertion :=
  if flags.multiLine then .lineEnd flags.crlf else .textEnd

/-- The expression of an escape outside of brackets. -/
def Primitive.toExpr (flags : Flags) : Primitive → Expr
  | literal c => flags.literal c
  | named cls => .chars cls
  | assertion a => .assertion a

/-- Where the machine is: the groups still open, the names given to groups, the flags in force
and the sequence that is being read. -/
structure Machine where
  groups : List OpenGroup := []
  names : List (List Char) := []
  flags : Flags := {}
  seq : Sequence := {}

/-- Add an expression to the sequence that has no parts inside. -/
def Machine.push (m : Machine) (e : Expr) : Machine :=
  { m with seq := m.seq.push ⟨e, 0⟩ }

/-- Repeat the last item. -/
def Machine.repeatLast? (m : Machine) (min : Nat) (max : Option Nat) : Option Machine :=
  (m.seq.repeatLast? min max).map fun seq => { m with seq }

/-- Enter a group under these flags. -/
def Machine.enter (m : Machine) (flags : Flags) (captures : Bool) : Machine :=
  { m with groups := ⟨m.flags, m.seq, captures⟩ :: m.groups, flags, seq := {} }

/-- Enter a group, or change the flags. Two groups cannot have one name. -/
def Machine.open? (m : Machine) : GroupStart → Option Machine
  | .setFlags flags => some { m with flags, seq := { m.seq with items := .flags :: m.seq.items } }
  | .group flags => some (m.enter flags false)
  | .capture flags name =>
    if name.any (· ∈ m.names) then none
    else some { m.enter flags true with names := name.toList ++ m.names }

/-- Leave the innermost group. -/
def Machine.close? (m : Machine) : Option Machine :=
  match m.groups with
  | [] => none
  | around :: groups =>
    let inside := m.seq.toExpr
    let value := if around.captures then .capture inside.value else inside.value
    let seq := around.seq.push { value, depth := inside.depth + 1 }
    some { m with groups, flags := around.flags, seq }

/-- One step of the machine: the new state and what is left of the text after `c`. -/
def Machine.step? (m : Machine) (c : Char) (rest : List Char) : Option (Machine × List Char) :=
  match c with
  | '(' => do
    let (start, rest) ← readGroupStart? m.flags rest
    some (← m.open? start, rest)
  | ')' => m.close?.map (·, rest)
  | '|' => some ({ m with seq := m.seq.nextAlternative }, rest)
  | '[' =>
    (readBracket? m.flags rest).map fun (cls, rest) =>
      ({ m with seq := m.seq.push ⟨.chars cls.value, cls.depth⟩ }, rest)
  | '?' => (m.repeatLast? 0 (some 1)).map (·, skipLazy rest)
  | '*' => (m.repeatLast? 0 none).map (·, skipLazy rest)
  | '+' => (m.repeatLast? 1 none).map (·, skipLazy rest)
  | '{' => do
    let ((min, max), rest) ← readBounds? m.flags rest
    some (← m.repeatLast? min max, skipLazy (m.flags.skip rest))
  | '.' => m.flags.dot?.map fun dot => (m.push dot, rest)
  | '^' => some (m.push (.assertion m.flags.start), rest)
  | '$' => some (m.push (.assertion m.flags.stop), rest)
  | '\\' => (readEscape? m.flags rest).map fun (p, rest) => (m.push (p.toExpr m.flags), rest)
  | c => some (m.push (m.flags.literal c), rest)

/-- Run the machine to the end of the text, where no group may be open. -/
def Machine.run? : Nat → Machine → List Char → Option (Nested Expr)
  | 0, _, _ => none
  | fuel + 1, m, s =>
    match m.flags.skip s with
    | [] => if m.groups.isEmpty then some m.seq.toExpr else none
    | c :: rest => (m.step? c rest).bind fun (m, rest) => run? fuel m rest

/-- Why a text is not accepted as a pattern. -/
inductive Fault where
  /-- It is not written like one, or too much is nested in it. -/
  | malformed
  /-- It stands for a pattern of more than `maxSize`. -/
  | tooLarge
deriving DecidableEq

/-- Read a pattern. Each step takes at least one character, and the last finds none. -/
def compile (source : String) : Except Fault Regex :=
  match Machine.run? (source.toList.length + 1) {} source.toList with
  | none => .error .malformed
  | some expr =>
    if maxDepth < expr.depth then .error .malformed
    else if maxSize < frameSize + expr.value.size then .error .tooLarge
    else .ok { source, expr := expr.value }

end Tagdown.Regex
