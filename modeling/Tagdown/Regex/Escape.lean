import Tagdown.Regex.Expr
import Tagdown.Regex.Property

/-!
# Flags and escapes

The parts of a pattern that mean the same inside and outside of brackets. `Flags` are the
switches in force at a place of the pattern. `Primitive` is what one character or one escape
stands for, and `readEscape?` reads what follows a backslash.

A reader takes the rest of the pattern and gives back what is left of it; `none` means that
the pattern is not valid.
-/

namespace Tagdown.Regex

open Text (isAsciiLetter isAsciiDigit isWhitespace hexValue? digitsValue scalar?)

/-- The switches in force at a place of a pattern. -/
structure Flags where
  ignoreCase : Bool := false
  multiLine : Bool := false
  dotMatchesNewline : Bool := false
  crlf : Bool := false
  unicode : Bool := true
  verbose : Bool := false

/-- What a character or an escape stands for. -/
inductive Primitive where
  | literal (c : Char)
  | named (cls : CharClass)
  | assertion (a : Assertion)

/-- Pass over white space, and over comments from a `#` to the end of the line. -/
def skipIgnored (inComment : Bool) : List Char → List Char
  | [] => []
  | c :: rest =>
    if inComment then skipIgnored (c != '\n') rest
    else if isWhitespace c then skipIgnored false rest
    else if c = '#' then skipIgnored true rest
    else c :: rest

/-- Pass over what the verbose flag makes insignificant. -/
def Flags.skip (flags : Flags) (s : List Char) : List Char :=
  if flags.verbose then skipIgnored false s else s

theorem length_skipIgnored_le (inComment : Bool) (s : List Char) :
    (skipIgnored inComment s).length ≤ s.length := by
  induction s generalizing inComment with
  | nil => simp [skipIgnored]
  | cons c rest ih =>
    rw [skipIgnored]
    by_cases hcomment : inComment = true
    · rw [if_pos hcomment]
      exact Nat.le_succ_of_le (ih _)
    · rw [if_neg hcomment]
      by_cases hblank : isWhitespace c = true
      · rw [if_pos hblank]
        exact Nat.le_succ_of_le (ih _)
      · rw [if_neg hblank]
        by_cases hmark : c = '#'
        · rw [if_pos hmark]
          exact Nat.le_succ_of_le (ih _)
        · exact Nat.le_of_eq (by rw [if_neg hmark])

/-- What is left of a text is no longer than the text. -/
theorem Flags.length_skip_le (flags : Flags) (s : List Char) :
    (flags.skip s).length ≤ s.length := by
  unfold Flags.skip
  split
  · exact length_skipIgnored_le _ _
  · exact Nat.le_refl _

/-- The ASCII characters that may be escaped to stand for themselves: all but letters, digits
and the angle brackets. -/
def isEscapable (c : Char) : Bool :=
  c.toNat < 0x80 && !isAsciiLetter c && !isAsciiDigit c && c != '<' && c != '>'

/-- The characters from the head on that satisfy `p`, without what the flags pass over. -/
def Flags.takeWhile (flags : Flags) (p : Char → Bool) : List Char → List Char × List Char
  | [] => ([], [])
  | c :: rest =>
    if p c then
      let (taken, rest) := flags.takeWhile p (flags.skip rest)
      (c :: taken, rest)
    else ([], c :: rest)
termination_by s => s.length
decreasing_by exact Nat.lt_succ_of_le (flags.length_skip_le _)

/-- The next `n` characters, without what the flags pass over. -/
def Flags.take? (flags : Flags) : Nat → List Char → Option (List Char × List Char)
  | 0, s => some ([], s)
  | n + 1, s =>
    match flags.skip s with
    | [] => none
    | c :: rest => (flags.take? n rest).map fun (taken, rest) => (c :: taken, rest)

/-- What stands in braces, after the opening one. -/
def Flags.braced? (flags : Flags) (s : List Char) : Option (List Char × List Char) :=
  match flags.takeWhile (· != '}') (flags.skip s) with
  | (inside, '}' :: rest) => some (inside, rest)
  | _ => none

/-! ## Codes -/

/-- The character whose code is written by the hexadecimal digits. -/
def charOfDigits? (digits : List Char) : Option Char :=
  match digits.mapM hexValue? with
  | some (d :: ds) => scalar? (digitsValue 16 (d :: ds))
  | _ => none

/-- A code in braces, or one of exactly `width` digits. Without Unicode, a code of two digits is
that of a byte, and a byte beyond ASCII is no character. -/
def readHex? (flags : Flags) (width : Nat) (s : List Char) : Option (Char × List Char) :=
  match flags.skip s with
  | '{' :: rest => do
    let (digits, rest) ← flags.braced? rest
    (charOfDigits? digits).map (·, rest)
  | s => do
    let (digits, rest) ← flags.take? width s
    let c ← charOfDigits? digits
    if width = 2 && !flags.unicode && 0x80 ≤ c.toNat then none else some (c, rest)

/-! ## Classes -/

/-- Under the flag, a class has all the variants in case of its characters. -/
def Flags.fold (flags : Flags) (cls : CharClass) : CharClass :=
  if flags.ignoreCase then
    if flags.unicode then .ignoringCase cls else .ignoringAsciiCase cls
  else cls

/-- A class that has all the other characters. Without Unicode these would include bytes that
are no characters, and the pattern is refused. -/
def Flags.negated? (flags : Flags) (cls : CharClass) : Option CharClass :=
  if flags.unicode then some (.compl cls) else none

/-- A class with the variants in case that the flags ask for, or all the characters that are not
even among these. -/
def Flags.foldOrNegate? (flags : Flags) (negated : Bool) (cls : CharClass) : Option CharClass :=
  if negated then flags.negated? (flags.fold cls) else some (flags.fold cls)

/-- A class by property, after the letter that begins it: the property in braces, or by one
letter alone. There is no such class without Unicode. -/
def readProperty? (flags : Flags) (negated : Bool) (s : List Char) :
    Option (CharClass × List Char) := do
  let (query, rest) ←
    match flags.skip s with
    | [] => none
    | '{' :: rest => flags.braced? rest
    | c :: rest => some ([c], rest)
  let set ← property? query
  if flags.unicode then (flags.foldOrNegate? negated (.property set)).map (·, rest) else none

/-- The digits, within ASCII if the flags say so. -/
def Flags.digit (flags : Flags) : CharClass :=
  if flags.unicode then .digit else .range '0' '9'

/-- The white space, within ASCII if the flags say so. -/
def Flags.space (flags : Flags) : CharClass :=
  if flags.unicode then .space else .ofRanges [('\t', '\x0d'), (' ', ' ')]

/-- The characters of words, within ASCII if the flags say so. -/
def Flags.word (flags : Flags) : CharClass :=
  if flags.unicode then .word
  else .ofRanges [('0', '9'), ('A', 'Z'), ('_', '_'), ('a', 'z')]

/-- The boundaries of words that a name in braces stands for. -/
def specialBoundary? (ascii : Bool) (name : String) : Option Assertion :=
  match name with
  | "start" => some (.wordStart ascii)
  | "end" => some (.wordEnd ascii)
  | "start-half" => some (.wordStartHalf ascii)
  | "end-half" => some (.wordEndHalf ascii)
  | _ => none

/-- A boundary of a word. A brace with a name after it says which one; with anything else in
it, the brace is not part of the escape. -/
def readBoundary? (flags : Flags) (s : List Char) : Option (Primitive × List Char) :=
  let ascii := !flags.unicode
  let isNameChar (c : Char) : Bool := isAsciiLetter c || c == '-'
  match s with
  | '{' :: rest =>
    match flags.skip rest with
    | [] => none
    | c :: rest =>
      if isNameChar c then
        match flags.takeWhile isNameChar (c :: rest) with
        | (name, '}' :: rest) =>
          (specialBoundary? ascii (String.ofList name)).map fun a => (.assertion a, rest)
        | _ => none
      else some (.assertion (.wordBoundary ascii), s)
  | s => some (.assertion (.wordBoundary ascii), s)

/-- Read an escape after its backslash. References back to a group are not supported, and so
no digit can follow. -/
def readEscape? (flags : Flags) (s : List Char) : Option (Primitive × List Char) :=
  let ascii := !flags.unicode
  match s with
  | [] => none
  | c :: rest =>
    match c with
    | 'x' => (readHex? flags 2 rest).map fun (c, rest) => (.literal c, rest)
    | 'u' => (readHex? flags 4 rest).map fun (c, rest) => (.literal c, rest)
    | 'U' => (readHex? flags 8 rest).map fun (c, rest) => (.literal c, rest)
    | 'p' => (readProperty? flags false rest).map fun (cls, rest) => (.named cls, rest)
    | 'P' => (readProperty? flags true rest).map fun (cls, rest) => (.named cls, rest)
    | 'd' => some (.named flags.digit, rest)
    | 's' => some (.named flags.space, rest)
    | 'w' => some (.named flags.word, rest)
    | 'D' => (flags.negated? flags.digit).map (.named ·, rest)
    | 'S' => (flags.negated? flags.space).map (.named ·, rest)
    | 'W' => (flags.negated? flags.word).map (.named ·, rest)
    | 'a' => some (.literal '\x07', rest)
    | 'f' => some (.literal '\x0c', rest)
    | 't' => some (.literal '\t', rest)
    | 'n' => some (.literal '\n', rest)
    | 'r' => some (.literal '\r', rest)
    | 'v' => some (.literal '\x0b', rest)
    | 'A' => some (.assertion .textStart, rest)
    | 'z' => some (.assertion .textEnd, rest)
    | 'b' => readBoundary? flags rest
    | 'B' => some (.assertion (.notWordBoundary ascii), rest)
    | '<' => some (.assertion (.wordStart ascii), rest)
    | '>' => some (.assertion (.wordEnd ascii), rest)
    | c => if isEscapable c then some (.literal c, rest) else none

end Tagdown.Regex
