/-!
# Classes of characters

The two notions of white space that a conversion tells apart, and letters regardless of case.

* `isWhitespace` is the Unicode property White_Space. It decides what is blank and what is
  trimmed from Markdown.
* `isCollapsible` leaves out the no-break space, which is content to an HTML document.
* Tags, attribute names and options are compared with `asciiLower`, which changes the letters
  `A` to `Z` and nothing else.

The lists of characters here are the working form of text; `mapChars` carries a function on
them over to `String`.
-/

namespace Tagdown.Text

/-- The characters with the Unicode property White_Space. -/
def isWhitespace (c : Char) : Bool :=
  let n := c.toNat
  (0x09 ≤ n && n ≤ 0x0D) || n == 0x20 || n == 0x85 || n == 0xA0 || n == 0x1680
    || (0x2000 ≤ n && n ≤ 0x200A) || n == 0x2028 || n == 0x2029 || n == 0x202F
    || n == 0x205F || n == 0x3000

/-- The no-break space, U+00A0. -/
def noBreakSpace : Char := Char.ofNat 0xA0

/-- White space that a browser runs together: all but the no-break space. -/
def isCollapsible (c : Char) : Bool :=
  isWhitespace c && c != noBreakSpace

/-- All that is collapsed is white space; the no-break space is white space too and is not
collapsed. -/
theorem isWhitespace_of_isCollapsible {c : Char} (h : isCollapsible c = true) :
    isWhitespace c = true :=
  (Bool.and_eq_true_iff.1 h).1

/-- A function on lists of characters, applied to a string. -/
def mapChars (f : List Char → List Char) (s : String) : String :=
  String.ofList (f s.toList)

@[simp] theorem toList_mapChars (f : List Char → List Char) (s : String) :
    (mapChars f s).toList = f s.toList := by
  simp [mapChars]

/-! ## Trimming -/

/-- Drop the characters that satisfy `p` from the start. -/
def trimStartWhile (p : Char → Bool) (s : List Char) : List Char :=
  s.dropWhile p

/-- Drop the characters that satisfy `p` from the end. -/
def trimEndWhile (p : Char → Bool) (s : List Char) : List Char :=
  (s.reverse.dropWhile p).reverse

/-- Drop white space from both ends. -/
def trim (s : List Char) : List Char :=
  trimEndWhile isWhitespace (trimStartWhile isWhitespace s)

/-- No character but white space. -/
def isBlank (s : List Char) : Bool :=
  s.all isWhitespace

/-- A text of nothing but collapsible characters is blank. -/
theorem isBlank_of_all {s : List Char} (hs : s.all isCollapsible = true) : isBlank s = true :=
  List.all_eq_true.2 fun c hc => isWhitespace_of_isCollapsible (List.all_eq_true.1 hs c hc)

/-! ## ASCII letters -/

/-- A letter `A` to `Z` in lower case; any other character as it is. -/
def asciiLowerChar (c : Char) : Char :=
  if 'A' ≤ c && c ≤ 'Z' then Char.ofNat (c.toNat + 32) else c

/-- The letters `A` to `Z` in lower case, and all else unchanged. -/
def asciiLower (s : String) : String :=
  mapChars (·.map asciiLowerChar) s

/-- Equal up to the case of the letters `A` to `Z`. -/
def eqIgnoringCase (s t : String) : Bool :=
  asciiLower s == asciiLower t

/-- A code that is one of a character is the code of that character. -/
theorem toNat_ofNat {n : Nat} (h : n.isValidChar) : (Char.ofNat n).toNat = n := by
  rw [Char.ofNat, dif_pos h]
  rfl

/-- A letter in lower case is not put into lower case once more. -/
theorem asciiLowerChar_asciiLowerChar (c : Char) :
    asciiLowerChar (asciiLowerChar c) = asciiLowerChar c := by
  by_cases h : ('A' ≤ c && c ≤ 'Z') = true
  · have bounds : 65 ≤ c.toNat ∧ c.toNat ≤ 90 := by
      rw [Bool.and_eq_true, decide_eq_true_iff, decide_eq_true_iff] at h
      exact h
    have code : (Char.ofNat (c.toNat + 32)).toNat = c.toNat + 32 :=
      toNat_ofNat (Or.inl (by omega))
    have beyond : ¬ Char.ofNat (c.toNat + 32) ≤ 'Z' := by
      show ¬ (Char.ofNat (c.toNat + 32)).toNat ≤ 90
      omega
    simp [asciiLowerChar, h, beyond]
  · simp [asciiLowerChar, h]

/-- What is in lower case is left as it is. -/
@[simp] theorem asciiLower_asciiLower (s : String) : asciiLower (asciiLower s) = asciiLower s := by
  simp [asciiLower, mapChars, Function.comp_def, asciiLowerChar_asciiLowerChar]

/-- To compare without regard to case is to compare in lower case. -/
theorem eqIgnoringCase_iff {s t : String} :
    eqIgnoringCase s t = true ↔ asciiLower s = asciiLower t :=
  beq_iff_eq

/-- The digits `0` to `9`. -/
def isAsciiDigit (c : Char) : Bool :=
  '0' ≤ c && c ≤ '9'

/-- The letters `a` to `z` and `A` to `Z`. -/
def isAsciiLetter (c : Char) : Bool :=
  ('a' ≤ c && c ≤ 'z') || ('A' ≤ c && c ≤ 'Z')

/-- The value of a hexadecimal digit in either case. -/
def hexValue? (c : Char) : Option Nat :=
  if isAsciiDigit c then some (c.toNat - '0'.toNat)
  else if 'a' ≤ c && c ≤ 'f' then some (c.toNat - 'a'.toNat + 10)
  else if 'A' ≤ c && c ≤ 'F' then some (c.toNat - 'A'.toNat + 10)
  else none

/-- The value of digits in the given base, most significant first. -/
def digitsValue (base : Nat) (digits : List Nat) : Nat :=
  digits.foldl (fun n d => n * base + d) 0

/-- The character with this code, if the code is a Unicode scalar value. -/
def scalar? (n : Nat) : Option Char :=
  if n < 0xD800 || (0xDFFF < n && n < 0x110000) then some (Char.ofNat n) else none

end Tagdown.Text
