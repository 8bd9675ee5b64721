/-!
# Reading bytes as UTF-8

`decode` reads a sequence of bytes as text, or tells where the first fault is. A fault names
the offset of the sequence that cannot be read, and how many bytes of it could still have
begun a character; a sequence that is cut off by the end of the input has no such number.
-/

namespace Tagdown.Utf8

/-- Why a sequence of bytes is not UTF-8. -/
inductive Fault where
  /-- The `length` bytes at `index` begin no character. -/
  | invalid (index length : Nat)
  /-- The input ends inside the character that begins at `index`. -/
  | incomplete (index : Nat)
deriving DecidableEq

/-- The text of a fault. -/
def Fault.message : Fault → String
  | invalid index length =>
    "invalid utf-8 sequence of " ++ toString length ++ " bytes from index " ++ toString index
  | incomplete index => "incomplete utf-8 byte sequence from index " ++ toString index

/-- A byte that continues a character. -/
def isContinuation (b : UInt8) : Bool :=
  0x80 ≤ b && b ≤ 0xBF

/-- The bytes that may follow the first byte of a character of three or four bytes. The bounds
leave out the surrogates, the codes past the last one, and longer forms than needed. -/
def isSecond (first second : UInt8) : Bool :=
  if first = 0xE0 then 0xA0 ≤ second && second ≤ 0xBF
  else if first = 0xED then 0x80 ≤ second && second ≤ 0x9F
  else if first = 0xF0 then 0x90 ≤ second && second ≤ 0xBF
  else if first = 0xF4 then 0x80 ≤ second && second ≤ 0x8F
  else isContinuation second

/-- How many bytes a character with this first byte has, if one can begin with it. -/
def width? (first : UInt8) : Option Nat :=
  if first < 0x80 then some 1
  else if 0xC2 ≤ first && first ≤ 0xDF then some 2
  else if 0xE0 ≤ first && first ≤ 0xEF then some 3
  else if 0xF0 ≤ first && first ≤ 0xF4 then some 4
  else none

/-- The six low bits of a continuation byte. -/
def payload (b : UInt8) : Nat :=
  b.toNat % 64

/-- Decode the bytes that stand at `index`. -/
def decodeFrom (index : Nat) : List UInt8 → Except Fault (List Char)
  | [] => .ok []
  | b₁ :: rest =>
    match width? b₁ with
    | none => .error (.invalid index 1)
    | some 1 => (decodeFrom (index + 1) rest).map (Char.ofNat b₁.toNat :: ·)
    | some 2 =>
      match rest with
      | [] => .error (.incomplete index)
      | b₂ :: rest =>
        if isContinuation b₂ then
          (decodeFrom (index + 2) rest).map
            (Char.ofNat ((b₁.toNat % 32) * 64 + payload b₂) :: ·)
        else .error (.invalid index 1)
    | some 3 =>
      match rest with
      | [] => .error (.incomplete index)
      | b₂ :: rest =>
        if isSecond b₁ b₂ then
          match rest with
          | [] => .error (.incomplete index)
          | b₃ :: rest =>
            if isContinuation b₃ then
              (decodeFrom (index + 3) rest).map
                (Char.ofNat (((b₁.toNat % 16) * 64 + payload b₂) * 64 + payload b₃) :: ·)
            else .error (.invalid index 2)
        else .error (.invalid index 1)
    | some _ =>
      match rest with
      | [] => .error (.incomplete index)
      | b₂ :: rest =>
        if isSecond b₁ b₂ then
          match rest with
          | [] => .error (.incomplete index)
          | b₃ :: rest =>
            if isContinuation b₃ then
              match rest with
              | [] => .error (.incomplete index)
              | b₄ :: rest =>
                if isContinuation b₄ then
                  (decodeFrom (index + 4) rest).map
                    (Char.ofNat ((((b₁.toNat % 8) * 64 + payload b₂) * 64 + payload b₃) * 64
                      + payload b₄) :: ·)
                else .error (.invalid index 3)
            else .error (.invalid index 2)
        else .error (.invalid index 1)

/-- Read bytes as text. -/
def decode (bytes : List UInt8) : Except Fault String :=
  (decodeFrom 0 bytes).map String.ofList

end Tagdown.Utf8
