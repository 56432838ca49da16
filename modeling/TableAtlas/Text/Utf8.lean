import TableAtlas.Text.Digits

/-!
# Bytes as text

UTF-8 read byte by byte. A character is one to four bytes, and its first byte fixes the ranges
in which the others lie; surrogates, overlong forms and numbers beyond U+10FFFF have no
encoding. The fault of a bad text is the longest beginning of a character at which the reading
stops, and says whether the next byte is wrong or missing.
-/

namespace TableAtlas.Text

inductive Utf8.Reason where
  | invalidStart
  | invalidContinuation
  | unexpectedEnd
  deriving DecidableEq

/-- The bytes that cannot be read: the position of the first, the first itself, their number. -/
structure Utf8.Fault where
  position : Nat
  first : UInt8
  length : Nat
  reason : Utf8.Reason
  deriving DecidableEq

namespace Utf8

def Reason.text : Reason → String
  | .invalidStart => "invalid start byte"
  | .invalidContinuation => "invalid continuation byte"
  | .unexpectedEnd => "unexpected end of data"

/-- The wording of a fault. One byte is shown, of several only the positions. -/
def Fault.message (f : Fault) : String :=
  if f.length = 1 then
    "'utf-8' codec can't decode byte 0x" ++ String.ofList (hex 2 f.first.toNat) ++
      " in position " ++ decimalText f.position ++ ": " ++ f.reason.text
  else
    "'utf-8' codec can't decode bytes in position " ++ decimalText f.position ++ "-" ++
      decimalText (f.position + f.length - 1) ++ ": " ++ f.reason.text

/-- The payload of a first byte and the ranges of the bytes that have to follow it. -/
def firstByte? (b : UInt8) : Option (Nat × List (UInt8 × UInt8)) :=
  if b < 0x80 then some (b.toNat, [])
  else if b < 0xC2 then none
  else if b < 0xE0 then some (b.toNat - 0xC0, [(0x80, 0xBF)])
  else if b = 0xE0 then some (0x0, [(0xA0, 0xBF), (0x80, 0xBF)])
  else if b = 0xED then some (0xD, [(0x80, 0x9F), (0x80, 0xBF)])
  else if b < 0xF0 then some (b.toNat - 0xE0, [(0x80, 0xBF), (0x80, 0xBF)])
  else if b = 0xF0 then some (0x0, [(0x90, 0xBF), (0x80, 0xBF), (0x80, 0xBF)])
  else if b < 0xF4 then some (b.toNat - 0xF0, [(0x80, 0xBF), (0x80, 0xBF), (0x80, 0xBF)])
  else if b = 0xF4 then some (0x4, [(0x80, 0x8F), (0x80, 0xBF), (0x80, 0xBF)])
  else none

/-- A character of which some bytes are read: where it begins, its first byte, how many bytes
of it are read, its payload so far and the ranges of the missing bytes. -/
structure Begun where
  start : Nat
  first : UInt8
  read : Nat
  payload : Nat
  missing : List (UInt8 × UInt8)

def Begun.fault (b : Begun) (reason : Reason) : Fault := ⟨b.start, b.first, b.read, reason⟩

/-- Reads the bytes from `position` on. `done` holds the characters before them in reverse and
`begun` the character in whose midst they stand, if any. -/
def decodeFrom (position : Nat) (done : List Char) :
    Option Begun → List UInt8 → Except Fault (List Char)
  | none, [] => .ok done.reverse
  | some b, [] => .error (b.fault .unexpectedEnd)
  | none, x :: xs =>
    match firstByte? x with
    | none => .error ⟨position, x, 1, .invalidStart⟩
    | some (n, []) => decodeFrom (position + 1) (Char.ofNat n :: done) none xs
    | some (n, missing) => decodeFrom (position + 1) done (some ⟨position, x, 1, n, missing⟩) xs
  | some b, x :: xs =>
    match b.missing with
    | [] => .error (b.fault .invalidContinuation)
    | (lo, hi) :: missing =>
      if lo ≤ x ∧ x ≤ hi then
        let n := 64 * b.payload + (x.toNat - 0x80)
        if missing.isEmpty then decodeFrom (position + 1) (Char.ofNat n :: done) none xs
        else decodeFrom (position + 1) done (some ⟨b.start, b.first, b.read + 1, n, missing⟩) xs
      else .error (b.fault .invalidContinuation)

def decode (bytes : List UInt8) : Except Fault (List Char) := decodeFrom 0 [] none bytes

def encode (s : List Char) : List UInt8 := s.flatMap String.utf8EncodeChar

@[simp] theorem decode_nil : decode [] = .ok [] := rfl

end Utf8

end TableAtlas.Text
