import TableAtlas.Json.Basic

/-!
# Reading JSON

Values are read in any of the spellings that JSON admits: with spaces between their parts, and
with every escape in strings, where a character beyond the 16-bit range may also be written as
a pair of surrogates. A surrogate without its partner is no character, and numbers are whole
here: a text with either of another kind is refused. A reader takes a text and returns what it
has read with the text behind it, and refuses with `none`.
-/

namespace TableAtlas.Json

open Text

/-- Spaces and line breaks as they may stand between the parts of a value. -/
def isWhitespace (c : Char) : Bool := c = ' ' || c = '\t' || c = '\n' || c = '\r'

def skipSpaces (s : List Char) : List Char := s.dropWhile isWhitespace

section Strings

/-- What a letter behind a backslash stands for. -/
def shortEscape? (c : Char) : Option Char :=
  match c with
  | '"' => some '"'
  | '\\' => some '\\'
  | '/' => some '/'
  | 'b' => some '\x08'
  | 'f' => some '\x0c'
  | 'n' => some '\n'
  | 'r' => some '\r'
  | 't' => some '\t'
  | _ => none

/-- The codes in a string up to the quote that closes it. An escape stands for one code of 16
bits, any other character for its own code. -/
def codes? : List Char → Option (List Nat × List Char)
  | [] => none
  | '"' :: s => some ([], s)
  | '\\' :: 'u' :: a :: b :: c :: d :: s =>
    (hexValue? [a, b, c, d]).bind fun n => (codes? s).map fun r => (n :: r.1, r.2)
  | '\\' :: e :: s =>
    (shortEscape? e).bind fun c => (codes? s).map fun r => (c.toNat :: r.1, r.2)
  | c :: s =>
    if c.toNat < 0x20 || c = '\\' then none else (codes? s).map fun r => (c.toNat :: r.1, r.2)

def isHighSurrogate (n : Nat) : Bool := 0xd800 ≤ n && n < 0xdc00

def isLowSurrogate (n : Nat) : Bool := 0xdc00 ≤ n && n < 0xe000

/-- The character that is written as a pair of surrogates. -/
def pairedChar (high low : Nat) : Char :=
  Char.ofNat (0x10000 + (high - 0xd800) * 0x400 + (low - 0xdc00))

/-- The characters with the given codes, where surrogates stand in pairs. -/
def chars? : List Nat → Option (List Char)
  | [] => some []
  | [n] => if n.isValidChar then some [Char.ofNat n] else none
  | n :: m :: ns =>
    if isHighSurrogate n && isLowSurrogate m then (chars? ns).map (pairedChar n m :: ·)
    else if n.isValidChar then (chars? (m :: ns)).map (Char.ofNat n :: ·)
    else none

/-- The rest of a string behind the quote that opens it. -/
def stringBody? (s : List Char) : Option (String × List Char) :=
  (codes? s).bind fun r => (chars? r.1).map fun cs => (String.ofList cs, r.2)

end Strings

section Numbers

/-- A number without a sign. It has no zeros in front: its digits are those of its value. -/
def natural? (s : List Char) : Option (Nat × List Char) :=
  let digits := s.takeWhile Char.isDigit
  let n := Nat.ofDigitChars 10 digits 0
  if decimal n = digits then some (n, s.dropWhile Char.isDigit) else none

def whole? : List Char → Option (Int × List Char)
  | '-' :: s => (natural? s).map fun r => (-(r.1 : Int), r.2)
  | s => (natural? s).map fun r => ((r.1 : Int), r.2)

end Numbers

theorem length_skipSpaces_le (s : List Char) : (skipSpaces s).length ≤ s.length :=
  (List.dropWhile_sublist _).length_le

/-- The name of a field with the colon behind it. -/
def fieldName? (s : List Char) : Option (String × List Char) :=
  match skipSpaces s with
  | '"' :: body =>
    (stringBody? body).bind fun r =>
      match skipSpaces r.2 with
      | ':' :: rest => some (r.1, rest)
      | _ => none
  | _ => none

section Values

/-! That a rest is shorter than the text it comes from is tested where the reading goes on with
it. The test always holds; it is what the recursion rests on. -/

mutual

/-- The value that begins at the front of a text. -/
def readValue? (s : List Char) : Option (Json × List Char) :=
  match s with
  | 'n' :: 'u' :: 'l' :: 'l' :: s => some (null, s)
  | 't' :: 'r' :: 'u' :: 'e' :: s => some (bool true, s)
  | 'f' :: 'a' :: 'l' :: 's' :: 'e' :: s => some (bool false, s)
  | '"' :: s => (stringBody? s).map fun r => (string r.1, r.2)
  | '[' :: s =>
    match skipSpaces s with
    | ']' :: rest => some (array [], rest)
    | _ => (readItems? s).map fun r => (array r.1, r.2)
  | '\x7b' :: s =>
    match skipSpaces s with
    | '\x7d' :: rest => some (object [], rest)
    | _ => (readFields? s).map fun r => (object r.1, r.2)
  | s => (whole? s).map fun r => (number r.1, r.2)
termination_by (s.length, 0)

/-- One or more items of an array up to the bracket that closes it. -/
def readItems? (s : List Char) : Option (List Json × List Char) :=
  match readValue? (skipSpaces s) with
  | none => none
  | some (x, rest) =>
    match skipSpaces rest with
    | ']' :: rest => some ([x], rest)
    | ',' :: more =>
      if more.length < s.length then (readItems? more).map fun r => (x :: r.1, r.2) else none
    | _ => none
termination_by (s.length, 1)
decreasing_by
  · have := length_skipSpaces_le s
    simp only [Prod.lex_def]
    omega
  · simp only [Prod.lex_def]
    omega

/-- One or more fields of an object up to the brace that closes it. -/
def readFields? (s : List Char) : Option (List (String × Json) × List Char) :=
  match fieldName? s with
  | none => none
  | some (name, rest) =>
    if rest.length < s.length then
      match readValue? (skipSpaces rest) with
      | none => none
      | some (x, rest) =>
        match skipSpaces rest with
        | '\x7d' :: rest => some ([(name, x)], rest)
        | ',' :: more =>
          if more.length < s.length then (readFields? more).map fun r => ((name, x) :: r.1, r.2)
          else none
        | _ => none
    else none
termination_by (s.length, 1)
decreasing_by
  · have := length_skipSpaces_le rest
    simp only [Prod.lex_def]
    omega
  · simp only [Prod.lex_def]
    omega

end

/-- The value that a text writes, with nothing but spaces around it. -/
def read? (s : List Char) : Option Json :=
  match readValue? (skipSpaces s) with
  | none => none
  | some (x, rest) => if (skipSpaces rest).isEmpty then some x else none

end Values

end TableAtlas.Json
