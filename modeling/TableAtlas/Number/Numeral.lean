import TableAtlas.Text.Blank
import TableAtlas.Text.DecimalDigit
import TableAtlas.Text.Digits

/-!
# Numerals

Which texts write a number: a real number with or without fraction and exponent, the words for
infinity and for what is no number, an imaginary number, the sum of both, and a whole number to
the base 16, 8 or 2. A slice is made of two or three whole numbers with colons between them,
each of which may be left out. Digits of all scripts count. Blanks other than the information
separators may stand at the end of a number and on both sides of the numbers of a slice.
-/

namespace TableAtlas.Numeral

open Text

/-- The form in which numerals are read: digits in ASCII, and blanks beyond ASCII as spaces. -/
def plainChar (c : Char) : Char :=
  if c.toNat < 0x7f then c
  else if isBlank c then ' '
  else
    match digitValue? c with
    | some d => Nat.digitChar d
    | none => c

def isSpace (c : Char) : Bool := c ∈ [' ', '\t', '\n', '\x0b', '\x0c', '\r']

def isSpaces (s : List Char) : Bool := s.all isSpace

def afterSign (s : List Char) : List Char :=
  match s with
  | '+' :: cs | '-' :: cs => cs
  | _ => s

section Complex

/-- The text without its underscores, each of which has to stand between digits. -/
def dropUnderscores? (afterDigit : Bool) : List Char → Option (List Char)
  | [] => some []
  | ['_'] => none
  | '_' :: c :: cs =>
    if afterDigit && c.isDigit then (dropUnderscores? true cs).map (c :: ·) else none
  | c :: cs => (dropUnderscores? c.isDigit cs).map (c :: ·)

/-- The text behind a word in small letters that stands at the front in any case. -/
def afterWord? (word : String) (s : List Char) : Option (List Char) :=
  if (s.take word.length).map Char.toLower = word.toList then some (s.drop word.length) else none

/-- The text behind an exponent, if there is one. -/
def afterExponent (s : List Char) : List Char :=
  match s with
  | [] => []
  | c :: cs =>
    let rest := afterSign cs
    if (c = 'e' || c = 'E') && rest.head?.any Char.isDigit then rest.dropWhile Char.isDigit else s

/-- The text behind digits with or without a point among them. -/
def afterDecimal? (s : List Char) : Option (List Char) :=
  let rest := s.dropWhile Char.isDigit
  let hasWhole := s.head?.any Char.isDigit
  match rest with
  | '.' :: more =>
    if hasWhole || more.head?.any Char.isDigit then
      some (afterExponent (more.dropWhile Char.isDigit))
    else none
  | _ => if hasWhole then some (afterExponent rest) else none

/-- The text behind a real number. -/
def afterReal? (s : List Char) : Option (List Char) :=
  let s := afterSign s
  (afterWord? "infinity" s).or ((afterWord? "inf" s).or ((afterWord? "nan" s).or (afterDecimal? s)))

/-- Whether the imaginary unit stands at the front and blanks behind it. -/
def isUnit : List Char → Bool
  | [] => false
  | c :: cs => (c = 'j' || c = 'J') && isSpaces cs

def isSign (c : Char) : Bool := c = '+' || c = '-'

/-- Whether a text is a real or an imaginary number or the sum of both. The number before the
unit may be left out, but not its sign. -/
def isComplex (s : List Char) : Bool :=
  match afterReal? s with
  | none => s.head?.any isSign && isUnit (afterSign s)
  | some rest =>
    if rest.head?.any isSign then isUnit ((afterReal? rest).getD (afterSign rest))
    else isSpaces rest || isUnit rest

end Complex

section Whole

/-- The class of the digits that a letter behind a zero announces. -/
def radixDigit? (c : Char) : Option (Char → Bool) :=
  match c.toLower with
  | 'x' => some isHexDigit
  | 'o' => some isOctalDigit
  | 'b' => some isBinaryDigit
  | _ => none

/-- Whether a text is a whole number to another base. An underscore may stand behind the letter
that announces the base. -/
def isRadixWhole (s : List Char) : Bool :=
  match afterSign s with
  | '0' :: c :: cs =>
    let digits :=
      match cs with
      | '_' :: ds => ds
      | ds => ds
    (radixDigit? c).any fun p => (digitRun? p digits).any fun r => isSpaces r.2
  | _ => false

def isDecimalWhole (s : List Char) : Bool :=
  (digitRun? Char.isDigit (afterSign (s.dropWhile isSpace))).any fun r =>
    r.1.length ≤ maxDecimalDigits && isSpaces r.2

/-- Whether a part of a slice is left out or a whole number. Where it is left out, all blanks may
stand in its place. -/
def isSlicePart (s : List Char) : Bool := s.all isBlank || isDecimalWhole s

def isSlice (s : List Char) : Bool :=
  let parts := s.splitOn ':'
  (parts.length = 2 || parts.length = 3) && parts.all isSlicePart

end Whole

/-- Whether a text writes a number or a slice. -/
def isNumeral (s : List Char) : Bool :=
  let s := s.map plainChar
  (dropUnderscores? false s).any isComplex || isRadixWhole s || isSlice s

end TableAtlas.Numeral
