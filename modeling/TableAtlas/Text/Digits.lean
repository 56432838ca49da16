/-!
# Digits

Numbers as text: decimal without leading zeros or filled up with them, hexadecimal in small digits
of a fixed width. Where numbers are read, single underscores may stand between digits.
-/

namespace TableAtlas.Text

def decimal (n : Nat) : List Char := Nat.toDigits 10 n

def decimalText (n : Nat) : String := String.ofList (decimal n)

def signedDecimal (n : Int) : List Char :=
  if n < 0 then '-' :: decimal n.natAbs else decimal n.natAbs

/-- Decimal digits with zeros in front, `width` of them at least. -/
def paddedDecimal (width n : Nat) : List Char :=
  List.replicate (width - (decimal n).length) '0' ++ decimal n

/-- The last `width` hexadecimal digits of a number. -/
def hex : (width : Nat) → Nat → List Char
  | 0, _ => []
  | width + 1, n => hex width (n / 16) ++ [Nat.digitChar (n % 16)]

/-- The value of a hexadecimal digit in either case. -/
def hexDigit? (c : Char) : Option Nat :=
  if '0' ≤ c ∧ c ≤ '9' then some (c.toNat - 48)
  else if 'a' ≤ c ∧ c ≤ 'f' then some (c.toNat - 87)
  else if 'A' ≤ c ∧ c ≤ 'F' then some (c.toNat - 55)
  else none

/-- The number that hexadecimal digits write, to be appended to the digits already read. -/
def hexValueFrom? (n : Nat) : List Char → Option Nat
  | [] => some n
  | c :: cs => (hexDigit? c).bind fun d => hexValueFrom? (16 * n + d) cs

def hexValue? (s : List Char) : Option Nat := hexValueFrom? 0 s

/-- Digits that go on, with single underscores between them, and the text behind. The
underscores are left out. -/
def moreDigits (p : Char → Bool) : List Char → List Char × List Char
  | [] => ([], [])
  | [c] => if p c then ([c], []) else ([], [c])
  | c :: d :: cs =>
    if p c then
      let r := moreDigits p (d :: cs)
      (c :: r.1, r.2)
    else if c = '_' && p d then
      let r := moreDigits p cs
      (d :: r.1, r.2)
    else ([], c :: d :: cs)

def digitRun? (p : Char → Bool) : List Char → Option (List Char × List Char)
  | [] => none
  | c :: cs =>
    if p c then
      let r := moreDigits p cs
      some (c :: r.1, r.2)
    else none

/-- The number that digits write to a base of at most sixteen. -/
def digitsValue (base : Nat) (ds : List Char) : Nat :=
  ds.foldl (fun n d => base * n + (hexDigit? d).getD 0) 0

/-- Whole numbers with more decimal digits are not read. -/
def maxDecimalDigits : Nat := 4300

def isOctalDigit (c : Char) : Bool := '0' ≤ c && c ≤ '7'

def isBinaryDigit (c : Char) : Bool := c = '0' || c = '1'

def isHexDigit (c : Char) : Bool := (hexDigit? c).isSome

@[simp] theorem length_hex (width n : Nat) : (hex width n).length = width := by
  induction width generalizing n with
  | zero => rfl
  | succ width ih => simp [hex, ih]

theorem hexDigit?_digitChar {d : Nat} (h : d < 16) : hexDigit? (Nat.digitChar d) = some d := by
  have : ∀ d : Fin 16, hexDigit? (Nat.digitChar d) = some d.val := by decide
  exact this ⟨d, h⟩

theorem hexValueFrom?_append (n : Nat) (s t : List Char) :
    hexValueFrom? n (s ++ t) = (hexValueFrom? n s).bind (hexValueFrom? · t) := by
  induction s generalizing n with
  | nil => rfl
  | cons c cs ih =>
    cases h : hexDigit? c <;> simp [hexValueFrom?, h, ih]

/-- Fixed-width digits read back as the number they were cut from. -/
theorem hexValue?_hex (width n : Nat) : hexValue? (hex width n) = some (n % Nat.pow 16 width) := by
  unfold hexValue?
  induction width generalizing n with
  | zero => simp [hex, hexValueFrom?, Nat.mod_one]
  | succ width ih =>
    rw [hex, hexValueFrom?_append, ih]
    simp only [Option.bind_some, hexValueFrom?, hexDigit?_digitChar (Nat.mod_lt n (by decide))]
    congr 1
    rw [show Nat.pow 16 (width + 1) = 16 * Nat.pow 16 width from Nat.mul_comm _ _, Nat.mod_mul]
    omega

end TableAtlas.Text
