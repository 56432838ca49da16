import TableAtlas.Number.Binary64

/-!
# Shortest decimals

A binary number is shown with the fewest decimal digits that are read as this number again, of
several such with the nearest. One or the other neighbour among the decimals of some length
will do if any does, and seventeen digits always do. Very great and very small numbers are
shown with an exponent.
-/

namespace TableAtlas

open Text

/-- A whole number times a power of ten. -/
structure Decimal where
  digits : Nat
  power : Int

namespace Decimal

/-- A number counted in the place of 10⁻⁴⁰⁰, where each but zero has more than seventeen digits.
It is still to be divided by `unitsPerOne`. -/
def scaled (units : Nat) : Nat := units * Nat.pow 10 400

/-- The decimals with a number of digits on both sides of a number, the nearer one first. -/
def neighbours (units digits : Nat) : List Decimal :=
  let length := (decimal (scaled units / Binary64.unitsPerOne)).length
  let den := Binary64.unitsPerOne * Nat.pow 10 (length - digits)
  let power : Int := length - digits - 400
  let below := scaled units / den
  let nearest := roundDiv (scaled units) den
  [⟨nearest, power⟩, ⟨if nearest = below then below + 1 else below, power⟩]

def reads (d : Decimal) (units : Nat) : Bool :=
  Binary64.ofScientific false d.digits d.power = .finite false units

def shortest? (units : Nat) : Option Decimal :=
  ((List.range' 1 17).flatMap (neighbours units)).find? (·.reads units)

/-- What is shown is read as the same number again. -/
theorem ofScientific_shortest? {units : Nat} {d : Decimal} (h : shortest? units = some d) :
    Binary64.ofScientific false d.digits d.power = .finite false units := by
  simpa [reads] using List.find?_some h

/-- The digits up to the last that is not zero. -/
def significant (d : Decimal) : List Char :=
  ((decimal d.digits).reverse.dropWhile (· = '0')).reverse

/-- How many digits stand before the point. -/
def point (d : Decimal) : Int := (decimal d.digits).length + d.power

def withFraction (whole fraction : List Char) : List Char :=
  whole ++ '.' :: (if fraction.isEmpty then ['0'] else fraction)

/-- An exponent of two digits at least. -/
def exponent (n : Int) : List Char :=
  'e' :: (if n < 0 then '-' else '+') :: paddedDecimal 2 n.natAbs

def text (d : Decimal) : List Char :=
  let digits := d.significant
  if d.point ≤ -4 ∨ 16 < d.point then
    let first := digits.take 1
    let more := digits.drop 1
    (if more.isEmpty then first else withFraction first more) ++ exponent (d.point - 1)
  else if d.point ≤ 0 then
    withFraction ['0'] (List.replicate d.point.natAbs '0' ++ digits)
  else
    let places := d.point.natAbs
    withFraction (digits.take places ++ List.replicate (places - digits.length) '0')
      (digits.drop places)

end Decimal

def Binary64.text : Binary64 → String
  | finite negative units =>
    let digits :=
      if units = 0 then ['0', '.', '0'] else ((Decimal.shortest? units).map Decimal.text).getD []
    String.ofList (if negative then '-' :: digits else digits)
  | infinite negative => if negative then "-inf" else "inf"
  | undefined => "nan"

end TableAtlas
