import TableAtlas.Text.Digits

/-!
# Binary numbers

A number with a fraction or an exponent is kept as the nearest number with at most 53 binary
digits, none of them below the place of 2⁻¹⁰⁷⁴; of two that are as near, the one with the even
last digit. A number is then a whole number of units of 2⁻¹⁰⁷⁴ with a sign, which zero has as
well. Beyond the greatest such number lies infinity.
-/

namespace TableAtlas

open Text

/-- The whole number nearest to a quotient, of two the even one. -/
def roundDiv (num den : Nat) : Nat :=
  if den < 2 * (num % den) ∨ 2 * (num % den) = den ∧ num / den % 2 = 1 then num / den + 1
  else num / den

/-- Rounding moves a quotient by half a unit at most. -/
theorem roundDiv_bounds (num : Nat) {den : Nat} (h : 0 < den) :
    2 * num ≤ 2 * (den * roundDiv num den) + den ∧
      2 * (den * roundDiv num den) ≤ 2 * num + den := by
  have hnum := Nat.div_add_mod num den
  have hrest := Nat.mod_lt num h
  unfold roundDiv
  split
  · rw [Nat.mul_succ]
    omega
  · omega

inductive Binary64 where
  | finite (negative : Bool) (units : Nat)
  | infinite (negative : Bool)
  | undefined
  deriving DecidableEq

namespace Binary64

def unitsPerOne : Nat := Nat.pow 2 1074

/-- Infinity begins where 2¹⁰²⁴ is reached. -/
def infinityUnits : Nat := Nat.pow 2 2098

/-- The number nearest to a quotient. The step between its neighbours is the place of the last
of 53 digits, but no less than a unit. -/
def ofQuotient (negative : Bool) (num den : Nat) : Binary64 :=
  let step := Nat.pow 2 ((num * unitsPerOne / den).log2 - 52)
  let units := roundDiv (num * unitsPerOne) (den * step) * step
  if infinityUnits ≤ units then .infinite negative else .finite negative units

/-- The number nearest to `digits` times a power of ten. Powers that lead out of the range on
either side are not worked out. -/
def ofScientific (negative : Bool) (digits : Nat) (power : Int) : Binary64 :=
  let size : Int := (decimal digits).length + power
  if digits = 0 ∨ size < -330 then .finite negative 0
  else if 310 < size then .infinite negative
  else if 0 ≤ power then ofQuotient negative (digits * Nat.pow 10 power.toNat) 1
  else ofQuotient negative digits (Nat.pow 10 (-power).toNat)

def signed (negative : Bool) (n : Nat) : Int := if negative then -n else n

/-- Both zeros are the same, and what is undefined is not even the same as itself. -/
def equals : Binary64 → Binary64 → Bool
  | finite a m, finite b n => signed a m = signed b n
  | infinite a, infinite b => a = b
  | _, _ => false

def wholeNumber? : Binary64 → Option Int
  | finite negative units =>
    if units % unitsPerOne = 0 then some (signed negative (units / unitsPerOne)) else none
  | infinite _ | undefined => none

end Binary64

end TableAtlas
