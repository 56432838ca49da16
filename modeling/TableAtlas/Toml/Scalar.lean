import TableAtlas.Config.Value
import TableAtlas.Toml.Lexical

/-!
# Scalars of TOML

Flags, dates and times, and numbers. Where two readings are possible the longer one holds: a
date may go on with a time and that with an offset, a whole number with a fraction and an
exponent.
-/

namespace TableAtlas.Toml

open Text Config

inductive Fault where
  | malformed
  | integerTooLong (digits : Nat)
  deriving DecidableEq

/-- Reads something at the front of a text and returns it with the text behind it. -/
abbrev Reader (α : Type) := List Char → Except Fault (α × List Char)

def orMalformed {α : Type} : Option α → Except Fault α
  | some a => .ok a
  | none => .error .malformed

/-- The number that exactly `width` digits write, if it lies between two bounds. -/
def fixedNumber? (width lo hi : Nat) (s : List Char) : Option (Nat × List Char) :=
  let ds := s.take width
  let n := digitsValue 10 ds
  if ds.length = width && ds.all Char.isDigit && lo ≤ n && n ≤ hi then some (n, s.drop width)
  else none

def char? (c : Char) : List Char → Option (List Char)
  | [] => none
  | d :: cs => if d = c then some cs else none

section Moments

def date? (s : List Char) : Option (Date × List Char) := do
  let (year, s) ← fixedNumber? 4 0 9999 s
  let (month, s) ← fixedNumber? 2 1 12 (← char? '-' s)
  let (day, s) ← fixedNumber? 2 1 31 (← char? '-' s)
  return (⟨year, month, day⟩, s)

/-- The first six places of the fraction of a second, or none. -/
def microseconds : List Char → Nat × List Char
  | '.' :: c :: cs =>
    let places := (c :: cs).takeWhile Char.isDigit
    if places.isEmpty then (0, '.' :: c :: cs)
    else
      (digitsValue 10 ((places ++ List.replicate 6 '0').take 6), (c :: cs).dropWhile Char.isDigit)
  | s => (0, s)

def time? (s : List Char) : Option (TimeOfDay × List Char) := do
  let (hour, s) ← fixedNumber? 2 0 23 s
  let (minute, s) ← fixedNumber? 2 0 59 (← char? ':' s)
  let (second, s) ← fixedNumber? 2 0 59 (← char? ':' s)
  let (microsecond, s) := microseconds s
  return (⟨hour, minute, second, microsecond⟩, s)

/-- An offset from universal time in minutes. -/
def offset? : List Char → Option (Int × List Char)
  | [] => none
  | c :: cs =>
    if c = 'Z' || c = 'z' then some (0, cs)
    else if c = '+' || c = '-' then do
      let (hours, s) ← fixedNumber? 2 0 23 cs
      let (minutes, s) ← fixedNumber? 2 0 59 (← char? ':' s)
      let n : Int := 60 * hours + minutes
      return (if c = '-' then -n else n, s)
    else none

/-- The text behind what stands between a date and its time. -/
def dateSeparator? : List Char → Option (List Char)
  | [] => none
  | c :: cs => if c = 'T' || c = 't' || c = ' ' then some cs else none

/-- A date with the time that may follow it, and with the offset that may follow the time. -/
def dateAndTime (d : Date) (s : List Char) : Moment × List Char :=
  match (dateSeparator? s).bind time? with
  | none => (.date d, s)
  | some (t, rest) =>
    match offset? rest with
    | none => (.dateTime d t none, rest)
    | some (ahead, rest) => (.dateTime d t (some ahead), rest)

end Moments

section Numbers

/-- A whole number behind `0x`, `0o` or `0b`. -/
def radixNumber? : List Char → Option (Nat × List Char)
  | '0' :: 'x' :: cs => (digitRun? isHexDigit cs).map fun r => (digitsValue 16 r.1, r.2)
  | '0' :: 'o' :: cs => (digitRun? isOctalDigit cs).map fun r => (digitsValue 8 r.1, r.2)
  | '0' :: 'b' :: cs => (digitRun? isBinaryDigit cs).map fun r => (digitsValue 2 r.1, r.2)
  | _ => none

/-- Whether a minus stands at the front, and the text behind the sign. -/
def signAndRest : List Char → Bool × List Char
  | '-' :: cs => (true, cs)
  | '+' :: cs => (false, cs)
  | s => (false, s)

/-- A decimal whole number without needless zeros at its front. -/
def wholePart? (s : List Char) : Option (List Char × List Char) :=
  match s with
  | '0' :: cs => some (['0'], cs)
  | _ => digitRun? Char.isDigit s

def fraction? : List Char → Option (List Char × List Char)
  | '.' :: cs => digitRun? Char.isDigit cs
  | _ => none

def exponent? : List Char → Option (Int × List Char)
  | [] => none
  | c :: cs =>
    if c = 'e' || c = 'E' then
      let (negative, rest) := signAndRest cs
      (digitRun? Char.isDigit rest).map fun r =>
        (if negative then -(digitsValue 10 r.1 : Int) else digitsValue 10 r.1, r.2)
    else none

/-- A number with a fraction or an exponent, behind its whole part. -/
def realNumber? (negative : Bool) (whole rest : List Char) : Option (Value × List Char) :=
  match fraction? rest with
  | none =>
    (exponent? rest).map fun (power, rest) =>
      (.decimal (.ofScientific negative (digitsValue 10 whole) power), rest)
  | some (places, rest) =>
    let (power, rest) := (exponent? rest).getD (0, rest)
    some (.decimal (.ofScientific negative (digitsValue 10 (whole ++ places))
      (power - places.length)), rest)

def decimalNumber? (s : List Char) : Option (Except Fault (Value × List Char)) := do
  let (negative, rest) := signAndRest s
  let (whole, rest) ← wholePart? rest
  match realNumber? negative whole rest with
  | some r => return .ok r
  | none =>
    if whole.length > maxDecimalDigits then return .error (.integerTooLong whole.length)
    else
      let n : Int := digitsValue 10 whole
      return .ok (.integer (if negative then -n else n), rest)

/-- The numbers that are written as words. -/
def specialNumbers : List (List Char × Binary64) :=
  [("inf", .infinite false), ("+inf", .infinite false), ("-inf", .infinite true),
    ("nan", .undefined), ("+nan", .undefined), ("-nan", .undefined)].map fun w =>
      (w.1.toList, w.2)

def specialNumber? (s : List Char) : Option (Value × List Char) :=
  (specialNumbers.find? (·.1.isPrefixOf s)).map fun w => (.decimal w.2, s.drop w.1.length)

end Numbers

def flag? (s : List Char) : Option (Value × List Char) :=
  if "true".toList.isPrefixOf s then some (.flag true, s.drop 4)
  else if "false".toList.isPrefixOf s then some (.flag false, s.drop 5)
  else none

/-- A scalar that is no string. -/
def scalar : Reader Value := fun s =>
  match flag? s with
  | some r => .ok r
  | none =>
    match date? s with
    | some (d, rest) =>
      if d.isReal then .ok ((dateAndTime d rest).map Value.moment id) else .error .malformed
    | none =>
      match time? s with
      | some (t, rest) => .ok (.moment (.time t), rest)
      | none =>
        match radixNumber? s with
        | some (n, rest) => .ok (.integer n, rest)
        | none =>
          match decimalNumber? s with
          | some r => r
          | none => orMalformed (specialNumber? s)

end TableAtlas.Toml
