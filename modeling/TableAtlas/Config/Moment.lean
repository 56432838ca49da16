import TableAtlas.Text.Digits

/-!
# Dates and times

A moment is a date, a time of day, or a date with a time. A date with a time may say how far
its clock is ahead of universal time. It then stands for a point in time, and two of them are
the same moment if those points are one, whatever their clocks show.
-/

namespace TableAtlas.Config

open Text

structure Date where
  year : Nat
  month : Nat
  day : Nat
  deriving DecidableEq

namespace Date

def isLeapYear (year : Nat) : Bool := year % 4 = 0 && (year % 100 ≠ 0 || year % 400 = 0)

def daysInMonth (year month : Nat) : Nat :=
  match month with
  | 2 => if isLeapYear year then 29 else 28
  | 4 | 6 | 9 | 11 => 30
  | _ => 31

/-- Whether a date exists in the calendar, which has no year zero. -/
def isReal (d : Date) : Bool := 1 ≤ d.year && d.day ≤ daysInMonth d.year d.month

/-- How many days of the calendar lie before a date. -/
def daysBefore (d : Date) : Nat :=
  let years := d.year - 1
  let leapDays := years / 4 - years / 100 + years / 400
  (List.range' 1 (d.month - 1)).foldl (fun n month => n + daysInMonth d.year month)
    (365 * years + leapDays + (d.day - 1))

def text (d : Date) : List Char :=
  paddedDecimal 4 d.year ++ '-' :: paddedDecimal 2 d.month ++ '-' :: paddedDecimal 2 d.day

end Date

structure TimeOfDay where
  hour : Nat
  minute : Nat
  second : Nat
  microsecond : Nat
  deriving DecidableEq

namespace TimeOfDay

def seconds (t : TimeOfDay) : Nat := 3600 * t.hour + 60 * t.minute + t.second

/-- A time without microseconds is shown without a fraction, any other with six places. -/
def text (t : TimeOfDay) : List Char :=
  paddedDecimal 2 t.hour ++ ':' :: paddedDecimal 2 t.minute ++ ':' :: paddedDecimal 2 t.second ++
    if t.microsecond = 0 then [] else '.' :: paddedDecimal 6 t.microsecond

end TimeOfDay

inductive Moment where
  | date (d : Date)
  | time (t : TimeOfDay)
  /-- The clock is `ahead` minutes ahead of universal time. -/
  | dateTime (d : Date) (t : TimeOfDay) (ahead : Option Int)
  deriving DecidableEq

namespace Moment

/-- The seconds of universal time from the beginning of the calendar. -/
def universalSeconds (d : Date) (t : TimeOfDay) (ahead : Int) : Int :=
  86400 * d.daysBefore + t.seconds - 60 * ahead

def isSame : Moment → Moment → Bool
  | dateTime d t (some a), dateTime e u (some b) =>
    universalSeconds d t a = universalSeconds e u b && t.microsecond = u.microsecond
  | m, n => m = n

def offsetText (ahead : Int) : List Char :=
  (if ahead < 0 then '-' else '+') ::
    (paddedDecimal 2 (ahead.natAbs / 60) ++ ':' :: paddedDecimal 2 (ahead.natAbs % 60))

def text : Moment → String
  | date d => String.ofList d.text
  | time t => String.ofList t.text
  | dateTime d t ahead =>
    String.ofList (d.text ++ ' ' :: t.text ++ (ahead.map offsetText).getD [])

end Moment

end TableAtlas.Config
