import TableAtlas.Config.Moment
import TableAtlas.Number.Shortest

/-!
# Configuration values

Settings come as a tree of values. The tree says nothing about which settings there are; what a
setting may be is decided where it is used.
-/

namespace TableAtlas.Config

open Text

inductive Value where
  | nothing
  | flag (b : Bool)
  | integer (n : Int)
  | decimal (x : Binary64)
  | moment (m : Moment)
  | text (s : String)
  | list (xs : List Value)
  | group (entries : List (String × Value))
  deriving Inhabited

abbrev Entries := List (String × Value)

namespace Value

def isText (s : String) : Value → Bool
  | text t => t == s
  | _ => false

/-- Lists and groups hold others and are no members of sets. -/
def isScalar : Value → Bool
  | list _ | group _ => false
  | _ => true

/-- The whole number that a value equals. A flag counts as 0 or 1. -/
def wholeNumber? : Value → Option Int
  | integer n => some n
  | flag b => some (if b then 1 else 0)
  | decimal x => x.wholeNumber?
  | _ => none

/-- Whether two scalars are one member of a set. -/
def sameMember (v w : Value) : Bool :=
  match v, w with
  | nothing, nothing => true
  | text s, text t => s == t
  | decimal x, decimal y => x.equals y
  | moment m, moment n => m.isSame n
  | v, w =>
    match v.wholeNumber?, w.wholeNumber? with
    | some m, some n => m == n
    | _, _ => false

/-- What a value yields when it is gone through: the members of a list, the characters of a
text, the names in a group. -/
def members? : Value → Option (List Value)
  | list xs => some xs
  | text s => some (s.toList.map fun c => text (String.singleton c))
  | group entries => some (entries.map fun e => text e.1)
  | _ => none

/-- A scalar as text. -/
def shown : Value → String
  | nothing => "None"
  | flag b => if b then "True" else "False"
  | integer n => String.ofList (signedDecimal n)
  | decimal x => x.text
  | moment m => m.text
  | text s => s
  | list _ | group _ => ""

theorem isText_iff {v : Value} {s : String} : v.isText s = true ↔ v = text s := by
  cases v <;> simp [isText]

end Value

end TableAtlas.Config
