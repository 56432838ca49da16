import TableAtlas.Dump.Name
import TableAtlas.Schema

/-!
# Table blocks

A statement is cut into the table's name, the column list between the first opening
parenthesis and the one that balances it, and the table options behind.
-/

namespace TableAtlas.Dump

open Text

/-- Index of the first closing parenthesis that brings the depth to zero. The depth is that
before the characters given, the first of which has the index `index`. -/
def closingFrom? (depth : Int) (index : Nat) : List Char → Option Nat
  | [] => none
  | c :: cs =>
    if c = '(' then closingFrom? (depth + 1) (index + 1) cs
    else if c = ')' then
      if depth = 1 then some index else closingFrom? (depth - 1) (index + 1) cs
    else closingFrom? depth (index + 1) cs

/-- Index of the first closing parenthesis that balances the text from `start` on. -/
def closing? (s : List Char) (start : Nat) : Option Nat :=
  closingFrom? 0 start (s.drop start)

structure Block where
  name : List Char
  body : List Char
  trailing : List Char
  deriving DecidableEq

def Block.ofStatement (s : List Char) : Except SkipReason Block :=
  match tableName? s with
  | none => .error .missingName
  | some name =>
    match s.idxOf? '(' with
    | none => .error .missingBody
    | some start =>
      match closing? s start with
      | none => .error .unbalancedBody
      | some stop =>
        .ok ⟨name, (s.drop (start + 1)).take (stop - (start + 1)), s.drop (stop + 1)⟩

end TableAtlas.Dump
