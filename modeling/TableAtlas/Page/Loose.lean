import TableAtlas.Page.Diagram
import TableAtlas.Text.Quoted

/-!
# Pages from loose data

A page can also be drawn from data that only resemble a document. A field that is absent shows
nothing, is not set and has no items; a field of another kind shows as text. Two things stop
the page: a heading that needs a name where there is none, and items asked of a value that has
none.
-/

namespace TableAtlas

namespace Json

open Text

mutual

/-- A value as text within a list or an object. -/
def inner : Json → List Char
  | null => "None".toList
  | bool true => "True".toList
  | bool false => "False".toList
  | number n => signedDecimal n
  | string s => quoted s.toList
  | array xs => '[' :: (innerItems xs ++ [']'])
  | object fields => '\x7b' :: (innerFields fields ++ ['\x7d'])

def innerItems : List Json → List Char
  | [] => []
  | [x] => x.inner
  | x :: y :: xs => x.inner ++ ',' :: ' ' :: innerItems (y :: xs)

def innerFields : List (String × Json) → List Char
  | [] => []
  | [(name, x)] => quoted name.toList ++ ':' :: ' ' :: x.inner
  | (name, x) :: y :: fields =>
    quoted name.toList ++ ':' :: ' ' :: (x.inner ++ ',' :: ' ' :: innerFields (y :: fields))

end

def shown : Json → String
  | string s => s
  | j => String.ofList j.inner

/-- Whether a value counts as set: it is not null, false, zero or empty. -/
def isSet : Json → Bool
  | null => false
  | bool b => b
  | number n => n ≠ 0
  | string s => !s.isEmpty
  | array xs => !xs.isEmpty
  | object fields => !fields.isEmpty

/-- The items of an array, the characters of a text, the names in an object. -/
def items? : Json → Option (List Json)
  | array xs => some xs
  | string s => some (s.toList.map fun c => string (String.singleton c))
  | object fields => some (fields.map fun f => string f.1)
  | _ => none

end Json

namespace Page

open Json

inductive LooseError where
  | missingName
  | wrongKind
  deriving DecidableEq

def textAt (j : Json) (name : String) : String := ((j.get? name).map shown).getD ""

def flagAt (j : Json) (name : String) : Bool := (j.get? name).any isSet

/-- The text of a field that is set. -/
def setText? (j : Json) (name : String) : Option String :=
  ((j.get? name).filter isSet).map shown

def itemsAt (j : Json) (name : String) : Except LooseError (List Json) :=
  match j.get? name with
  | none => .ok []
  | some v =>
    match v.items? with
    | some xs => .ok xs
    | none => .error .wrongKind

def looseColumn (j : Json) : Column where
  name := textAt j "name"
  type := textAt j "type"
  comment := textAt j "comment"
  isPrimaryKey := flagAt j "primary_key"
  isNullable := flagAt j "nullable"

/-- The parts of a table that a page shows. -/
def looseTable (j : Json) : Except LooseError TableNode := do
  let columns ← itemsAt j "columns"
  return {
    id := textAt j "id"
    name := textAt j "name"
    comment := (setText? j "comment").getD ""
    columns := columns.map looseColumn
    primaryKeys := []
    position := ⟨0, 0⟩
    selected := flagAt j "selected"
    dimmed := flagAt j "dimmed" }

def looseEdge (j : Json) : Edge where
  id := textAt j "id"
  source := textAt j "source"
  target := textAt j "target"
  column := textAt j "column"
  emphasized := flagAt j "emphasized"
  dimmed := flagAt j "dimmed"

def looseDocument (j : Json) : Except LooseError Document := do
  let tables ← (← itemsAt j "tables").mapM looseTable
  let relationships ← itemsAt j "relationships"
  return {
    name := textAt j "name"
    selected := setText? j "selected"
    tables := tables
    relationships := relationships.map looseEdge }

def looseHeading (title : Option String) (j : Json) : Except LooseError String :=
  match givenTitle? title with
  | some t => .ok t
  | none =>
    match j with
    | .object fields =>
      match fields.lookup "name" with
      | some name => .ok (defaultHeading name.shown)
      | none => .error .missingName
    | _ => .error .wrongKind

def renderLoose (title : Option String) (j : Json) : Except LooseError (List Char) := do
  let heading ← looseHeading title j
  return renderAll (pieces heading (← looseDocument j) j)

end Page

end TableAtlas
