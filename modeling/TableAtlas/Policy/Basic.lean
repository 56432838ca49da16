import TableAtlas.Config.Value
import TableAtlas.Schema
import TableAtlas.Text.UpperCase

/-!
# Key ownership policies

A policy says which columns may link tables and which table owns a key that several tables
declare. Rules are ranked by their order, the first being the strongest. Settings may hold any
value where a name is meant; a value that is no text names nothing.
-/

namespace TableAtlas

open Config

/-- Gives the table named `table` the key column named `column`. -/
structure Policy.Rule where
  column : Value
  table : Value

structure Policy where
  excluded : List Value
  rules : List Policy.Rule

namespace Policy

def Rule.claims (r : Rule) (column table : String) : Bool :=
  r.column.isText column && r.table.isText table

def isExcluded (p : Policy) (column : String) : Bool := p.excluded.any (·.isText column)

/-- Keys of this name, in upper case, are shared by tables that have nothing in common. -/
def genericKey : List Char := "ID".toList

def isKeyCandidate (p : Policy) (c : Column) : Bool :=
  c.isPrimaryKey && !p.isExcluded c.name && Text.upper c.name.toList != genericKey

/-- The index of the first rule that gives the column to the table, or the number of rules. -/
def rank (p : Policy) (column table : String) : Nat :=
  p.rules.findIdx (·.claims column table)

/-- The rule that gives a column to a table, both given by name. -/
def Rule.ofNames (column table : String) : Rule := ⟨.text column, .text table⟩

def ofNames (excluded : List String) (rules : List (String × String)) : Policy where
  excluded := excluded.map Value.text
  rules := rules.map fun r => Rule.ofNames r.1 r.2

theorem isExcluded_ofNames {excluded : List String} {rules : List (String × String)}
    {column : String} :
    (ofNames excluded rules).isExcluded column = true ↔ column ∈ excluded := by
  simp [isExcluded, ofNames, Value.isText]

theorem rank_le (p : Policy) (column table : String) : p.rank column table ≤ p.rules.length :=
  List.findIdx_le_length

end Policy

end TableAtlas
