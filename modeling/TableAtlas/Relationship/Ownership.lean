import TableAtlas.Policy.Basic
import TableAtlas.Relationship.Basic
import TableAtlas.Record

/-!
# Ownership of keys and inferred relationships

Every key column that may link tables is a claim of its table to the column's name. The claims
are entered one by one, in the order of the tables and of their columns, into a list with one
holder for each name. The first claim to a name holds it until one with a rule at least as
strong as that of its holder comes. A column then refers to the owner of its name, unless that
is the column's own table.
-/

namespace TableAtlas

structure Claim where
  column : String
  table : String
  rank : Nat
  deriving DecidableEq

namespace Policy

def claimsOf (p : Policy) (t : Table) : List Claim :=
  (t.columns.filter p.isKeyCandidate).map fun c => ⟨c.name, t.id, p.rank c.name t.name⟩

/-- The claims of a list of tables, in the order of the tables and of their columns. -/
def claims (p : Policy) (ts : List Table) : List Claim := ts.flatMap p.claimsOf

/-- Whether a claim takes a name from the claim that holds it. A claim without a rule takes
nothing. -/
def takesOver (p : Policy) (next held : Claim) : Bool :=
  next.rank < p.rules.length && next.rank ≤ held.rank

/-- The holders of names after a further claim. -/
def enter (p : Policy) : List Claim → Claim → List Claim
  | [], next => [next]
  | held :: rest, next =>
    if held.column = next.column then (if p.takesOver next held then next else held) :: rest
    else held :: enter p rest next

/-- The holders of all claimed names, in the order in which the names were first claimed. -/
def holders (p : Policy) (ts : List Table) : List Claim := (p.claims ts).foldl p.enter []

/-- The owned columns with the tables that own them. -/
def owners (p : Policy) (ts : List Table) : List (String × String) :=
  (p.holders ts).map fun c => (c.column, c.table)

/-- The relationship of a column of a table, where the owners of keys are known. -/
def refer? (p : Policy) (owners : List (String × String)) (t : Table) (c : Column) :
    Option Relationship :=
  if p.isExcluded c.name then none
  else
    match owners.lookup c.name with
    | none => none
    | some owner => if owner = t.id then none else some ⟨t.id, owner, c.name⟩

/-- One relationship for every column that refers to another table, in the order of the
tables and of their columns. -/
def relationships (p : Policy) (ts : List Table) : List Relationship :=
  let owners := p.owners ts
  ts.flatMap fun t => t.columns.filterMap (p.refer? owners t)

def inferenceRecord (p : Policy) (ts : List Table) : Record :=
  .inferred (p.relationships ts).length (p.owners ts).length

end Policy

end TableAtlas
