/-!
# Schemas

What a dump says about its tables: their columns in the order of declaration, and the
statements from which no table could be read.
-/

namespace TableAtlas

/-- `type` is the first word of the declaration with its argument list, such as
`decimal(17, 2)`. -/
structure Column where
  name : String
  type : String
  comment : String
  isPrimaryKey : Bool
  isNullable : Bool
  deriving DecidableEq

structure Table where
  id : String
  name : String
  comment : String
  columns : List Column
  deriving DecidableEq

/-- Names of the key columns in the order of declaration. -/
def Table.primaryKeys (t : Table) : List String :=
  (t.columns.filter (·.isPrimaryKey)).map (·.name)

/-- Why a statement yields no table: it names none, it has no column list, or its column list
is never closed. -/
inductive SkipReason where
  | missingName
  | missingBody
  | unbalancedBody
  deriving DecidableEq

def SkipReason.text : SkipReason → String
  | .missingName => "missing-name"
  | .missingBody => "missing-body"
  | .unbalancedBody => "unbalanced-body"

/-- A statement without a table, shown by its beginning. -/
structure Skipped where
  reason : SkipReason
  excerpt : String
  deriving DecidableEq

structure Schema where
  tables : List Table
  skipped : List Skipped
  deriving DecidableEq

namespace Schema

def empty : Schema := ⟨[], []⟩

def tableIds (s : Schema) : List String := s.tables.map (·.id)

@[simp] theorem tableIds_empty : empty.tableIds = [] := rfl

end Schema

end TableAtlas
