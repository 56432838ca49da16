/-!
# Relationships

A relationship leads from a table with a column of some name to the table that owns the key
of that name.
-/

namespace TableAtlas

structure Relationship where
  source : String
  target : String
  column : String
  deriving DecidableEq

/-- The name of an edge in a diagram. -/
def Relationship.id (r : Relationship) : String :=
  "e-" ++ r.source ++ "-" ++ r.column ++ "-" ++ r.target

/-- Whether a relationship has a table at one of its ends. -/
def Relationship.touches (r : Relationship) (table : String) : Bool :=
  table = r.source || table = r.target

/-- Whether a relationship joins two tables, in either direction. -/
def Relationship.joins (r : Relationship) (x y : String) : Bool :=
  r.source = x && r.target = y || r.source = y && r.target = x

theorem Relationship.joins_comm (r : Relationship) (x y : String) :
    r.joins x y = r.joins y x := by
  simp [joins, Bool.or_comm]

end TableAtlas
