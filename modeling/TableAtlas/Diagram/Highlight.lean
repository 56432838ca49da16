import TableAtlas.Record
import TableAtlas.Relationship.Basic

/-!
# Highlighting

A diagram shows relationships and may have a selected table. Without a selection nothing is
marked. With one, the tables that no relationship joins to it are dimmed, the relationships
that touch it are emphasized and the others dimmed. The neighbours of every table are kept in
an index, which is built again only when the pairs of joined tables change.
-/

namespace TableAtlas

open Text

/-- Every table with a relationship and its neighbours, both sorted. -/
abbrev Adjacency := List (String × List String)

namespace Adjacency

def neighboursIn (rs : List Relationship) (x : String) : List String :=
  sortedSet (rs.flatMap fun r =>
    (if r.source = x then [r.target] else []) ++ (if r.target = x then [r.source] else []))

def endpoints (rs : List Relationship) : List String :=
  sortedSet (rs.flatMap fun r => [r.source, r.target])

def ofRelationships (rs : List Relationship) : Adjacency :=
  (endpoints rs).map fun x => (x, neighboursIn rs x)

def neighbours (a : Adjacency) (x : String) : List String := (a.lookup x).getD []

theorem mem_neighboursIn {rs : List Relationship} {x y : String} :
    y ∈ neighboursIn rs x ↔ ∃ r ∈ rs, r.joins x y = true := by
  simp only [neighboursIn, mem_sortedSet, List.mem_flatMap, List.mem_append,
    Relationship.joins, Bool.or_eq_true, Bool.and_eq_true, decide_eq_true_eq]
  constructor
  · rintro ⟨r, hr, h | h⟩
    · split at h <;> simp_all
      exact ⟨r, hr, .inl ⟨by assumption, rfl⟩⟩
    · split at h <;> simp_all
      exact ⟨r, hr, .inr ⟨rfl, by assumption⟩⟩
  · rintro ⟨r, hr, ⟨rfl, rfl⟩ | ⟨rfl, rfl⟩⟩
    · exact ⟨r, hr, .inl (by simp)⟩
    · exact ⟨r, hr, .inr (by simp)⟩

theorem mem_endpoints {rs : List Relationship} {x : String} :
    x ∈ endpoints rs ↔ ∃ r ∈ rs, r.touches x = true := by
  simp [endpoints, mem_sortedSet, Relationship.touches]

end Adjacency

/-- The pairs of joined tables with their direction. -/
def joinedPairs (rs : List Relationship) : List (String × String) :=
  rs.map fun r => (r.source, r.target)

/-- Whether two lists of pairs are the same set, whatever their order and repetitions. -/
def samePairs (ps qs : List (String × String)) : Bool :=
  ps.all qs.contains && qs.all ps.contains

/-- `fingerprint` holds the pairs for which the index was built, if it was built at all. -/
structure Highlight where
  relationships : List Relationship
  fingerprint : Option (List (String × String))
  adjacency : Adjacency
  selected : Option String
  deriving DecidableEq

namespace Highlight

def empty : Highlight := ⟨[], none, [], none⟩

/-- Whether the index that is kept was built for the pairs that `rs` joins. -/
def isIndexedFor (h : Highlight) (rs : List Relationship) : Bool :=
  h.fingerprint.any (samePairs (joinedPairs rs))

/-- Shows other relationships and keeps the index if it serves them too. -/
def assign (h : Highlight) (rs : List Relationship) : Highlight :=
  if h.isIndexedFor rs then { h with relationships := rs }
  else
    { h with
      relationships := rs
      fingerprint := some (joinedPairs rs)
      adjacency := .ofRelationships rs }

/-- What building the index of the present relationships tells. -/
def indexRecord (h : Highlight) : Record := .indexed h.adjacency.length

def assignLog (h : Highlight) (rs : List Relationship) : List Record :=
  if h.isIndexedFor rs then [] else [(h.assign rs).indexRecord]

def ofRelationships (rs : List Relationship) : Highlight := empty.assign rs

def select (h : Highlight) (table : Option String) : Highlight := { h with selected := table }

def clear (h : Highlight) : Highlight := h.select none

def neighbours (h : Highlight) (table : String) : List String := h.adjacency.neighbours table

def isSelected (h : Highlight) (table : String) : Bool := h.selected = some table

def isDimmed (h : Highlight) (table : String) : Bool :=
  match h.selected with
  | none => false
  | some s => table ≠ s && !(h.neighbours s).contains table

def isEmphasized (h : Highlight) (r : Relationship) : Bool := h.selected.any r.touches

def isEdgeDimmed (h : Highlight) (r : Relationship) : Bool :=
  h.selected.isSome && !h.isEmphasized r

/-- Tables with whether they are selected and whether they are dimmed. -/
def tableStates (h : Highlight) (tables : List String) : List (String × Bool × Bool) :=
  tables.map fun t => (t, h.isSelected t, h.isDimmed t)

/-- The relationships shown, with whether they are emphasized and whether they are dimmed. -/
def edgeStates (h : Highlight) : List (Relationship × Bool × Bool) :=
  h.relationships.map fun r => (r, h.isEmphasized r, h.isEdgeDimmed r)

/-- What can be done to a diagram. -/
inductive Step where
  | assign (rs : List Relationship)
  | select (table : Option String)
  | clear

def apply (h : Highlight) : Step → Highlight
  | .assign rs => h.assign rs
  | .select table => h.select table
  | .clear => h.clear

def stepLog (h : Highlight) : Step → List Record
  | .assign rs => h.assignLog rs
  | .select _ | .clear => []

def run (h : Highlight) (steps : List Step) : Highlight := steps.foldl apply h

@[simp] theorem relationships_assign (h : Highlight) (rs : List Relationship) :
    (h.assign rs).relationships = rs := by
  unfold assign
  split <;> rfl

@[simp] theorem selected_assign (h : Highlight) (rs : List Relationship) :
    (h.assign rs).selected = h.selected := by
  unfold assign
  split <;> rfl

end Highlight

end TableAtlas
