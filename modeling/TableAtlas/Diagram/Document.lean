import TableAtlas.Diagram.Highlight
import TableAtlas.Diagram.Layout
import TableAtlas.Json.Basic
import TableAtlas.Schema

/-!
# Diagram documents

A document holds all that a renderer needs: the tables with their places on the grid, the
relationships between them, and what is marked.
-/

namespace TableAtlas

structure TableNode where
  id : String
  name : String
  comment : String
  columns : List Column
  primaryKeys : List String
  position : Position
  selected : Bool
  dimmed : Bool
  deriving DecidableEq

structure Edge where
  id : String
  source : String
  target : String
  column : String
  emphasized : Bool
  dimmed : Bool
  deriving DecidableEq

structure Document where
  name : String
  selected : Option String
  tables : List TableNode
  relationships : List Edge
  deriving DecidableEq

def TableNode.ofTable (h : Highlight) (t : Table) (p : Position) : TableNode where
  id := t.id
  name := t.name
  comment := t.comment
  columns := t.columns
  primaryKeys := t.primaryKeys
  position := p
  selected := h.isSelected t.id
  dimmed := h.isDimmed t.id

/-- The table that a node draws. -/
def TableNode.table (n : TableNode) : Table := ⟨n.id, n.name, n.comment, n.columns⟩

def Edge.ofRelationship (h : Highlight) (r : Relationship) : Edge where
  id := r.id
  source := r.source
  target := r.target
  column := r.column
  emphasized := h.isEmphasized r
  dimmed := h.isEdgeDimmed r

/-- The relationship that an edge draws. -/
def Edge.relationship (e : Edge) : Relationship := ⟨e.source, e.target, e.column⟩

/-- The document of tables and relationships, marked as `h` says. -/
def Document.ofTables (name : String) (ts : List Table) (rs : List Relationship)
    (h : Highlight) : Document where
  name := name
  selected := h.selected
  tables := List.zipWith (TableNode.ofTable h) ts (Layout.positions ts.length)
  relationships := rs.map (Edge.ofRelationship h)

section

open Json

def Position.toJson (p : Position) : Json := object [("x", number p.x), ("y", number p.y)]

def Column.toJson (c : Column) : Json :=
  object [("name", string c.name), ("type", string c.type), ("comment", string c.comment),
    ("primary_key", bool c.isPrimaryKey), ("nullable", bool c.isNullable)]

def TableNode.toJson (t : TableNode) : Json :=
  object [("id", string t.id), ("name", string t.name), ("comment", string t.comment),
    ("columns", array (t.columns.map Column.toJson)),
    ("primary_keys", array (t.primaryKeys.map string)), ("position", t.position.toJson),
    ("selected", bool t.selected), ("dimmed", bool t.dimmed)]

def Edge.toJson (e : Edge) : Json :=
  object [("id", string e.id), ("source", string e.source), ("target", string e.target),
    ("column", string e.column), ("emphasized", bool e.emphasized), ("dimmed", bool e.dimmed)]

def Document.toJson (d : Document) : Json :=
  object [("name", string d.name),
    ("selected", match d.selected with | some s => string s | none => null),
    ("tables", array (d.tables.map TableNode.toJson)),
    ("relationships", array (d.relationships.map Edge.toJson))]

end

@[simp] theorem Document.length_tables_ofTables (name : String) (ts : List Table)
    (rs : List Relationship) (h : Highlight) :
    (ofTables name ts rs h).tables.length = ts.length := by
  simp [ofTables]

theorem Document.map_table_ofTables (name : String) (ts : List Table) (rs : List Relationship)
    (h : Highlight) : (ofTables name ts rs h).tables.map TableNode.table = ts := by
  simp only [ofTables, List.map_zipWith, TableNode.ofTable, TableNode.table]
  rw [← List.map_uncurry_zip_eq_zipWith]
  exact List.map_fst_zip (by simp)

theorem Document.map_relationship_ofTables (name : String) (ts : List Table)
    (rs : List Relationship) (h : Highlight) :
    (ofTables name ts rs h).relationships.map Edge.relationship = rs := by
  simp [ofTables, Edge.ofRelationship, Edge.relationship, Function.comp_def]

end TableAtlas
