import TableAtlas.Proofs.GridLayout
import TableAtlas.Proofs.HighlightHistory
import TableAtlas.Proofs.Ownership
import TableAtlas.Proofs.SessionHistory

/-!
# The documents of a session

The tables of a document come from the schema, its edges from the ownership of keys, the marks
from the index of neighbours, which is kept apart from both, and the places from arithmetic. In
every session they describe one diagram: the relationships that are shown are always those of
the schema that is shown, and the index is always the one of these relationships.
-/

namespace TableAtlas

/-! ## What a document says of itself -/

def Edge.Joins (e : Edge) (x y : String) : Prop :=
  e.source = x ∧ e.target = y ∨ e.source = y ∧ e.target = x

/-- The edges lead between tables of the document along a column of the one that is a key of
the other, no two tables lie upon each other, and the marks are those of the selection and the
edges that the document itself shows. -/
structure Document.SelfConsistent (d : Document) : Prop where
  no_loop : ∀ e ∈ d.relationships, e.source ≠ e.target
  source : ∀ e ∈ d.relationships, ∃ t ∈ d.tables, t.id = e.source ∧
    ∃ c ∈ t.columns, c.name = e.column
  target : ∀ e ∈ d.relationships, ∃ t ∈ d.tables, t.id = e.target ∧
    ∃ c ∈ t.columns, c.name = e.column ∧ c.isPrimaryKey = true
  primaryKeys : ∀ t ∈ d.tables,
    t.primaryKeys = (t.columns.filter (·.isPrimaryKey)).map (·.name)
  positions : (d.tables.map (·.position)).Nodup
  unselected : d.selected = none →
    (∀ t ∈ d.tables, t.selected = false ∧ t.dimmed = false) ∧
      ∀ e ∈ d.relationships, e.emphasized = false ∧ e.dimmed = false
  tableSelected : ∀ s, d.selected = some s → ∀ t ∈ d.tables, t.selected = true ↔ t.id = s
  tableDimmed : ∀ s, d.selected = some s → ∀ t ∈ d.tables,
    t.dimmed = true ↔ t.id ≠ s ∧ ¬ ∃ e ∈ d.relationships, e.Joins t.id s
  edgeEmphasized : ∀ s, d.selected = some s → ∀ e ∈ d.relationships,
    e.emphasized = true ↔ e.source = s ∨ e.target = s
  edgeDimmed : ∀ s, d.selected = some s → ∀ e ∈ d.relationships,
    e.dimmed = true ↔ ¬ (e.source = s ∨ e.target = s)

/-- The document shows the tables, the relationships and the selection of a session, no more and
no less, in their order. -/
structure Document.Depicts (d : Document) (s : Session) : Prop where
  selected : d.selected = s.highlight.selected
  tables : d.tables.map TableNode.table = s.schema.tables
  relationships : d.relationships.map Edge.relationship = s.relationships
  edgeIds : d.relationships.map (·.id) = s.relationships.map Relationship.id

namespace Document

variable {name : String} {ts : List Table} {rs : List Relationship} {h : Highlight}

theorem exists_table_of_mem {t : TableNode} (ht : t ∈ (ofTables name ts rs h).tables) :
    ∃ a ∈ ts, ∃ p, t = .ofTable h a p := by
  simp only [ofTables, ← List.map_uncurry_zip_eq_zipWith, List.mem_map] at ht
  obtain ⟨⟨a, p⟩, hmem, rfl⟩ := ht
  exact ⟨a, (List.of_mem_zip hmem).1, p, rfl⟩

theorem exists_node_of_mem {a : Table} (ha : a ∈ ts) :
    ∃ p, TableNode.ofTable h a p ∈ (ofTables name ts rs h).tables := by
  obtain ⟨i, hi, rfl⟩ := List.mem_iff_getElem.1 ha
  have hnode : i < (ofTables name ts rs h).tables.length := by simpa using hi
  have hplace : i < (Layout.positions ts.length).length := by simpa using hi
  refine ⟨(Layout.positions ts.length)[i], ?_⟩
  rw [List.mem_iff_getElem]
  exact ⟨i, hnode, by simp [ofTables]⟩

theorem map_position_tables :
    (ofTables name ts rs h).tables.map (·.position) = Layout.positions ts.length := by
  simp only [ofTables, List.map_zipWith, TableNode.ofTable]
  rw [← List.map_uncurry_zip_eq_zipWith]
  exact List.map_snd_zip (by simp)

theorem mem_relationships_ofTables {e : Edge} :
    e ∈ (ofTables name ts rs h).relationships ↔ ∃ r ∈ rs, .ofRelationship h r = e := by
  simp [ofTables]

theorem exists_edge_joins_iff {x y : String} :
    (∃ e ∈ (ofTables name ts rs h).relationships, e.Joins x y) ↔ ∃ r ∈ rs, r.joins x y = true := by
  simp [ofTables, Edge.Joins, Edge.ofRelationship, Relationship.joins]

/-- A document of the relationships that a policy infers is self-consistent if its marks are
those of these relationships. -/
theorem selfConsistent_ofTables (p : Policy) (hmarks : h.Marks (p.relationships ts)) :
    (ofTables name ts (p.relationships ts) h).SelfConsistent := by
  constructor
  case no_loop =>
    intro e he
    obtain ⟨r, hr, rfl⟩ := mem_relationships_ofTables.1 he
    exact (Policy.mem_relationships_iff.1 hr).1
  case source =>
    intro e he
    obtain ⟨r, hr, rfl⟩ := mem_relationships_ofTables.1 he
    obtain ⟨-, -, -, t, ht, hid, hcolumn⟩ := Policy.mem_relationships_iff.1 hr
    obtain ⟨place, hnode⟩ := exists_node_of_mem ht
    exact ⟨_, hnode, hid, hcolumn⟩
  case target =>
    intro e he
    obtain ⟨r, hr, rfl⟩ := mem_relationships_ofTables.1 he
    obtain ⟨t, ht, hid, hdecl⟩ :=
      Policy.exists_declares_of_owner? (Policy.mem_relationships_iff.1 hr).2.1
    obtain ⟨c, hc, hname, hkey⟩ := Policy.declares_iff.1 hdecl
    obtain ⟨place, hnode⟩ := exists_node_of_mem ht
    exact ⟨_, hnode, hid, c, hc, hname, (Policy.isKeyCandidate_iff.1 hkey).1⟩
  case primaryKeys =>
    intro t ht
    obtain ⟨a, -, place, rfl⟩ := exists_table_of_mem ht
    rfl
  case positions =>
    rw [map_position_tables]
    exact Layout.nodup_positions ts.length
  case unselected =>
    intro hnone
    obtain ⟨htables, hedges⟩ := hmarks.unselected hnone
    constructor
    · intro t ht
      obtain ⟨a, -, place, rfl⟩ := exists_table_of_mem ht
      exact htables a.id
    · intro e he
      obtain ⟨r, -, rfl⟩ := mem_relationships_ofTables.1 he
      exact hedges r
  case tableSelected =>
    intro s hs t ht
    obtain ⟨a, -, place, rfl⟩ := exists_table_of_mem ht
    exact hmarks.tableSelected s hs a.id
  case tableDimmed =>
    intro s hs t ht
    obtain ⟨a, -, place, rfl⟩ := exists_table_of_mem ht
    rw [exists_edge_joins_iff]
    exact hmarks.tableDimmed s hs a.id
  case edgeEmphasized =>
    intro s hs e he
    obtain ⟨r, -, rfl⟩ := mem_relationships_ofTables.1 he
    exact hmarks.edgeEmphasized s hs r
  case edgeDimmed =>
    intro s hs e he
    obtain ⟨r, -, rfl⟩ := mem_relationships_ofTables.1 he
    exact hmarks.edgeDimmed s hs r

end Document

namespace Session

/-- The relationships shown are those of the schema shown, and the index is theirs. -/
structure Coherent (s : Session) : Prop where
  relationships : s.relationships = s.policy.relationships s.schema.tables
  upToDate : s.highlight.UpToDate

theorem coherent_new (p : Policy) : (new p).Coherent :=
  ⟨rfl, Highlight.upToDate_ofRelationships []⟩

theorem Coherent.display {s : Session} (h : s.Coherent) (schema : Schema) :
    (s.display schema).Coherent := by
  constructor
  · exact relationships_display s schema
  · exact (Highlight.upToDate_assign h.upToDate.serves _).select none

theorem Coherent.apply {s : Session} (h : s.Coherent) (step : Step) : (s.apply step).Coherent := by
  cases step with
  | load source =>
    rw [Session.apply]
    rcases s.load_cases source with ⟨schema, -, -, hl⟩ | ⟨cause, -, -, hl⟩
    · rw [hl]
      exact h.display schema
    · rw [hl]
      exact ⟨h.relationships, h.upToDate⟩
  | select table => exact ⟨h.relationships, h.upToDate.select table⟩
  | clear => exact ⟨h.relationships, h.upToDate.select none⟩

theorem Coherent.run {s : Session} (h : s.Coherent) (steps : List Step) :
    (s.run steps).Coherent := by
  induction steps generalizing s with
  | nil => exact h
  | cons step steps ih => exact ih (h.apply step)

theorem relationships_run (p : Policy) (steps : List Step) :
    ((new p).run steps).relationships = p.relationships ((new p).run steps).schema.tables := by
  have hrels := ((coherent_new p).run steps).relationships
  rwa [policy_run] at hrels

theorem depicts_document (s : Session) (name : String) : (s.document name).Depicts s where
  selected := rfl
  tables := Document.map_table_ofTables name _ _ _
  relationships := Document.map_relationship_ofTables name _ _ _
  edgeIds := by simp [document, Document.ofTables, Edge.ofRelationship, Function.comp_def]

/-- Whatever was loaded, selected and cleared, with success or without, the document of a
session is self-consistent. It shows what the session holds, and the relationships that the
session holds are those that its policy infers for its tables. -/
theorem document_run_selfConsistent (p : Policy) (steps : List Step) (name : String) :
    (((new p).run steps).document name).SelfConsistent ∧
      (((new p).run steps).document name).Depicts ((new p).run steps) ∧
      ((new p).run steps).relationships =
        p.relationships ((new p).run steps).schema.tables := by
  refine ⟨?_, depicts_document _ name, relationships_run p steps⟩
  obtain ⟨hrels, hdate⟩ := (coherent_new p).run steps
  have hadj := hdate.adjacency
  rw [Session.relationships] at hrels
  rw [document, Session.relationships, hrels]
  rw [hrels] at hadj
  exact Document.selfConsistent_ofTables _ (Highlight.marks_of_adjacency hadj)

/-- A selection is still shown behind a load that fails: the table that no edge joins to it is
dimmed, the others are not. -/
theorem document_run_selfConsistent_of_failed_load :
    let p := Policy.ofNames [] []
    let dump := ("CREATE TABLE a (`k` int, PRIMARY KEY (`k`));\n" ++
      "CREATE TABLE b (`k` int);\nCREATE TABLE c (`x` int)").toList
    let s := (new p).run [.load (.text dump), .select (some "b"), .load .other]
    let d := s.document "links"
    d.SelfConsistent ∧ d.Depicts s ∧ d.selected = some "b" ∧
      d.tables.map (·.id) = ["a", "b", "c"] ∧
      d.relationships = [⟨"e-b-k-a", "b", "a", "k", true, false⟩] ∧
      ∀ t ∈ d.tables, t.dimmed = true ↔ t.id = "c" := by
  intro p dump s d
  obtain ⟨hconsistent, hdepicts, -⟩ := document_run_selfConsistent p
    [.load (.text dump), .select (some "b"), .load .other] "links"
  have hids : d.tables.map (·.id) = ["a", "b", "c"] := by decide +kernel
  have hedges : d.relationships = [⟨"e-b-k-a", "b", "a", "k", true, false⟩] := by decide +kernel
  refine ⟨hconsistent, hdepicts, rfl, hids, hedges, fun t ht => ?_⟩
  have hid : t.id ∈ ["a", "b", "c"] := hids ▸ List.mem_map_of_mem ht
  rw [hconsistent.tableDimmed "b" rfl t ht]
  change _ ∧ ¬ (∃ e ∈ d.relationships, e.Joins t.id "b") ↔ _
  simp only [hedges, List.mem_singleton, exists_eq_left, Edge.Joins]
  rw [List.mem_cons, List.mem_pair] at hid
  obtain h | h | h := hid <;> simp [h]

end Session

end TableAtlas
