import TableAtlas.Proofs.CommandOutcome
import TableAtlas.Proofs.DocumentReading
import TableAtlas.Proofs.JsonReading
import TableAtlas.Proofs.SessionHistory

/-!
# Agreement of commands

The commands show one schema in three shapes. Whoever reads their outputs back finds the same
tables and the same relationships in all of them, and if one command fails, so does the other, for
the same cause. Only where the name of a dump is too long to be looked up there is no report at
all.
-/

namespace TableAtlas

open Json

/-! ## Reading outputs -/

/-- A relationship as outputs name it. -/
structure Link where
  id : String
  source : String
  target : String
  column : String
  deriving DecidableEq

def Relationship.link (r : Relationship) : Link := ⟨r.id, r.source, r.target, r.column⟩

def Link.ofJson? (j : Json) : Option Link := do
  let id ← j.field? text? "id"
  let source ← j.field? text? "source"
  let target ← j.field? text? "target"
  let column ← j.field? text? "column"
  return { id, source, target, column }

/-- A column whose flags have the names given. -/
def Column.readWith? (key nullable : String) (j : Json) : Option Column := do
  let name ← j.field? text? "name"
  let type ← j.field? text? "type"
  let comment ← j.field? text? "comment"
  let isPrimaryKey ← j.field? flag? key
  let isNullable ← j.field? flag? nullable
  return { name, type, comment, isPrimaryKey, isNullable }

/-- A table, without what a diagram adds to it. -/
def Table.readWith? (key nullable : String) (j : Json) : Option Table := do
  let id ← j.field? text? "id"
  let name ← j.field? text? "name"
  let comment ← j.field? text? "comment"
  let columns ← j.field? (listOf? (Column.readWith? key nullable)) "columns"
  return { id, name, comment, columns }

/-- The relationships that the listing of relationships writes. -/
def listedLinks? (output : List Char) : Option (List Link) :=
  (read? output).bind (listOf? Link.ofJson?)

/-- The relationships that a diagram writes. -/
def drawnLinks? (output : List Char) : Option (List Link) :=
  (read? output).bind (field? (listOf? Link.ofJson?) "relationships")

/-- The tables that the listing of a schema writes. -/
def listedTables? (output : List Char) : Option (List Table) :=
  (read? output).bind (field? (listOf? (Table.readWith? "is_primary_key" "is_nullable")) "tables")

/-- The tables that a diagram writes. -/
def drawnTables? (output : List Char) : Option (List Table) :=
  (read? output).bind (field? (listOf? (Table.readWith? "primary_key" "nullable")) "tables")

theorem Link.ofJson?_relationshipJson (r : Relationship) :
    ofJson? (Command.relationshipJson r) = some r.link := by
  simp [ofJson?, Command.relationshipJson, field?_object, List.lookup_cons, text?,
    Relationship.link]

theorem Link.ofJson?_edge (h : Highlight) (r : Relationship) :
    ofJson? (Edge.ofRelationship h r).toJson = some r.link := by
  simp [ofJson?, Edge.toJson, Edge.ofRelationship, field?_object, List.lookup_cons, text?,
    Relationship.link]

theorem Column.readWith?_columnJson (c : Column) :
    readWith? "is_primary_key" "is_nullable" (Command.columnJson c) = some c := by
  simp [readWith?, Command.columnJson, field?_object, List.lookup_cons, text?, flag?]

theorem Column.readWith?_toJson (c : Column) :
    readWith? "primary_key" "nullable" c.toJson = some c := by
  simp [readWith?, toJson, field?_object, List.lookup_cons, text?, flag?]

theorem Table.readWith?_tableJson (t : Table) :
    readWith? "is_primary_key" "is_nullable" (Command.tableJson t) = some t := by
  have hcolumns := listOf?_array Column.readWith?_columnJson t.columns
  simp [readWith?, Command.tableJson, field?_object, List.lookup_cons, text?, hcolumns]

theorem Table.readWith?_toJson (n : TableNode) :
    readWith? "primary_key" "nullable" n.toJson = some n.table := by
  have hcolumns := listOf?_array Column.readWith?_toJson n.columns
  simp [readWith?, TableNode.toJson, field?_object, List.lookup_cons, text?, hcolumns,
    TableNode.table]

theorem listedLinks?_streamText (rs : List Relationship) :
    listedLinks? (array (rs.map Command.relationshipJson)).streamText =
      some (rs.map Relationship.link) := by
  rw [listedLinks?, read?_streamText, Option.bind_some,
    listOf?_array Link.ofJson?_relationshipJson]

theorem listedTables?_streamText (s : Schema) :
    listedTables? (Command.schemaJson s).streamText = some s.tables := by
  have htables := listOf?_array Table.readWith?_tableJson s.tables
  simp [listedTables?, read?_streamText, Command.schemaJson, field?_object, htables]

section

variable (name : String) (ts : List Table) (rs : List Relationship) (h : Highlight)

theorem drawnLinks?_streamText :
    drawnLinks? (Document.ofTables name ts rs h).toJson.streamText =
      some (rs.map Relationship.link) := by
  have hedges : listOf? Link.ofJson? (array ((rs.map (Edge.ofRelationship h)).map Edge.toJson)) =
      some (rs.map Relationship.link) := by
    rw [List.map_map]
    exact listOf?_array (Link.ofJson?_edge h) rs
  simp only [drawnLinks?, read?_streamText, Option.bind_some, Document.toJson, field?_object]
  simpa [List.lookup_cons, Document.ofTables] using hedges

theorem drawnTables?_streamText :
    drawnTables? (Document.ofTables name ts rs h).toJson.streamText = some ts := by
  have htables := listOf?_array Table.readWith?_toJson (Document.ofTables name ts rs h).tables
  rw [Document.map_table_ofTables] at htables
  simp only [drawnTables?, read?_streamText, Option.bind_some, Document.toJson, field?_object]
  simpa [List.lookup_cons] using htables

end

/-! ## Commands on one dump -/

namespace Command

variable {t : FileTree} {l : Location} {policy : Option Location} {q : Policy} {schema : Schema}

/-- What is read back from a report that succeeds. -/
theorem exists_report_of_output {result : Result} {output : List Char}
    (h : outcome result = .ok (.ok output)) :
    ∃ r, result = .ok r ∧ r.exitCode = 0 ∧ r.output = output := by
  obtain ⟨r, hr, ho⟩ := exists_report_of_outcome h
  exact ⟨r, hr, Report.exit_of_outcome_ok ho⟩

theorem parse_of_schema (h : schemaOf t l = .ok (.ok schema)) :
    ∃ p, parse t l .json = .ok p ∧ p.exitCode = 0 ∧
      listedTables? p.output = some schema.tables := by
  have ho := outcome_parse t l .json
  rw [h] at ho
  obtain ⟨p, hp, hexit, hout⟩ := exists_report_of_output ho
  exact ⟨p, hp, hexit, hout ▸ listedTables?_streamText schema⟩

theorem relationships_of_schema (hq : policyOf t policy = .ok q)
    (h : schemaOf t l = .ok (.ok schema)) :
    ∃ r, relationships t l .json policy = .ok r ∧ r.exitCode = 0 ∧
      listedLinks? r.output = some ((q.relationships schema.tables).map Relationship.link) := by
  have ho := outcome_relationships t l .json policy
  rw [hq, h] at ho
  obtain ⟨r, hr, hexit, hout⟩ := exists_report_of_output ho
  exact ⟨r, hr, hexit, hout ▸ listedLinks?_streamText _⟩

theorem diagram_of_schema (hq : policyOf t policy = .ok q)
    (h : schemaOf t l = .ok (.ok schema)) (title : Option String) :
    ∃ d, diagram t l .json none policy title = .ok d ∧ d.exitCode = 0 ∧
      drawnLinks? d.output = some ((q.relationships schema.tables).map Relationship.link) ∧
      drawnTables? d.output = some schema.tables := by
  have ho := outcome_diagram t l .json none policy title
  rw [hq, h] at ho
  obtain ⟨d, hd, hexit, hout⟩ := exists_report_of_output ho
  have hshown := Session.relationships_display (.new q) schema
  refine ⟨d, hd, hexit, ?_, ?_⟩
  · rw [hout]
    exact hshown ▸ drawnLinks?_streamText _ _ _ _
  · rw [hout]
    exact drawnTables?_streamText _ _ _ _

/-- Whether two reports tell of the same failure. -/
structure FailAlike (r d : Report) : Prop where
  exit_left : r.exitCode = 1
  exit_right : d.exitCode = 1
  message : ∃ e : CommandError, r.messages.getLast? = some e.message ∧
    d.messages.getLast? = some e.message

theorem exists_failAlike {e : CommandError} {result result' : Result}
    (h : outcome result = .ok (.error e)) (h' : outcome result' = .ok (.error e)) :
    ∃ r d, result = .ok r ∧ result' = .ok d ∧ FailAlike r d := by
  obtain ⟨r, hr, ho⟩ := exists_report_of_outcome h
  obtain ⟨d, hd, ho'⟩ := exists_report_of_outcome h'
  obtain ⟨hexit, hlast⟩ := Report.exit_of_outcome_error ho
  obtain ⟨hexit', hlast'⟩ := Report.exit_of_outcome_error ho'
  exact ⟨r, d, hr, hd, hexit, hexit', e, hlast, hlast'⟩

/-- Whether a listing of relationships, a diagram and a listing of a schema tell of the same
relationships and the same tables. -/
structure ShowAlike (r d p : Report) : Prop where
  exit_relationships : r.exitCode = 0
  exit_diagram : d.exitCode = 0
  exit_schema : p.exitCode = 0
  links : ∃ links, listedLinks? r.output = some links ∧ drawnLinks? d.output = some links
  tables : ∃ tables, listedTables? p.output = some tables ∧ drawnTables? d.output = some tables

theorem schemaOf_eq_error_iff {e : LookupError} :
    schemaOf t l = .error e ↔ t.exists? l = .error e := by
  unfold schemaOf textOf
  cases t.exists? l <;> simp [Except.map]

/-- The listing of relationships and the diagram of a dump agree, in success and in failure, unless
it cannot be found out whether the dump is there. -/
theorem relationships_agree_with_diagram (t : FileTree) (l : Location) (policy : Option Location)
    (title : Option String) :
    (∃ e, t.exists? l = .error e ∧ relationships t l .json policy = .error e ∧
        diagram t l .json none policy title = .error e) ∨
      ∃ r d, relationships t l .json policy = .ok r ∧
        diagram t l .json none policy title = .ok d ∧
        (FailAlike r d ∨ ∃ p, parse t l .json = .ok p ∧ ShowAlike r d p) := by
  have hr := outcome_relationships t l .json policy
  have hd := outcome_diagram t l .json none policy title
  cases hq : policyOf t policy with
  | error e =>
    -- the dump is not looked for any more
    rw [hq] at hr hd
    obtain ⟨r, d, hr, hd, hfail⟩ := exists_failAlike hr hd
    exact .inr ⟨r, d, hr, hd, .inl hfail⟩
  | ok q =>
    cases hschema : schemaOf t l with
    | error e =>
      rw [hq, hschema] at hr hd
      exact .inl ⟨e, schemaOf_eq_error_iff.1 hschema, eq_error_of_outcome hr,
        eq_error_of_outcome hd⟩
    | ok result =>
      right
      cases result with
      | error e =>
        rw [hq, hschema] at hr hd
        obtain ⟨r, d, hr, hd, hfail⟩ := exists_failAlike hr hd
        exact ⟨r, d, hr, hd, .inl hfail⟩
      | ok schema =>
        obtain ⟨p, hp, hpexit, hlisted⟩ := parse_of_schema hschema
        obtain ⟨r, hr, hrexit, hlinks⟩ := relationships_of_schema hq hschema
        obtain ⟨d, hd, hdexit, hdrawn, htables⟩ := diagram_of_schema hq hschema title
        exact ⟨r, d, hr, hd, .inr ⟨p, hp, hrexit, hdexit, hpexit, ⟨_, hlinks, hdrawn⟩,
          _, hlisted, htables⟩⟩

/-- A name with more bytes than are looked up. -/
def longName : String := String.ofList (List.replicate 300 'a' ++ ".sql".toList)

theorem exists?_longName :
    (FileTree.below [] []).exists? ⟨"", [longName]⟩ = .error ⟨⟨"", [longName]⟩, .nameTooLong⟩ := by
  have hchars : longName.toList = List.replicate 300 'a' ++ ".sql".toList := String.toList_ofList
  have hnul : '\x00' ∉ longName.toList := by
    rw [hchars, List.mem_append, not_or]
    exact ⟨fun h => absurd (List.eq_of_mem_replicate h) (by decide), by decide⟩
  have hlong : Location.maxNameBytes < longName.utf8ByteSize := by decide +kernel
  have hshort : Location.isTooLong ⟨"", [longName]⟩ = false := by decide +kernel
  simp [FileTree.exists?, Location.holdsNul, Location.toString, FileTree.find, FileTree.follow,
    FileTree.below, FileTree.entry?, FileTree.hasDirectory, hnul, hlong, hshort]

/-- A dump that cannot be opened makes a command fail with a report, but there is no report on one
that cannot be looked up. -/
theorem no_report_of_long_name :
    relationships (.below [] []) ⟨"", [longName]⟩ .json none =
        .error ⟨⟨"", [longName]⟩, .nameTooLong⟩ ∧
      diagram (.below [] []) ⟨"", [longName]⟩ .json none none none =
        .error ⟨⟨"", [longName]⟩, .nameTooLong⟩ := by
  have hschema := schemaOf_eq_error_iff.2 exists?_longName
  have hr := outcome_relationships (.below [] []) ⟨"", [longName]⟩ .json none
  have hd := outcome_diagram (.below [] []) ⟨"", [longName]⟩ .json none none none
  rw [hschema] at hr hd
  exact ⟨eq_error_of_outcome hr, eq_error_of_outcome hd⟩

end Command

end TableAtlas
