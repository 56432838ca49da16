import TableAtlas.Proofs.DeclaredTable
import TableAtlas.Proofs.Division

/-!
# Reading back what was written

A dump of written declarations, behind any preamble without a heading, is read as the tables
that were declared.
-/

namespace TableAtlas.Dump

open Text

variable {p s : List Char}

theorem not_contains_heading_of_occurs (h : occurs startsHeading s = false) :
    ¬ Contains headingPhrase.Covers s := by
  rw [← occurs_startsHeading_iff, h]
  simp

/-- A heading and a text without another are one statement. -/
theorem statements_of_heading {w : List Char} (hw : IsHeading w)
    (h : ¬ Contains headingPhrase.Covers s) : statements (w ++ s) = [s] := by
  rw [contains_headingPhrase_iff] at h
  rw [statements_append_heading hw, segments_of_free h]

namespace TableDecl

theorem isHeading (d : TableDecl) : IsHeading d.heading.text := by
  have hsplit : "CREATE TABLE".toList = "CREATE".toList ++ ' ' :: "TABLE".toList := by decide
  have hfold := d.heading.fold_text
  rw [hsplit] at hfold
  obtain ⟨a, b, hab, ha, hb⟩ := fold_eq_append_space_iff.1 hfold
  exact ⟨a, [' '], b, by simp [hab], ha, by simp, by decide, hb⟩

theorem startsHeading_written (d : TableDecl) (t : List Char) :
    startsHeading (d.written ++ t) = true :=
  startsHeading_iff.2 ⟨d.heading.text, d.statement ++ t, d.isHeading, by simp [written]⟩

/-- A written declaration is one statement. -/
theorem statements_written {d : TableDecl} (hu : d.Unambiguous) :
    statements d.written = [d.statement] :=
  statements_of_heading d.isHeading (not_contains_heading_statement hu)

theorem statements_append_written {ds : List TableDecl} (hu : ∀ d ∈ ds, d.Unambiguous)
    (s : List Char) :
    statements (s ++ ds.flatMap written) = statements s ++ ds.map statement := by
  induction ds generalizing s with
  | nil => simp
  | cons d ds ih =>
    have hds := ih (fun e he => hu e (by simp [he])) d.written
    rw [List.flatMap_cons, statements_append (d.startsHeading_written _), hds,
      statements_written (hu d (by simp))]
    simp

theorem ofStatement_statement {d : TableDecl} (h : d.WellFormed) (hu : d.Unambiguous) :
    Outcome.ofStatement d.statement =
      .table d.table (d.keys.eraseDups.map String.ofList) := by
  have hcolumns : d.columns.map (ColumnDecl.column d.keys.eraseDups) =
      d.columns.map (ColumnDecl.column d.keys) := by
    apply List.map_congr_left
    intro c _
    have hkeys : d.keys.eraseDups.contains c.name.chars = d.keys.contains c.name.chars := by
      rw [Bool.eq_iff_iff]
      simp
    simp only [ColumnDecl.column, hkeys]
  rw [Outcome.ofStatement, Dump.ofStatement_statement h hu]
  simp only [Outcome.ofBlock, keyNames_body h hu, columns_body h hu, hcolumns,
    tableComment_options h, table]

end TableDecl

theorem outcomes_written (hp : occurs startsHeading p = false) {ds : List TableDecl}
    (h : ∀ d ∈ ds, d.WellFormed) (hu : ∀ d ∈ ds, d.Unambiguous) :
    outcomes (p ++ ds.flatMap TableDecl.written) =
      ds.map fun d => .table d.table (d.keys.eraseDups.map String.ofList) := by
  have hpreamble : statements p = [] := by
    have hfree := not_contains_heading_of_occurs hp
    rw [contains_headingPhrase_iff] at hfree
    rw [statements, segments_of_free hfree, List.tail_cons]
  rw [outcomes, TableDecl.statements_append_written hu, hpreamble, List.nil_append, List.map_map]
  apply List.map_congr_left
  intro d hd
  exact TableDecl.ofStatement_statement (h d hd) (hu d hd)

/-- Reading undoes writing: the tables that were declared come back in their order, and no
statement is skipped. -/
theorem parse_written (p : List Char) (ds : List TableDecl) (hp : occurs startsHeading p = false)
    (h : ∀ d ∈ ds, d.WellFormed) (hu : ∀ d ∈ ds, d.Unambiguous) :
    parse (p ++ ds.flatMap TableDecl.written) = ⟨ds.map TableDecl.table, []⟩ := by
  have houtcomes := outcomes_written hp h hu
  have htables : (parse (p ++ ds.flatMap TableDecl.written)).tables = ds.map TableDecl.table := by
    rw [tables_parse, houtcomes, List.filterMap_map]
    exact congrFun List.filterMap_eq_map _
  have hskipped : (parse (p ++ ds.flatMap TableDecl.written)).skipped = [] := by
    rw [skipped_parse, houtcomes, List.filterMap_map, List.filterMap_eq_nil_iff]
    intro d _
    rfl
  rw [← htables, ← hskipped]

/-- A table whose names, types and texts come close to what is searched for. -/
def trickyDecl : TableDecl where
  heading := ⟨"Create TABLE".toList, by decide⟩
  guard? := some ⟨"if not Exists".toList, by decide⟩
  name := ⟨"create".toList, by decide, by decide⟩
  columns := [
    { name := ⟨"COMMENT".toList, by decide, by decide⟩
      type := ⟨"not".toList, by decide, by decide⟩
      arguments? := some "17, 2".toList
      nullity := .defaultNull ⟨"Default NULL".toList, by decide⟩
      comment? := some ⟨⟨"comment".toList, by decide⟩, "PRIMARY KEY, not (null)".toList⟩ },
    { name := ⟨"IF".toList, by decide, by decide⟩
      type := ⟨"create".toList, by decide, by decide⟩
      arguments? := none
      nullity := .notNull ⟨"not NULL".toList, by decide⟩
      comment? := none }]
  key? := some {
    keyword := ⟨"Primary KEY".toList, by decide⟩
    names := [⟨"IF".toList, by decide, by decide⟩, ⟨"b".toList, by decide, by decide⟩]
    names_ne_nil := by decide
    method := ⟨"using btree".toList, by decide⟩ }
  indexes := [⟨⟨"index".toList, by decide⟩, ⟨"i".toList, by decide, by decide⟩,
    ⟨"IF".toList, by decide, by decide⟩, ⟨"USING BTREE".toList, by decide⟩⟩]
  engine := ⟨"ENGINE = InnoDB".toList, by decide⟩
  comment? := some ⟨⟨"COMMENT".toList, by decide⟩, "a)b".toList⟩

theorem parse_written_tricky :
    occurs startsHeading "-- Create\n".toList = false ∧ trickyDecl.WellFormed ∧
      trickyDecl.Unambiguous ∧
      parse ("-- Create\n".toList ++ [trickyDecl].flatMap TableDecl.written) =
        ⟨[trickyDecl].map TableDecl.table, []⟩ := by
  have hp : occurs startsHeading "-- Create\n".toList = false := by decide
  have h : trickyDecl.WellFormed := by decide +kernel
  have hu : trickyDecl.Unambiguous := by decide +kernel
  exact ⟨hp, h, hu, parse_written _ [trickyDecl] hp (by simpa using h) (by simpa using hu)⟩

/-- A table with one nullable column that has type arguments and no comments at all. -/
def nullableDecl (arguments : List Char) : TableDecl where
  heading := ⟨"CREATE TABLE".toList, by decide⟩
  guard? := none
  name := ⟨"t".toList, by decide, by decide⟩
  columns := [{
    name := ⟨"k".toList, by decide, by decide⟩
    type := ⟨"set".toList, by decide, by decide⟩
    arguments? := some arguments
    nullity := .defaultNull ⟨"DEFAULT NULL".toList, by decide⟩
    comment? := none }]
  key? := none
  indexes := []
  engine := ⟨"ENGINE = InnoDB".toList, by decide⟩
  comment? := none

/-- Type arguments in which something else can be read break the round trip. -/
theorem parse_written_arguments :
    let notNull := nullableDecl "NOT NULL".toList
    let heading := nullableDecl "CREATE TABLE".toList
    (notNull.WellFormed ∧ parse notNull.written ≠ ⟨[notNull.table], []⟩) ∧
      heading.WellFormed ∧ parse heading.written ≠ ⟨[heading.table], []⟩ := by
  decide +kernel

end TableAtlas.Dump
