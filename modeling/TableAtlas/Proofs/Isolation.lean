import TableAtlas.Dump.Extraction
import TableAtlas.Proofs.Heading

/-!
# Isolation of statements

What comes of a statement depends on the text between its heading and the next one alone. So
the extraction from a dump is put together from the extractions of its parts wherever it is cut
before a heading, and a statement without a table costs no other statement its table.
-/

namespace TableAtlas.Dump

open Text

/-- One outcome for every heading, in the order of the headings. -/
theorem outcomes_eq (dump : List Char) :
    outcomes dump =
      (headings dump).map fun rest => Outcome.ofStatement (untilHeading rest) := by
  rw [outcomes, statements_eq, List.map_map]
  rfl

theorem outcomes_append {b : List Char} (hb : startsHeading b = true) (a : List Char) :
    outcomes (a ++ b) = outcomes a ++ outcomes b := by
  simp only [outcomes, statements_append hb, List.map_append]

theorem tables_parse_append {b : List Char} (hb : startsHeading b = true) (a : List Char) :
    (parse (a ++ b)).tables = (parse a).tables ++ (parse b).tables := by
  simp only [tables_parse, outcomes_append hb, List.filterMap_append]

theorem skipped_parse_append {b : List Char} (hb : startsHeading b = true) (a : List Char) :
    (parse (a ++ b)).skipped = (parse a).skipped ++ (parse b).skipped := by
  simp only [skipped_parse, outcomes_append hb, List.filterMap_append]

theorem parseLog_append {b : List Char} (hb : startsHeading b = true) (a : List Char) :
    parseLog (a ++ b) = parseLog a ++ parseLog b := by
  simp only [parseLog_eq, outcomes_append hb, List.map_append]

/-- The warnings of a run over outcomes are its skips. -/
theorem warnings_of_outcomes (os : List Outcome) :
    (os.map Outcome.record).filter Record.isWarning =
      (os.filterMap Outcome.skipped?).map Record.skipped := by
  induction os with
  | nil => rfl
  | cons o os ih =>
    rw [List.map_cons, List.filterMap_cons]
    cases o with
    | table t keys =>
      simpa [Outcome.record, Outcome.skipped?, Record.isWarning, Record.level] using ih
    | skipped s =>
      simpa [Outcome.record, Outcome.skipped?, Record.isWarning, Record.level] using ih

theorem length_tables_add_length_skipped (os : List Outcome) :
    (os.filterMap Outcome.table?).length + (os.filterMap Outcome.skipped?).length = os.length := by
  induction os with
  | nil => rfl
  | cons o os ih =>
    cases o <;> simp [List.filterMap_cons, Outcome.table?, Outcome.skipped?] <;> omega

/-- Extraction goes heading by heading. It commutes with putting a dump in front of one that
begins with a heading, whatever the first one ends in. And every place at which a heading stands
yields one outcome, a table or a skip, from the text up to the next heading. The tables, the
skips and the records are those of the outcomes in their order, and every skip is told by a
warning of its own. -/
theorem parse_isolates_statements :
    (∀ a heading rest : List Char, IsHeading heading →
      (parse (a ++ (heading ++ rest))).tables =
          (parse a).tables ++ (parse (heading ++ rest)).tables ∧
        (parse (a ++ (heading ++ rest))).skipped =
          (parse a).skipped ++ (parse (heading ++ rest)).skipped ∧
        parseLog (a ++ (heading ++ rest)) = parseLog a ++ parseLog (heading ++ rest)) ∧
    ∀ dump : List Char,
      outcomes dump =
        (headings dump).map (fun rest => Outcome.ofStatement (untilHeading rest)) ∧
      (parse dump).tables = (outcomes dump).filterMap Outcome.table? ∧
      (parse dump).skipped = (outcomes dump).filterMap Outcome.skipped? ∧
      parseLog dump = (outcomes dump).map Outcome.record ∧
      (parseLog dump).filter Record.isWarning = (parse dump).skipped.map Record.skipped ∧
      (parse dump).tables.length + (parse dump).skipped.length = (headings dump).length := by
  constructor
  · intro a heading rest h
    have hb : startsHeading (heading ++ rest) = true := startsHeading_iff.2 ⟨heading, rest, h, rfl⟩
    exact ⟨tables_parse_append hb a, skipped_parse_append hb a, parseLog_append hb a⟩
  · intro dump
    refine ⟨outcomes_eq dump, tables_parse dump, skipped_parse dump, parseLog_eq dump, ?_, ?_⟩
    · rw [parseLog_eq, skipped_parse, warnings_of_outcomes]
    · rw [tables_parse, skipped_parse, length_tables_add_length_skipped, outcomes_eq,
        List.length_map]

/-- A statement that breaks off inside a name leaves the next one alone. -/
theorem parse_isolates_broken_statement :
    IsHeading "Create\tTABLE".toList ∧
      (parse ("CREATE TABLE t (`k` int, `CREATE ".toList ++
        ("Create\tTABLE".toList ++ " u (`k` int)".toList))).tables =
        (parse "CREATE TABLE t (`k` int, `CREATE ".toList).tables ++
          (parse ("Create\tTABLE".toList ++ " u (`k` int)".toList)).tables := by
  have h : IsHeading "Create\tTABLE".toList :=
    ⟨"Create".toList, ['\t'], "TABLE".toList, by decide, by decide, by decide, by decide, by decide⟩
  exact ⟨h, (parse_isolates_statements.1 _ _ _ h).1⟩

end TableAtlas.Dump
