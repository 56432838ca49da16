import TableAtlas.Dump.Block
import TableAtlas.Dump.ColumnLine
import TableAtlas.Dump.KeyClause
import TableAtlas.Dump.Statement
import TableAtlas.Record

/-!
# Extraction of a schema

Every statement of a dump has one outcome, a table or a skip, and every outcome one log
record. A run goes through the statements and gathers the outcomes in their order.
-/

namespace TableAtlas.Dump

open Text

/-- The comment of a table that is set at the front. -/
def commentOption? (s : List Char) : Option (List Char) := do
  let s ← afterChar? '=' ((← afterKeyword? "COMMENT".toList s).dropWhile isBlank)
  enclosed? '\'' '\'' (s.dropWhile isBlank)

/-- The comment that the table options behind a column list set first, if any. -/
def tableComment (trailing : List Char) : List Char := (search? commentOption? trailing).getD []

def excerptLength : Nat := 80

/-- The beginning of a statement on one line. -/
def excerpt (statement : List Char) : List Char := (squeeze statement).take excerptLength

/-- A table comes with the key names that its clause lists. -/
inductive Outcome where
  | table (table : Table) (keys : List String)
  | skipped (statement : Skipped)
  deriving DecidableEq

namespace Outcome

def ofBlock (b : Block) : Outcome :=
  .table {
    id := String.ofList b.name
    name := String.ofList b.name
    comment := String.ofList (tableComment b.trailing)
    columns := columns (keyNames b.body) b.body } (keyNames b.body)

def ofStatement (s : List Char) : Outcome :=
  match Block.ofStatement s with
  | .ok block => ofBlock block
  | .error reason => .skipped ⟨reason, String.ofList (excerpt s)⟩

def record : Outcome → Record
  | .table t keys => .parsed t.name t.columns.length keys
  | .skipped s => .skipped s

def table? : Outcome → Option Table
  | .table t _ => some t
  | .skipped _ => none

def skipped? : Outcome → Option Skipped
  | .table .. => none
  | .skipped s => some s

end Outcome

/-- What a run over the statements of a dump has gathered. -/
structure Extraction where
  tables : List Table
  skipped : List Skipped
  log : List Record

namespace Extraction

def empty : Extraction := ⟨[], [], []⟩

def add (e : Extraction) (o : Outcome) : Extraction :=
  match o with
  | .table t _ => { e with tables := e.tables ++ [t], log := e.log ++ [o.record] }
  | .skipped s => { e with skipped := e.skipped ++ [s], log := e.log ++ [o.record] }

def run (statements : List (List Char)) : Extraction :=
  statements.foldl (fun e s => e.add (Outcome.ofStatement s)) empty

end Extraction

def parse (dump : List Char) : Schema :=
  let e := Extraction.run (statements dump)
  ⟨e.tables, e.skipped⟩

def parseLog (dump : List Char) : List Record := (Extraction.run (statements dump)).log

/-- A schema with at least one table. -/
def extract : Source → Except ExtractionError Schema
  | .other => .error .unreadable
  | .text dump =>
    if (parse dump).tables.isEmpty then .error .noTables else .ok (parse dump)

def extractLog : Source → List Record
  | .other => []
  | .text dump => parseLog dump

def outcomes (dump : List Char) : List Outcome := (statements dump).map Outcome.ofStatement

/-- A run adds to each part of what it began with, and never looks at it. -/
theorem Extraction.foldl_add (e : Extraction) (os : List Outcome) :
    os.foldl Extraction.add e =
      ⟨e.tables ++ os.filterMap Outcome.table?, e.skipped ++ os.filterMap Outcome.skipped?,
        e.log ++ os.map Outcome.record⟩ := by
  induction os generalizing e with
  | nil => simp
  | cons o os ih =>
    rw [List.foldl_cons, ih]
    cases o <;> simp [add, List.filterMap_cons, Outcome.table?, Outcome.skipped?]

theorem Extraction.run_eq (ss : List (List Char)) :
    run ss =
      ⟨(ss.map Outcome.ofStatement).filterMap Outcome.table?,
        (ss.map Outcome.ofStatement).filterMap Outcome.skipped?,
        (ss.map Outcome.ofStatement).map Outcome.record⟩ := by
  have h := Extraction.foldl_add .empty (ss.map Outcome.ofStatement)
  rw [List.foldl_map] at h
  simpa [run, empty] using h

theorem tables_parse (dump : List Char) :
    (parse dump).tables = (outcomes dump).filterMap Outcome.table? := by
  simp [parse, outcomes, Extraction.run_eq]

theorem skipped_parse (dump : List Char) :
    (parse dump).skipped = (outcomes dump).filterMap Outcome.skipped? := by
  simp [parse, outcomes, Extraction.run_eq]

theorem parseLog_eq (dump : List Char) : parseLog dump = (outcomes dump).map Outcome.record := by
  simp [parseLog, outcomes, Extraction.run_eq]

theorem extract_eq_ok_iff {source : Source} {s : Schema} :
    extract source = .ok s ↔ ∃ dump, source = .text dump ∧ s = parse dump ∧ s.tables ≠ [] := by
  cases source with
  | other => simp [extract]
  | text dump =>
    by_cases h : (parse dump).tables = []
    · simp only [extract, h, List.isEmpty_nil, ↓reduceIte, reduceCtorEq, Source.text.injEq,
        false_iff, not_exists, not_and]
      rintro _ rfl rfl
      simpa using h
    · simp only [extract, List.isEmpty_iff, h, ↓reduceIte, Except.ok.injEq, Source.text.injEq]
      constructor
      · rintro rfl
        exact ⟨dump, rfl, rfl, h⟩
      · rintro ⟨_, rfl, rfl, -⟩
        rfl

end TableAtlas.Dump
