import TableAtlas.Command.Run
import TableAtlas.Proofs.Isolation
import TableAtlas.Proofs.LineEnds
import TableAtlas.Proofs.SchemaForm

/-!
# Line ends of dumps

Whichever way the lines of a dump end, it has the same statements, cut at the same places. Names,
lines and excerpts hold no line end, so all that is left of the difference are the line ends in
the comments of tables, and in names of key lists, which no column can have.
-/

namespace TableAtlas

open Text

def Table.unifyComment (t : Table) : Table :=
  { t with comment := String.ofList (unifyBreaks t.comment.toList) }

/-- The schema with line feeds for all line ends of its comments. -/
def Schema.unifyComments (s : Schema) : Schema :=
  { s with tables := s.tables.map Table.unifyComment }

namespace Dump

theorem breaksAlike_isBlank : BreaksAlike isBlank := by decide

theorem breaksAlike_isWord : BreaksAlike isWord := by decide

theorem breaksAlike_isQuote : BreaksAlike isQuote := by decide

/-! ## Statements -/

theorem breakBlind_afterHeading? : BreakBlind afterHeading? :=
  (breakBlind_afterKeyword? (by decide)).bind
    (breakBlind_afterBlanks?.bind (breakBlind_afterKeyword? (by decide)))

theorem startsHeading_unifyBreaks (s : List Char) :
    startsHeading (unifyBreaks s) = startsHeading s := by
  rw [startsHeading, breakBlind_afterHeading?, Option.isSome_map, startsHeading]

theorem headings_unifyBreaks (s : List Char) :
    headings (unifyBreaks s) = (headings s).map unifyBreaks := by
  have hbreaks : ∀ x ∈ ['\r', '\n'], foldCase x ≠ 'C' := by decide
  have hfeed : ∀ x ∈ ['\n'], foldCase x ≠ 'C' := by decide
  fun_induction unifyBreaks s with
  | case1 => rfl
  | case2 s ih =>
    calc headings (['\n'] ++ unifyBreaks s)
        = headings (unifyBreaks s) := headings_append_of_forall_ne hfeed _
      _ = (headings s).map unifyBreaks := ih
      _ = (headings (['\r', '\n'] ++ s)).map unifyBreaks := by
        rw [headings_append_of_forall_ne hbreaks]
  | case3 c s hcs ih =>
    have hfront := breakBlind_afterHeading? (c :: s)
    rw [unifyBreaks_cons (head?_ne_newline hcs), unifyBreak] at hfront
    rw [headings_cons, headings_cons, hfront, ih]
    cases afterHeading? (c :: s) <;> simp

theorem untilHeading_unifyBreaks (s : List Char) :
    untilHeading (unifyBreaks s) = unifyBreaks (untilHeading s) := by
  have hreturn : foldCase '\r' ≠ 'C' := by decide
  have hfeed : foldCase '\n' ≠ 'C' := by decide
  fun_induction unifyBreaks s with
  | case1 => rfl
  | case2 s ih =>
    rw [untilHeading_cons_of_ne hfeed, untilHeading_cons_of_ne hreturn,
      untilHeading_cons_of_ne hfeed, ih, unifyBreaks]
  | case3 c s hcs ih =>
    have hfront := startsHeading_unifyBreaks (c :: s)
    have hcut : c = '\r' → (untilHeading s).head? ≠ some '\n' := by
      intro hc hhead
      obtain ⟨t, ht⟩ := List.head?_eq_some_iff.1 hhead
      obtain ⟨r, hr⟩ := ht ▸ untilHeading_isPrefix s
      exact hcs (t ++ r) hc hr.symm
    rw [unifyBreaks_cons (head?_ne_newline hcs), unifyBreak] at hfront
    rw [untilHeading, untilHeading, hfront, ih]
    split
    · rfl
    · rw [unifyBreaks_cons hcut, unifyBreak]

theorem statements_unifyBreaks (dump : List Char) :
    statements (unifyBreaks dump) = (statements dump).map unifyBreaks := by
  simp [statements_eq, headings_unifyBreaks, untilHeading_unifyBreaks]

/-! ## Names -/

theorem unifyBreaks_word {n : List Char} (h : IsWordRun n) : unifyBreaks n = n := by
  exact unifyBreaks_eq_self (h.not_mem (by decide))

theorem dropQuote_unifyBreaks (s : List Char) :
    dropQuote (unifyBreaks s) = unifyBreaks (dropQuote s) := by
  fun_cases unifyBreaks s with
  | case1 => rfl
  | case2 s => rfl
  | case3 c s hcs =>
    have hquote := breaksAlike_isQuote.apply_unifyBreak c
    rw [unifyBreak] at hquote
    rw [dropQuote, dropQuote, hquote]
    split
    · rfl
    · rw [unifyBreaks_cons (head?_ne_newline hcs), unifyBreak]

theorem leadingName?_unifyBreaks (s : List Char) :
    leadingName? (unifyBreaks s) = (leadingName? s).map fun r => (r.1, unifyBreaks r.2) := by
  simp only [leadingName?, dropQuote_unifyBreaks, takeWhile_unifyBreaks breaksAlike_isWord,
    dropWhile_unifyBreaks breaksAlike_isWord, isEmpty_unifyBreaks]
  split
  case isTrue => rfl
  case isFalse hne =>
    rw [unifyBreaks_word (isWordRun_takeWhile (by simpa using hne))]
    rfl

theorem breakBlind_afterGuard? : BreakBlind afterGuard? :=
  (breakBlind_afterKeyword? (by decide)).bind (breakBlind_afterBlanks?.bind
    ((breakBlind_afterKeyword? (by decide)).bind (breakBlind_afterBlanks?.bind
      ((breakBlind_afterKeyword? (by decide)).bind breakBlind_afterBlanks?))))

theorem tableName?_unifyBreaks (s : List Char) : tableName? (unifyBreaks s) = tableName? s := by
  have hguard : (afterGuard? (unifyBreaks (s.dropWhile isBlank))).bind leadingName? =
      ((afterGuard? (s.dropWhile isBlank)).bind leadingName?).map
        fun r => (r.1, unifyBreaks r.2) := by
    simp only [breakBlind_afterGuard? _, Option.bind_map, Function.comp_def,
      leadingName?_unifyBreaks, Option.map_bind]
  simp only [tableName?, dropWhile_unifyBreaks breaksAlike_isBlank, hguard,
    leadingName?_unifyBreaks, ← Option.map_or, Option.map_map, Function.comp_def]

/-! ## Blocks -/

def Block.unifyBreaks (b : Block) : Block :=
  ⟨b.name, Text.unifyBreaks b.body, Text.unifyBreaks b.trailing⟩

theorem depth?_unifyBreaks (d : Nat) (s : List Char) :
    depth? d (unifyBreaks s) = depth? d s := by
  have hreturn : ∀ (d : Nat) (s : List Char), depth? d ('\r' :: s) = depth? d s :=
    depth?_cons (by decide) (by decide)
  have hfeed : ∀ (d : Nat) (s : List Char), depth? d ('\n' :: s) = depth? d s :=
    depth?_cons (by decide) (by decide)
  fun_induction unifyBreaks s generalizing d with
  | case1 => rfl
  | case2 s ih => rw [hfeed, hreturn, hfeed, ih]
  | case3 c s hcs ih =>
    by_cases hc : c = '\r'
    · rw [if_pos hc, hc, hfeed, hreturn, ih]
    · rw [if_neg hc]
      by_cases hopen : c = '('
      · rw [hopen, depth?_open, depth?_open, ih]
      · by_cases hclose : c = ')'
        · cases d with
          | zero => rw [hclose, depth?_close_zero, depth?_close_zero]
          | succ d => rw [hclose, depth?_close, depth?_close, ih]
        · rw [depth?_cons hopen hclose, depth?_cons hopen hclose, ih]

theorem ofStatement_unifyBreaks (s : List Char) :
    Block.ofStatement (unifyBreaks s) = (Block.ofStatement s).map Block.unifyBreaks := by
  have hopen : '(' ∉ ['\r', '\n'] := by decide
  have hclose : ')' ∉ ['\r', '\n'] := by decide
  by_cases hs : '(' ∈ s
  case neg =>
    have hs' : '(' ∉ unifyBreaks s := (mem_unifyBreaks_iff hopen).not.2 hs
    rw [ofStatement_of_no_open hs, ofStatement_of_no_open hs', tableName?_unifyBreaks]
    cases tableName? s <;> rfl
  case pos =>
    obtain ⟨front, rest, rfl, hfront⟩ := List.eq_append_cons_of_mem hs
    have hfront' : '(' ∉ unifyBreaks front := (mem_unifyBreaks_iff hopen).not.2 hfront
    rw [unifyBreaks_append_cons hopen]
    -- indices differ from text to text, depths do not: the list ends where the depth is left
    cases hdepth : depth? 0 rest with
    | some e =>
      rw [ofStatement_of_open hfront hdepth, ofStatement_of_open hfront'
        ((depth?_unifyBreaks 0 rest).trans hdepth), tableName?_unifyBreaks]
      cases tableName? front <;> rfl
    | none =>
      obtain ⟨p, q, rfl, hp⟩ := exists_close_of_depth?_eq_none hdepth
      rw [unifyBreaks_append_cons hclose, ofStatement_of_closed hfront hp, ofStatement_of_closed
        hfront' ((depth?_unifyBreaks 0 p).trans hp), tableName?_unifyBreaks]
      cases tableName? front <;> rfl

/-! ## Keys and columns -/

theorem breakBlind_keyList? : BreakBlind keyList? :=
  (breakBlind_afterKeyword? (by decide)).bind
    ((breakBlind_enclosed? (by decide) (by decide)).dropWhile breaksAlike_isBlank)

theorem splitOn_unifyBreaks {d : Char} (hd : d ∉ ['\r', '\n']) (s : List Char) :
    (unifyBreaks s).splitOn d = (s.splitOn d).map unifyBreaks := by
  induction hn : s.length using Nat.strong_induction_on generalizing s with
  | _ n ih =>
    subst hn
    by_cases hs : d ∈ s
    · obtain ⟨u, v, rfl, hu⟩ := List.eq_append_cons_of_mem hs
      have hu' : d ∉ unifyBreaks u := (mem_unifyBreaks_iff hd).not.2 hu
      have hshorter : v.length < (u ++ d :: v).length := by
        rw [List.length_append, List.length_cons]
        omega
      rw [unifyBreaks_append_cons hd, List.splitOn_append_cons_self_of_not_mem hu,
        List.splitOn_append_cons_self_of_not_mem hu', ih v.length hshorter v rfl, List.map_cons]
    · have hs' : d ∉ unifyBreaks s := (mem_unifyBreaks_iff hd).not.2 hs
      rw [List.splitOn_eq_singleton hs, List.splitOn_eq_singleton hs', List.map_singleton]

/-- A word is a key of both texts or of none. A name with a line end is no word. -/
theorem mem_listedNames_unifyBreaks {n : List Char} (hn : IsWordRun n) (list : List Char) :
    n ∈ listedNames (unifyBreaks list) ↔ n ∈ listedNames list := by
  have hreturn : '\r' ∉ n := hn.not_mem (by decide)
  have hfeed : '\n' ∉ n := hn.not_mem (by decide)
  simp only [mem_listedNames, splitOn_unifyBreaks (d := ',') (by decide), List.mem_map,
    exists_exists_and_eq_and, trim, trimBy_unifyBreaks breaksAlike_isBlank,
    trimBy_unifyBreaks breaksAlike_isQuote, unifyBreaks_eq_iff hreturn hfeed]

theorem mem_keyNames_unifyBreaks {n : List Char} (hn : IsWordRun n) (body : List Char) :
    String.ofList n ∈ keyNames (unifyBreaks body) ↔ String.ofList n ∈ keyNames body := by
  have hfind := breakBlind_keyList?.search? (fun s => by rfl) body
  simp only [mem_keyNames, hfind, Option.map_eq_some_iff, exists_exists_and_eq_and,
    mem_listedNames_unifyBreaks hn]

theorem columns_unifyBreaks (body : List Char) :
    columns (keyNames (unifyBreaks body)) (unifyBreaks body) = columns (keyNames body) body := by
  have hlines : columns (keyNames (unifyBreaks body)) (unifyBreaks body) =
      columns (keyNames (unifyBreaks body)) body := by
    rw [columns, columns, lines_unifyBreaks]
  -- the lines are the same, but the key names need not be: they may hold line ends
  rw [hlines, columns_congr fun n hn => mem_keyNames_unifyBreaks hn body]

/-! ## Schemas -/

theorem breakBlind_commentOption? : BreakBlind commentOption? :=
  (breakBlind_afterKeyword? (by decide)).bind
    (((breakBlind_afterChar? (by decide)).dropWhile breaksAlike_isBlank).bind
      ((breakBlind_enclosed? (by decide) (by decide)).dropWhile breaksAlike_isBlank))

theorem tableComment_unifyBreaks (trailing : List Char) :
    tableComment (unifyBreaks trailing) = unifyBreaks (tableComment trailing) := by
  rw [tableComment, breakBlind_commentOption?.search? (fun s => by rfl), tableComment]
  cases search? commentOption? trailing <;> rfl

theorem excerpt_unifyBreaks (s : List Char) : excerpt (unifyBreaks s) = excerpt s := by
  rw [excerpt, squeeze_unifyBreaks, excerpt]

namespace Outcome

theorem table?_unifyBreaks (s : List Char) :
    (ofStatement (unifyBreaks s)).table? = (ofStatement s).table?.map Table.unifyComment := by
  simp only [ofStatement, ofStatement_unifyBreaks]
  cases Block.ofStatement s with
  | error reason => rfl
  | ok b =>
    simp only [Except.map, ofBlock, table?, Block.unifyBreaks, columns_unifyBreaks,
      tableComment_unifyBreaks, Option.map_some, Table.unifyComment, String.toList_ofList]

theorem skipped?_unifyBreaks (s : List Char) :
    (ofStatement (unifyBreaks s)).skipped? = (ofStatement s).skipped? := by
  simp only [ofStatement, ofStatement_unifyBreaks, excerpt_unifyBreaks]
  cases Block.ofStatement s <;> rfl

end Outcome

theorem outcomes_unifyBreaks (dump : List Char) :
    outcomes (unifyBreaks dump) =
      (statements dump).map fun s => Outcome.ofStatement (unifyBreaks s) := by
  rw [outcomes, statements_unifyBreaks, List.map_map]
  rfl

theorem parse_unifyBreaks (dump : List Char) :
    parse (unifyBreaks dump) = (parse dump).unifyComments := by
  have htables : (parse (unifyBreaks dump)).tables =
      (parse dump).tables.map Table.unifyComment := by
    rw [tables_parse, tables_parse, outcomes_unifyBreaks, outcomes]
    simp only [List.filterMap_map, List.map_filterMap, Function.comp_def,
      Outcome.table?_unifyBreaks]
  have hskipped : (parse (unifyBreaks dump)).skipped = (parse dump).skipped := by
    rw [skipped_parse, skipped_parse, outcomes_unifyBreaks, outcomes]
    simp only [List.filterMap_map, Function.comp_def, Outcome.skipped?_unifyBreaks]
  simp only [Schema.unifyComments, ← htables, ← hskipped]

theorem extract_unifyBreaks (dump : List Char) :
    extract (.text (unifyBreaks dump)) = (extract (.text dump)).map Schema.unifyComments := by
  simp only [extract, parse_unifyBreaks]
  have hempty : (parse dump).unifyComments.tables.isEmpty = (parse dump).tables.isEmpty := by
    simp [Schema.unifyComments]
  rw [hempty]
  split <;> rfl

end Dump

/-! ## Commands and sessions -/

/-- The text of a dump with the line ends that the file has. -/
def Command.storedText (t : FileTree) (l : Location) : Except CommandError (List Char) :=
  match t.open? l with
  | .error cause => .error (.unopenedDump l cause)
  | .ok bytes => (Utf8.decode bytes).mapError (.undecodableDump l)

theorem Command.dumpText_eq (t : FileTree) (l : Location) :
    dumpText t l = (storedText t l).map unifyBreaks := by
  simp only [dumpText, storedText]
  cases t.open? l with
  | error cause => rfl
  | ok bytes =>
    dsimp only
    cases Utf8.decode bytes <;> rfl

/-- The schema that a new session shows for a text, or the cause for which it shows none. -/
def Session.schemaOfText (p : Policy) (dump : List Char) : Except Dump.ExtractionError Schema :=
  let session := ((new p).load (.text dump)).1
  match session.error with
  | some cause => .error cause
  | none => .ok session.schema

theorem Session.schemaOfText_eq (p : Policy) (dump : List Char) :
    schemaOfText p dump = Dump.extract (.text dump) := by
  unfold schemaOfText load
  cases Dump.extract (.text dump) <;> rfl

namespace Dump

/-- To read all line ends as line feeds changes the line ends in the comments of tables and nothing
else in the schema, and no warning. So a command that reads a dump from a file has the schema of a
session that loads the dump as it is stored, up to these line ends. -/
theorem schema_of_unified_breaks (dump : List Char) :
    parse (unifyBreaks dump) = (parse dump).unifyComments ∧
      (parseLog (unifyBreaks dump)).filter Record.isWarning =
        (parseLog dump).filter Record.isWarning ∧
      ∀ (t : FileTree) (l : Location) (p : Policy),
        (Command.dumpText t l).map (fun dump => extract (.text dump)) =
          (Command.storedText t l).map
            fun dump => (Session.schemaOfText p dump).map Schema.unifyComments := by
  refine ⟨parse_unifyBreaks dump, ?_, ?_⟩
  · rw [parseLog_eq, parseLog_eq, warnings_of_outcomes, warnings_of_outcomes, ← skipped_parse,
      ← skipped_parse, parse_unifyBreaks]
    rfl
  · intro t l p
    rw [Command.dumpText_eq]
    cases Command.storedText t l with
    | error e => rfl
    | ok stored => simp only [Except.map, Session.schemaOfText_eq, extract_unifyBreaks]

end Dump

end TableAtlas
