import TableAtlas.Command.Run

/-!
# Outcomes of commands

A command comes to an output or to the cause of a failure. The policy settles it first, then the
dump, then the schema in it, and last the selection, where there is one. The notices and the log on
the way change nothing.
-/

namespace TableAtlas

open Text

namespace Report

def outcome (r : Report) : Except CommandError (List Char) :=
  match r.failure with
  | some e => .error e
  | none => .ok r.output

@[simp] theorem outcome_after (r : Report) (notices : List Notice) (log : List Record) :
    (r.after notices log).outcome = r.outcome := rfl

@[simp] theorem outcome_failed (e : CommandError) : (failed e).outcome = .error e := rfl

/-- The cause of a failure is the last word. -/
theorem exit_of_outcome_error {r : Report} {e : CommandError} (h : r.outcome = .error e) :
    r.exitCode = 1 ∧ r.messages.getLast? = some e.message := by
  unfold outcome at h
  cases hfailure : r.failure with
  | none => simp [hfailure] at h
  | some cause =>
    simp only [hfailure, Except.error.injEq] at h
    simp [exitCode, messages, hfailure, h]

theorem exit_of_outcome_ok {r : Report} {s : List Char} (h : r.outcome = .ok s) :
    r.exitCode = 0 ∧ r.output = s := by
  unfold outcome at h
  cases hfailure : r.failure with
  | some cause => simp [hfailure] at h
  | none =>
    simp only [hfailure, Except.ok.injEq] at h
    simp [exitCode, hfailure, h]

end Report

namespace Command

def outcome (result : Result) : Except LookupError (Except CommandError (List Char)) :=
  result.map Report.outcome

theorem eq_error_of_outcome {result : Result} {e : LookupError} (h : outcome result = .error e) :
    result = .error e := by
  cases result with
  | error cause => simpa [outcome, Except.map] using h
  | ok r => simp [outcome, Except.map] at h

theorem exists_report_of_outcome {result : Result} {o : Except CommandError (List Char)}
    (h : outcome result = .ok o) : ∃ r, result = .ok r ∧ r.outcome = o := by
  cases result with
  | error cause => simp [outcome, Except.map] at h
  | ok r => exact ⟨r, rfl, by simpa [outcome, Except.map] using h⟩

section Stages

variable (t : FileTree) (l : Location)

/-- The policy that is read from a location, or the bundled one where none is given. -/
def policyOf (l : Option Location) : Except CommandError Policy :=
  match l with
  | none => .ok .bundled
  | some l => (Policy.load t l).mapError (.policy l)

theorem policyOf_none : policyOf t none = .ok .bundled := rfl

/-- The text of a dump that is there and has the name of one. -/
def textOf : Except LookupError (Except CommandError (List Char)) :=
  (t.exists? l).map fun found =>
    if !found then .error (.missingDump l)
    else if !isDumpName l then .error .wrongExtension
    else dumpText t l

def schemaOf : Except LookupError (Except CommandError Schema) :=
  (textOf t l).map (·.bind fun dump => (Dump.extract (.text dump)).mapError .extraction)

/-- A session with the table selected that is asked for, if one is. -/
def selectionOf (s : Session) (select : Option String) : Except CommandError Session :=
  match select with
  | none => .ok s
  | some table =>
    if s.schema.tableIds.contains table then .ok (s.select (some table))
    else .error (.unknownTable table)

end Stages

section Outcomes

variable (t : FileTree) (l : Location) (format : Format)

theorem withPolicy_eq (policy : Option Location) (next : Policy → Result) :
    withPolicy t policy next = match policyOf t policy with
      | .error e => .ok (.failed e)
      | .ok p => next p := by
  cases policy with
  | none => rfl
  | some l =>
    simp only [withPolicy, policyOf]
    cases Policy.load t l <;> rfl

theorem outcome_dumpReport (next : List Char → Report) :
    (dumpReport t l next).outcome =
      if !isDumpName l then .error .wrongExtension
      else (dumpText t l).bind fun dump => (next dump).outcome := by
  unfold dumpReport
  split
  · rfl
  · cases dumpText t l <;> simp [Except.bind]

theorem outcome_withDump (next : List Char → Report) :
    outcome (withDump t l next) =
      (textOf t l).map (·.bind fun dump => (next dump).outcome) := by
  unfold withDump textOf
  cases t.exists? l with
  | error e => rfl
  | ok found =>
    cases found with
    | false => rfl
    | true =>
      simp only [Except.map, outcome, ↓reduceIte, outcome_dumpReport, Bool.not_true,
        Bool.false_eq_true]
      split <;> rfl

theorem outcome_withSchema (next : Schema → Report) :
    outcome (withSchema t l next) =
      (schemaOf t l).map (·.bind fun schema => (next schema).outcome) := by
  rw [withSchema, outcome_withDump, schemaOf]
  cases textOf t l with
  | error e => rfl
  | ok text =>
    cases text with
    | error e => rfl
    | ok dump =>
      simp only [Except.map, Except.bind, Report.outcome_after]
      cases Dump.extract (.text dump) <;> rfl

theorem outcome_withSelection (s : Session) (select : Option String) (next : Session → Report) :
    (withSelection s select next).outcome =
      (selectionOf s select).bind fun s => (next s).outcome := by
  cases select with
  | none => rfl
  | some table =>
    simp only [withSelection, selectionOf]
    split <;> rfl

theorem outcome_parse :
    outcome (parse t l format) = (schemaOf t l).map (·.map fun schema =>
      if format = .json then (schemaJson schema).streamText else []) := by
  rw [parse, outcome_withSchema]
  rfl

theorem outcome_relationships (policy : Option Location) :
    outcome (relationships t l format policy) = match policyOf t policy with
      | .error e => .ok (.error e)
      | .ok p => (schemaOf t l).map (·.map fun schema =>
        if format = .json then
          (Json.array ((p.relationships schema.tables).map relationshipJson)).streamText
        else []) := by
  rw [relationships, withPolicy_eq]
  cases policyOf t policy with
  | error e => rfl
  | ok p =>
    simp only [outcome_withSchema]
    rfl

/-- A session shows the schema of a dump where a command finds it. -/
theorem outcome_diagram (select : Option String) (policy : Option Location)
    (title : Option String) :
    outcome (diagram t l format select policy title) = match policyOf t policy with
      | .error e => .ok (.error e)
      | .ok p => (schemaOf t l).map (·.bind fun schema =>
        (selectionOf ((Session.new p).display schema) select).map fun s =>
          documentOutput format title (s.document l.stem)) := by
  rw [diagram, withPolicy_eq]
  cases policyOf t policy with
  | error e => rfl
  | ok p =>
    have hafter : ∀ result : Result, outcome (result.map (·.after [] Session.newLog)) =
        outcome result := by
      intro result
      cases result <;> rfl
    simp only [hafter, outcome_withDump, schemaOf]
    cases textOf t l with
    | error e => rfl
    | ok text =>
      cases text with
      | error e => rfl
      | ok dump =>
        simp only [Except.map, Except.bind, Report.outcome_after, Session.load]
        cases Dump.extract (.text dump) with
        | error cause => rfl
        | ok schema =>
          have herror : ((Session.new p).display schema).error = none := rfl
          simp only [herror, outcome_withSelection]
          rfl

end Outcomes

end Command

end TableAtlas
