import TableAtlas.Proofs.CommandAgreement

/-!
# All or nothing

A command that fails has put nothing on the output and into no listing, and says why in its last
message and nowhere else. A command that succeeds tells of no failure and says last that it is done.
It succeeds if the policy can be read, the dump holds a schema, and a table that is asked for is one
of that schema. Once there is a policy, a dump that cannot even be looked up leaves no report.
-/

namespace TableAtlas

def Message.isError (m : Message) : Bool := m.label = "Error:"

def Message.isSuccess (m : Message) : Bool := m.label = "✓"

theorem CommandError.isError_message (e : CommandError) : e.message.isError = true := rfl

theorem Notice.isError_message (n : Notice) : n.message.isError = false := by
  unfold message
  split <;> rfl

theorem Notice.isSuccess_message {n : Notice} (h : n.isSuccess = true) :
    n.message.isSuccess = true := by
  rw [message, if_pos h]
  rfl

namespace Report

/-- A failure that has written nothing and is told once, at the end. -/
structure FailsClean (r : Report) : Prop where
  exit : r.exitCode = 1
  output : r.output = []
  listings : r.listings = []
  messages : ∃ front m, r.messages = front ++ [m] ∧ m.isError = true ∧
    ∀ x ∈ front, x.isError = false

/-- A success that is told at the end, without a word of a failure. -/
structure SucceedsWhole (r : Report) : Prop where
  exit : r.exitCode = 0
  messages : ∃ front m, r.messages = front ++ [m] ∧ m.isSuccess = true
  no_error : ∀ x ∈ r.messages, x.isError = false

def AllOrNothing (r : Report) : Prop := r.FailsClean ∨ r.SucceedsWhole

theorem messages_after (r : Report) (notices : List Notice) (log : List Record) :
    (r.after notices log).messages = notices.map Notice.message ++ r.messages := by
  simp [messages, after]

theorem isError_of_mem_notices {notices : List Notice} {m : Message}
    (h : m ∈ notices.map Notice.message) : m.isError = false := by
  obtain ⟨n, -, rfl⟩ := List.mem_map.1 h
  exact n.isError_message

theorem allOrNothing_failed (e : CommandError) : (failed e).AllOrNothing :=
  .inl {
    exit := rfl
    output := rfl
    listings := rfl
    messages := ⟨[], e.message, rfl, e.isError_message, by simp⟩ }

/-- A report without a failure whose only notice is that of success. -/
theorem allOrNothing_of_success {n : Notice} (hn : n.isSuccess = true) (output : List Char)
    (listings : List Listing) (log : List Record) :
    AllOrNothing ⟨[n], output, listings, log, none⟩ :=
  .inr {
    exit := rfl
    messages := ⟨[], n.message, rfl, Notice.isSuccess_message hn⟩
    no_error := by
      intro x hx
      obtain rfl : x = n.message := by simpa [messages] using hx
      exact n.isError_message }

/-- Notices on the way to a report keep it all or nothing. -/
theorem AllOrNothing.after {r : Report} (h : r.AllOrNothing) (notices : List Notice)
    (log : List Record) : (r.after notices log).AllOrNothing := by
  rcases h with h | h
  · obtain ⟨front, m, hm, herror, hfront⟩ := h.messages
    refine .inl
      ⟨h.exit, h.output, h.listings, notices.map Notice.message ++ front, m, ?_, herror, ?_⟩
    · rw [messages_after, hm, List.append_assoc]
    · intro x hx
      rcases List.mem_append.1 hx with hx | hx
      · exact isError_of_mem_notices hx
      · exact hfront x hx
  · obtain ⟨front, m, hm, hsuccess⟩ := h.messages
    refine .inr ⟨h.exit, ⟨notices.map Notice.message ++ front, m, ?_, hsuccess⟩, ?_⟩
    · rw [messages_after, hm, List.append_assoc]
    · intro x hx
      rw [messages_after] at hx
      rcases List.mem_append.1 hx with hx | hx
      · exact isError_of_mem_notices hx
      · exact h.no_error x hx

theorem exitCode_eq_zero_iff {r : Report} : r.exitCode = 0 ↔ ∃ s, r.outcome = .ok s := by
  unfold exitCode outcome
  cases r.failure <;> simp

end Report

namespace Command

/-! ## Reports stage by stage -/

/-- Whether a command reports all or nothing, if it reports at all. -/
def ReportsWhole (result : Result) : Prop := ∀ r, result = .ok r → r.AllOrNothing

section Stages

variable {t : FileTree} {l : Location}

theorem reportsWhole_ok {r : Report} (h : r.AllOrNothing) : ReportsWhole (.ok r) := by
  intro r' hr
  obtain rfl := Except.ok.inj hr
  exact h

theorem ReportsWhole.after {result : Result} (h : ReportsWhole result) (notices : List Notice)
    (log : List Record) : ReportsWhole (result.map (·.after notices log)) := by
  cases result with
  | error e =>
    rintro _ ⟨⟩
  | ok r => exact reportsWhole_ok ((h r rfl).after notices log)

theorem reportsWhole_withPolicy {next : Policy → Result} (h : ∀ p, ReportsWhole (next p))
    (policy : Option Location) : ReportsWhole (withPolicy t policy next) := by
  rw [withPolicy_eq]
  cases policyOf t policy with
  | error e => exact reportsWhole_ok (Report.allOrNothing_failed e)
  | ok p => exact h p

theorem allOrNothing_dumpReport {next : List Char → Report} (h : ∀ dump, (next dump).AllOrNothing) :
    (dumpReport t l next).AllOrNothing := by
  unfold dumpReport
  split
  · exact Report.allOrNothing_failed .wrongExtension
  · cases dumpText t l with
    | error e => exact (Report.allOrNothing_failed e).after _ _
    | ok dump => exact (h dump).after _ _

theorem reportsWhole_withDump {next : List Char → Report} (h : ∀ dump, (next dump).AllOrNothing) :
    ReportsWhole (withDump t l next) := by
  unfold withDump
  cases t.exists? l with
  | error e =>
    rintro _ ⟨⟩
  | ok found =>
    apply reportsWhole_ok
    dsimp only
    split
    · exact allOrNothing_dumpReport h
    · exact Report.allOrNothing_failed (.missingDump l)

theorem reportsWhole_withSchema {next : Schema → Report} (h : ∀ s, (next s).AllOrNothing) :
    ReportsWhole (withSchema t l next) := by
  apply reportsWhole_withDump
  intro dump
  apply Report.AllOrNothing.after
  cases Dump.extract (.text dump) with
  | error cause => exact Report.allOrNothing_failed (.extraction cause)
  | ok s => exact (h s).after _ _

theorem allOrNothing_withSelection {next : Session → Report} (h : ∀ s, (next s).AllOrNothing)
    (s : Session) (select : Option String) : (withSelection s select next).AllOrNothing := by
  cases select with
  | none => exact h s
  | some table =>
    simp only [withSelection]
    split
    · exact (h _).after _ _
    · exact Report.allOrNothing_failed (.unknownTable table)

end Stages

section Commands

variable (t : FileTree) (l : Location) (format : Format)

theorem reportsWhole_parse : ReportsWhole (parse t l format) :=
  reportsWhole_withSchema fun _ => Report.allOrNothing_of_success rfl _ _ _

theorem reportsWhole_relationships (policy : Option Location) :
    ReportsWhole (relationships t l format policy) := by
  apply reportsWhole_withPolicy
  intro p
  exact reportsWhole_withSchema fun _ => Report.allOrNothing_of_success rfl _ _ _

theorem reportsWhole_diagram (select : Option String) (policy : Option Location)
    (title : Option String) : ReportsWhole (diagram t l format select policy title) := by
  apply reportsWhole_withPolicy
  intro p
  apply ReportsWhole.after
  apply reportsWhole_withDump
  intro dump
  apply Report.AllOrNothing.after
  split
  · exact Report.allOrNothing_failed _
  · exact allOrNothing_withSelection (fun _ => Report.allOrNothing_of_success rfl _ _ _) _ _

end Commands

/-! ## What a command comes to -/

/-- Whether the policy can be read, the dump holds a schema and a table that is asked for is one of
that schema. -/
def Admits (t : FileTree) (l : Location) (select : Option String) (policy : Option Location) :
    Prop :=
  (∃ p, policyOf t policy = .ok p) ∧
    ∃ schema, schemaOf t l = .ok (.ok schema) ∧ ∀ table ∈ select, table ∈ schema.tableIds

/-- Whether a command leaves a report that is all or nothing and succeeds on what it admits, or
leaves none because its dump cannot be looked up. -/
def Answers (t : FileTree) (l : Location) (select : Option String) (policy : Option Location)
    (result : Result) : Prop :=
  (∃ r, result = .ok r ∧ r.AllOrNothing ∧ (r.exitCode = 0 ↔ Admits t l select policy)) ∨
    ∃ p e, policyOf t policy = .ok p ∧ t.exists? l = .error e ∧ result = .error e

variable {t : FileTree} {l : Location} {select : Option String} {policy : Option Location}

theorem exists_selectionOf_iff {s : Session} :
    (∃ s', selectionOf s select = .ok s') ↔ ∀ table ∈ select, table ∈ s.schema.tableIds := by
  cases select with
  | none => simp [selectionOf]
  | some table =>
    simp only [selectionOf, List.contains_iff_mem, Option.mem_def, Option.some.injEq, forall_eq']
    split <;> simp [*]

/-- A command whose outcome is made of a policy and a schema answers as it should if it makes an
output of exactly the schemas that have the table asked for. -/
theorem answers_of_outcome {result : Result}
    (finish : Policy → Schema → Except CommandError (List Char))
    (h : outcome result = match policyOf t policy with
      | .error e => .ok (.error e)
      | .ok p => (schemaOf t l).map (·.bind (finish p)))
    (hfinish : ∀ p schema,
      (∃ s, finish p schema = .ok s) ↔ ∀ table ∈ select, table ∈ schema.tableIds)
    (hwhole : ReportsWhole result) : Answers t l select policy result := by
  cases hpolicy : policyOf t policy with
  | error e =>
    rw [hpolicy] at h
    obtain ⟨r, rfl, hr⟩ := exists_report_of_outcome h
    refine .inl ⟨r, rfl, hwhole r rfl, ?_⟩
    simp [Report.exitCode_eq_zero_iff, hr, Admits, hpolicy]
  | ok p =>
    rw [hpolicy] at h
    cases hschema : schemaOf t l with
    | error e =>
      rw [hschema] at h
      exact .inr ⟨p, e, hpolicy, schemaOf_eq_error_iff.1 hschema, eq_error_of_outcome h⟩
    | ok found =>
      rw [hschema] at h
      obtain ⟨r, rfl, hr⟩ := exists_report_of_outcome h
      refine .inl ⟨r, rfl, hwhole r rfl, ?_⟩
      cases found with
      | error e => simp [Report.exitCode_eq_zero_iff, hr, Admits, hschema, Except.bind]
      | ok schema =>
        simp [Report.exitCode_eq_zero_iff, hr, Admits, hpolicy, hschema, Except.bind, hfinish]

theorem map_eq_bind {α β : Type} (found : Except CommandError α) (f : α → β) :
    found.map f = found.bind fun x => .ok (f x) := by
  cases found <;> rfl

/-- Every command leaves a report that is all or nothing, unless its dump cannot be looked up. -/
theorem commands_report_all_or_nothing (t : FileTree) (l : Location) (format : Format)
    (select : Option String) (policy : Option Location) (title : Option String) :
    Answers t l none none (parse t l format) ∧
      Answers t l none policy (relationships t l format policy) ∧
      Answers t l select policy (diagram t l format select policy title) := by
  have hparse := outcome_parse t l format
  have hrelationships := outcome_relationships t l format policy
  simp only [map_eq_bind] at hparse hrelationships
  refine ⟨?_, ?_, ?_⟩
  · refine answers_of_outcome
      (fun _ schema => .ok (if format = .json then (schemaJson schema).streamText else []))
      ?_ (by simp) (reportsWhole_parse t l format)
    -- a listing of a schema is given no policy, so it uses the bundled one
    rw [policyOf_none]
    exact hparse
  · exact answers_of_outcome _ hrelationships (by simp)
      (reportsWhole_relationships t l format policy)
  · refine answers_of_outcome _ (outcome_diagram t l format select policy title) ?_
      (reportsWhole_diagram t l format select policy title)
    intro p schema
    have hselection : _ ↔ ∀ table ∈ select, table ∈ schema.tableIds :=
      exists_selectionOf_iff (s := (Session.new p).display schema)
    rw [← hselection]
    cases selectionOf ((Session.new p).display schema) select <;> simp [Except.map]

/-- A dump whose name is too long to be looked up leaves no report, neither of success nor of
failure. -/
theorem parse_long_name_unanswered :
    parse (.below [] []) ⟨"", [longName]⟩ .json = .error ⟨⟨"", [longName]⟩, .nameTooLong⟩ := by
  have ho := outcome_parse (.below [] []) ⟨"", [longName]⟩ .json
  rw [schemaOf_eq_error_iff.2 exists?_longName] at ho
  exact eq_error_of_outcome ho

end Command

end TableAtlas
