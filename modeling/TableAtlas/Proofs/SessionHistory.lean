import Mathlib.Data.List.Induction
import TableAtlas.Diagram.Session
import TableAtlas.Page.Diagram
import TableAtlas.Proofs.HighlightIndex

/-!
# What a session remembers

All that can be seen of a session comes from the last source that loaded and from the last
choice made after it. The index of neighbours outlives the schema it was built for, so this
needs the invariant of the index beside the fact that a failed load touches nothing shown.
-/

namespace TableAtlas.Session

open Dump

/-- Whether a source is a text from which some table can be read. -/
def loads : Source → Bool
  | .text dump => !(parse dump).tables.isEmpty
  | .other => false

/-- The cause for which a source does not load. -/
def failure? (source : Source) : Option ExtractionError :=
  match extract source with
  | .ok _ => none
  | .error cause => some cause

namespace Step

def source? : Step → Option Source
  | load source => some source
  | select _ | clear => none

/-- Whether a step loads a source with success. -/
def succeeds (step : Step) : Bool := step.source?.any loads

def isChoice : Step → Bool
  | load _ => false
  | select _ | clear => true

end Step

/-- The steps behind the last load that succeeded, or all steps if none did. -/
def sinceLoad (steps : List Step) : List Step :=
  (steps.reverse.takeWhile (!·.succeeds)).reverse

/-- The last load that succeeded, if any, and the last choice behind it, if any. -/
def essential (steps : List Step) : List Step :=
  (steps.filter Step.succeeds).getLast?.toList ++
    ((sinceLoad steps).filter Step.isChoice).getLast?.toList

/-- The source of the last load, whether it succeeded or not. -/
def lastSource? (steps : List Step) : Option Source := (steps.filterMap Step.source?).getLast?

/-- A session that shows a schema with the relationships that a policy infers for it, with nothing
selected and no error. -/
structure Shows (s : Session) (p : Policy) (content : Schema) : Prop where
  policy : s.policy = p
  schema : s.schema = content
  relationships : s.relationships = p.relationships content.tables
  unselected : s.highlight.selected = none
  error : s.error = none

/-- Two sessions that cannot be told apart, except by their errors. -/
structure LooksLike (s t : Session) : Prop where
  schema : s.schema = t.schema
  relationships : s.relationships = t.relationships
  selected : s.highlight.selected = t.highlight.selected
  adjacency : s.highlight.adjacency = t.highlight.adjacency
  tableSelected : ∀ id, s.highlight.isSelected id = t.highlight.isSelected id
  tableDimmed : ∀ id, s.highlight.isDimmed id = t.highlight.isDimmed id
  edgeEmphasized : ∀ r, s.highlight.isEmphasized r = t.highlight.isEmphasized r
  edgeDimmed : ∀ r, s.highlight.isEdgeDimmed r = t.highlight.isEdgeDimmed r
  document : ∀ name, s.document name = t.document name
  page : ∀ title name, Page.render title (s.document name) = Page.render title (t.document name)

/-- What a session shows is determined by its schema, its relationships, their index and the
selection. -/
theorem looksLike_of_eq {s t : Session} (hschema : s.schema = t.schema)
    (hrels : s.relationships = t.relationships)
    (hadj : s.highlight.adjacency = t.highlight.adjacency)
    (hsel : s.highlight.selected = t.highlight.selected) : LooksLike s t := by
  have hselected : ∀ id, s.highlight.isSelected id = t.highlight.isSelected id := by
    intro id
    rw [Highlight.isSelected, Highlight.isSelected, hsel]
  have hdimmed : ∀ id, s.highlight.isDimmed id = t.highlight.isDimmed id := by
    intro id
    simp only [Highlight.isDimmed, Highlight.neighbours, hsel, hadj]
  have hemph : ∀ r, s.highlight.isEmphasized r = t.highlight.isEmphasized r := by
    intro r
    rw [Highlight.isEmphasized, Highlight.isEmphasized, hsel]
  have hedge : ∀ r, s.highlight.isEdgeDimmed r = t.highlight.isEdgeDimmed r := by
    intro r
    rw [Highlight.isEdgeDimmed, Highlight.isEdgeDimmed, hsel, hemph]
  have hnode : TableNode.ofTable s.highlight = TableNode.ofTable t.highlight := by
    funext table position
    simp only [TableNode.ofTable, hselected, hdimmed]
  have hedges : Edge.ofRelationship s.highlight = Edge.ofRelationship t.highlight := by
    funext r
    simp only [Edge.ofRelationship, hemph, hedge]
  have hdoc : ∀ name, s.document name = t.document name := by
    intro name
    simp only [Session.document, Document.ofTables, hschema, hrels, hsel, hnode, hedges]
  exact ⟨hschema, hrels, hsel, hadj, hselected, hdimmed, hemph, hedge, hdoc,
    fun title name => by rw [hdoc]⟩

theorem LooksLike.refl (s : Session) : LooksLike s s := looksLike_of_eq rfl rfl rfl rfl

theorem LooksLike.select {s t : Session} (h : LooksLike s t) (table : Option String) :
    LooksLike (s.select table) (t.select table) :=
  looksLike_of_eq h.schema h.relationships h.adjacency rfl

theorem failure?_eq_none_iff {source : Source} :
    failure? source = none ↔ loads source = true := by
  cases source with
  | other => simp [failure?, extract, loads]
  | text dump =>
    by_cases h : (parse dump).tables.isEmpty = true <;> simp [failure?, extract, loads, h]

theorem loads_iff {source : Source} :
    loads source = true ↔ ∃ dump, source = .text dump ∧ (parse dump).tables ≠ [] := by
  cases source with
  | other => simp [loads]
  | text dump => simp [loads]

/-- What a load does to a session that has any state. -/
theorem load_cases (s : Session) (source : Source) :
    (∃ schema, extract source = .ok schema ∧ loads source = true ∧
      s.load source = (s.display schema, true)) ∨
    ∃ cause, failure? source = some cause ∧ loads source = false ∧
      s.load source = ({ s with error := some cause }, false) := by
  have hload : failure? source = none ↔ loads source = true := failure?_eq_none_iff
  cases h : extract source with
  | ok schema =>
    left
    exact ⟨schema, rfl, hload.1 (by rw [failure?, h]), by rw [load, h]⟩
  | error cause =>
    right
    have hcause : failure? source = some cause := by rw [failure?, h]
    refine ⟨cause, hcause, ?_, by rw [load, h]⟩
    rw [hcause] at hload
    simpa using hload

theorem indexServes_apply {s : Session} (h : s.highlight.IndexServes) (step : Step) :
    (s.apply step).highlight.IndexServes := by
  cases step with
  | load source =>
    rw [apply]
    rcases s.load_cases source with ⟨schema, -, -, hl⟩ | ⟨cause, -, -, hl⟩
    · rw [hl]
      exact (h.assign _).select none
    · rw [hl]
      exact h
  | select table => exact h.select table
  | clear => exact h.select none

theorem run_concat (s : Session) (steps : List Step) (step : Step) :
    s.run (steps ++ [step]) = (s.run steps).apply step := by
  rw [run_append]
  rfl

theorem indexServes_run {s : Session} (h : s.highlight.IndexServes) (steps : List Step) :
    (s.run steps).highlight.IndexServes := by
  induction steps using List.reverseRecOn with
  | nil => exact h
  | append_singleton steps step ih =>
    rw [run_concat]
    exact indexServes_apply ih step

theorem policy_run (s : Session) (steps : List Step) : (s.run steps).policy = s.policy := by
  induction steps using List.reverseRecOn with
  | nil => rfl
  | append_singleton steps step ih => rw [run_concat, policy_apply, ih]

theorem relationships_display (s : Session) (schema : Schema) :
    (s.display schema).relationships = s.policy.relationships schema.tables := by
  simp [display, Session.relationships, Highlight.clear, Highlight.select]

/-- Whatever sessions with one policy showed before, they look alike once they show the same
schema. -/
theorem looksLike_display {s t : Session} (hs : s.highlight.IndexServes)
    (ht : t.highlight.IndexServes) (hp : s.policy = t.policy) (schema : Schema) :
    LooksLike (s.display schema) (t.display schema) := by
  refine looksLike_of_eq rfl ?_ ?_ rfl
  · rw [relationships_display, relationships_display, hp]
  · change (s.highlight.assign _).adjacency = (t.highlight.assign _).adjacency
    rw [Highlight.adjacency_assign hs, Highlight.adjacency_assign ht, hp]

theorem sinceLoad_concat (steps : List Step) (step : Step) :
    sinceLoad (steps ++ [step]) = if step.succeeds then [] else sinceLoad steps ++ [step] := by
  rw [sinceLoad, List.reverse_append, List.reverse_singleton, List.singleton_append,
    List.takeWhile_cons]
  cases h : step.succeeds <;> simp [sinceLoad]

theorem essential_concat_of_succeeds (steps : List Step) {step : Step}
    (h : step.succeeds = true) : essential (steps ++ [step]) = [step] := by
  simp [essential, sinceLoad_concat, List.filter_append, h]

theorem essential_concat_of_fails (steps : List Step) {step : Step}
    (h : step.succeeds = false) (hc : step.isChoice = false) :
    essential (steps ++ [step]) = essential steps := by
  simp [essential, sinceLoad_concat, List.filter_append, h, hc]

theorem succeeds_of_isChoice {step : Step} (h : step.isChoice = true) :
    step.succeeds = false := by
  cases step with
  | load source => cases h
  | select table => rfl
  | clear => rfl

/-- A choice replaces the choice before it. -/
theorem apply_apply_of_isChoice {first second : Step} (h₁ : first.isChoice = true)
    (h₂ : second.isChoice = true) (s : Session) :
    (s.apply first).apply second = s.apply second := by
  cases first with
  | load source => cases h₁
  | select table =>
    cases second with
    | load source => cases h₂
    | select table => rfl
    | clear => rfl
  | clear =>
    cases second with
    | load source => cases h₂
    | select table => rfl
    | clear => rfl

theorem run_essential_concat_of_isChoice (s : Session) (steps : List Step) {step : Step}
    (h : step.isChoice = true) :
    s.run (essential (steps ++ [step])) = (s.run (essential steps)).apply step := by
  have hs := succeeds_of_isChoice h
  have hconcat : essential (steps ++ [step]) =
      (steps.filter Step.succeeds).getLast?.toList ++ [step] := by
    simp [essential, sinceLoad_concat, List.filter_append, hs, h]
  rw [hconcat, run_concat, essential, run_append]
  cases hlast : ((sinceLoad steps).filter Step.isChoice).getLast? with
  | none => rfl
  | some choice =>
    have hchoice : choice.isChoice = true :=
      (List.mem_filter.1 (List.mem_of_getLast? hlast)).2
    exact (apply_apply_of_isChoice hchoice h _).symm

theorem LooksLike.apply_of_isChoice {s t : Session} (h : LooksLike s t) {step : Step}
    (hc : step.isChoice = true) : LooksLike (s.apply step) (t.apply step) := by
  cases step with
  | load source => cases hc
  | select table => exact h.select table
  | clear => exact h.select none

/-- A run looks like the run of its essential steps. -/
theorem looksLike_run_essential (p : Policy) (steps : List Step) :
    LooksLike ((new p).run steps) ((new p).run (essential steps)) := by
  have hnew : (new p).highlight.IndexServes := Highlight.indexServes_ofRelationships []
  induction steps using List.reverseRecOn with
  | nil => exact LooksLike.refl _
  | append_singleton steps step ih =>
    rw [run_concat]
    by_cases hchoice : step.isChoice = true
    · rw [run_essential_concat_of_isChoice _ _ hchoice]
      exact ih.apply_of_isChoice hchoice
    · cases step with
      | select table => exact absurd rfl hchoice
      | clear => exact absurd rfl hchoice
      | load source =>
        rw [apply]
        rcases ((new p).run steps).load_cases source with
          ⟨schema, hext, hok, hl⟩ | ⟨cause, -, hfail, hl⟩
        · have hfresh : (new p).run [.load source] = (new p).display schema := by
            change ((new p).load source).1 = _
            rw [load, hext]
          have hsucceeds : (Step.load source).succeeds = true := hok
          rw [hl, essential_concat_of_succeeds _ hsucceeds, hfresh]
          exact looksLike_display (indexServes_run hnew steps) hnew (policy_run _ _) schema
        · have hfails : (Step.load source).succeeds = false := hfail
          rw [hl, essential_concat_of_fails _ hfails rfl]
          exact looksLike_of_eq ih.schema ih.relationships ih.adjacency ih.selected

/-- The error of a session is the one of its last load. -/
theorem error_run (p : Policy) (steps : List Step) :
    ((new p).run steps).error = (lastSource? steps).bind failure? := by
  induction steps using List.reverseRecOn with
  | nil => rfl
  | append_singleton steps step ih =>
    rw [run_concat]
    cases step with
    | select table =>
      have hlast : lastSource? (steps ++ [.select table]) = lastSource? steps := by
        simp [lastSource?, List.filterMap_append, Step.source?]
      rw [hlast, ← ih]
      rfl
    | clear =>
      have hlast : lastSource? (steps ++ [.clear]) = lastSource? steps := by
        simp [lastSource?, List.filterMap_append, Step.source?]
      rw [hlast, ← ih]
      rfl
    | load source =>
      have hlast : lastSource? (steps ++ [.load source]) = some source := by
        simp [lastSource?, List.filterMap_append, Step.source?]
      rw [hlast, Option.bind_some, apply]
      rcases ((new p).run steps).load_cases source with ⟨schema, hext, -, hl⟩ | ⟨cause, hc, -, hl⟩
      · rw [hl, failure?, hext]
        rfl
      · rw [hl, hc]

theorem load_succeeds_iff (s : Session) (source : Source) :
    (s.load source).2 = true ↔ ∃ dump, source = .text dump ∧ (parse dump).tables ≠ [] := by
  rw [← loads_iff]
  rcases s.load_cases source with ⟨schema, -, hok, hl⟩ | ⟨cause, -, hfail, hl⟩
  · simp [hl, hok]
  · simp [hl, hfail]

theorem shows_display (s : Session) (schema : Schema) : (s.display schema).Shows s.policy schema :=
  ⟨rfl, rfl, relationships_display s schema, rfl, rfl⟩

/-- A load that succeeds shows the schema of its text. -/
theorem shows_of_load {s : Session} {source : Source} (h : (s.load source).2 = true) :
    ∃ dump, source = .text dump ∧ (s.load source).1.Shows s.policy (parse dump) := by
  rcases s.load_cases source with ⟨schema, hext, -, hl⟩ | ⟨cause, -, -, hl⟩
  · obtain ⟨dump, hsource, rfl, -⟩ := extract_eq_ok_iff.1 hext
    refine ⟨dump, hsource, ?_⟩
    rw [hl]
    exact shows_display s (parse dump)
  · rw [hl] at h
    cases h

theorem load_of_fails {s : Session} {source : Source} (h : (s.load source).2 = false) :
    ∃ cause, failure? source = some cause ∧ (s.load source).1 = { s with error := some cause } := by
  rcases s.load_cases source with ⟨schema, -, -, hl⟩ | ⟨cause, hc, -, hl⟩
  · rw [hl] at h
    cases h
  · exact ⟨cause, hc, by rw [hl]⟩

theorem error_run_eq_none_iff (p : Policy) (steps : List Step) :
    ((new p).run steps).error = none ↔
      lastSource? steps = none ∨
        ∃ source, lastSource? steps = some source ∧ loads source = true := by
  rw [error_run]
  cases hlast : lastSource? steps with
  | none => simp
  | some source => simp [failure?_eq_none_iff]

/-- A session has no memory beyond the last load that succeeded and the last choice behind it. A
load succeeds exactly for a text with some table, and then shows the schema of this text. Only the
error is the one of the last load, whether it succeeded or not. -/
theorem run_remembers_last_load (p : Policy) (steps : List Step) :
    LooksLike ((new p).run steps) ((new p).run (essential steps)) ∧
      (∀ (s : Session) (source : Source), (s.load source).2 = true ↔
        ∃ dump, source = .text dump ∧ (parse dump).tables ≠ []) ∧
      (∀ (s : Session) (source : Source), (s.load source).2 = true →
        ∃ dump, source = .text dump ∧ (s.load source).1.Shows s.policy (parse dump)) ∧
      (∀ (s : Session) (source : Source), (s.load source).2 = false →
        ∃ cause, failure? source = some cause ∧
          (s.load source).1 = { s with error := some cause }) ∧
      (((new p).run steps).error = none ↔
        lastSource? steps = none ∨
          ∃ source, lastSource? steps = some source ∧ loads source = true) ∧
      ((new p).run steps).error.map (·.message) =
        ((lastSource? steps).bind failure?).map (·.message) := by
  refine ⟨looksLike_run_essential p steps, load_succeeds_iff, ?_, ?_,
    error_run_eq_none_iff p steps, ?_⟩
  · intro s source h
    exact shows_of_load h
  · intro s source h
    exact load_of_fails h
  · rw [error_run]

/-- A load shows its text, and a failed load between it and a choice leaves no trace but its
error. -/
theorem run_remembers_last_load_of_failure :
    let p := Policy.ofNames [] []
    let dump := "CREATE TABLE t (`k` int)".toList
    let good := Source.text dump
    let steps : List Step := [.select (some "s"), .load good, .load .other, .select (some "t")]
    ((new p).load good).2 = true ∧ ((new p).load good).1.Shows p (parse dump) ∧
      (((new p).run [.load good]).load .other).2 = false ∧
      (((new p).run [.load good]).load .other).1 =
        { (new p).run [.load good] with error := some .unreadable } ∧
      LooksLike ((new p).run steps) ((new p).run [.load good, .select (some "t")]) ∧
      ((new p).run steps).error.map (·.message) =
        some "Failed to parse SQL. Please check the syntax." := by
  intro p dump good steps
  obtain ⟨hlooks, hsucceeds, hshows, hfails, -, herror⟩ := run_remembers_last_load p steps
  have hload : loads good = true := by decide +kernel
  have hloaded : ((new p).load good).2 = true := (hsucceeds _ _).2 (loads_iff.1 hload)
  obtain ⟨text, htext, hshown⟩ := hshows _ _ hloaded
  obtain rfl : dump = text := Source.text.inj htext
  have hother : loads .other = false := rfl
  have hessential : essential steps = [.load good, .select (some "t")] := by
    simp [essential, sinceLoad, steps, Step.succeeds, Step.source?, Step.isChoice, hload, hother]
  have hfailed : (((new p).run [.load good]).load .other).2 = false := rfl
  obtain ⟨cause, hcause, hkept⟩ := hfails _ _ hfailed
  have hunreadable : cause = .unreadable := by
    cases hcause
    rfl
  rw [hunreadable] at hkept
  rw [hessential] at hlooks
  exact ⟨hloaded, hshown, hfailed, hkept, hlooks, herror⟩

end TableAtlas.Session
