import Mathlib.Data.List.Induction
import TableAtlas.Proofs.HighlightIndex

/-!
# Highlights after any history

Whatever was assigned, selected and cleared before, a highlight cannot be told from a fresh one
for the relationships assigned last with the selection made last. Two facts survive every step:
the fingerprint has the pairs of the relationships that are shown, and the index serves all
lists that join these pairs. The first says when the index is built again, the second that
keeping it does no harm.
-/

namespace TableAtlas

namespace Adjacency

variable {rs : List Relationship} {x y : String}

theorem lookup_map_self (f : String → List String) (xs : List String) :
    (xs.map fun x => (x, f x)).lookup x = if x ∈ xs then some (f x) else none := by
  induction xs with
  | nil => rfl
  | cons z zs ih =>
    rw [List.map_cons, List.lookup_cons, ih]
    by_cases hz : x = z
    · simp [hz]
    · have hne : (x == z) = false := by simpa using hz
      simp [hz, hne]

/-- The index holds the neighbours of every table, also of those without any. -/
theorem mem_neighbours_ofRelationships :
    y ∈ (ofRelationships rs).neighbours x ↔ ∃ r ∈ rs, r.joins x y = true := by
  rw [neighbours, ofRelationships, lookup_map_self, ← mem_neighboursIn]
  by_cases hx : x ∈ endpoints rs
  · simp [hx]
  · have hnone : y ∉ neighboursIn rs x := by
      intro hy
      apply hx
      rw [mem_endpoints_iff_pairs]
      exact ⟨y, mem_neighboursIn_iff_pairs.1 hy⟩
    simp [hx, hnone]

end Adjacency

namespace Highlight

/-! ## What the marks mean -/

/-- What a highlight says about a list of relationships. -/
structure Marks (h : Highlight) (rs : List Relationship) : Prop where
  neighbours : ∀ x y, y ∈ h.neighbours x ↔ ∃ r ∈ rs, r.joins x y = true
  symmetric : ∀ x y, y ∈ h.neighbours x ↔ x ∈ h.neighbours y
  unselected : h.selected = none →
    (∀ x, h.isSelected x = false ∧ h.isDimmed x = false) ∧
      ∀ r, h.isEmphasized r = false ∧ h.isEdgeDimmed r = false
  tableSelected : ∀ s, h.selected = some s → ∀ x, h.isSelected x = true ↔ x = s
  tableDimmed : ∀ s, h.selected = some s →
    ∀ x, h.isDimmed x = true ↔ x ≠ s ∧ ¬ ∃ r ∈ rs, r.joins x s = true
  edgeEmphasized : ∀ s, h.selected = some s →
    ∀ r, h.isEmphasized r = true ↔ r.source = s ∨ r.target = s
  edgeDimmed : ∀ s, h.selected = some s →
    ∀ r, h.isEdgeDimmed r = true ↔ ¬ (r.source = s ∨ r.target = s)

variable {h k : Highlight} {rs : List Relationship} {s : String}

theorem isDimmed_iff (hs : h.selected = some s) {x : String} :
    h.isDimmed x = true ↔ x ≠ s ∧ x ∉ h.neighbours s := by
  simp [isDimmed, hs]

theorem isEmphasized_iff (hs : h.selected = some s) {r : Relationship} :
    h.isEmphasized r = true ↔ r.source = s ∨ r.target = s := by
  simp [isEmphasized, hs, Relationship.touches, eq_comm (a := s)]

theorem isEdgeDimmed_iff (hs : h.selected = some s) {r : Relationship} :
    h.isEdgeDimmed r = true ↔ ¬ (r.source = s ∨ r.target = s) := by
  rw [← isEmphasized_iff hs]
  simp [isEdgeDimmed, hs]

/-- A highlight whose index is the one of its relationships marks what they say. -/
theorem marks_of_adjacency (hadj : h.adjacency = .ofRelationships rs) : h.Marks rs := by
  have hneighbours : ∀ x y, y ∈ h.neighbours x ↔ ∃ r ∈ rs, r.joins x y = true := by
    intro x y
    rw [neighbours, hadj]
    exact Adjacency.mem_neighbours_ofRelationships
  have hcomm : ∀ x y, (∃ r ∈ rs, r.joins x y = true) ↔ ∃ r ∈ rs, r.joins y x = true := by
    intro x y
    simp only [Relationship.joins_comm _ x y]
  refine ⟨hneighbours, ?_, ?_, ?_, ?_, fun s hs r => isEmphasized_iff hs,
    fun s hs r => isEdgeDimmed_iff hs⟩
  · intro x y
    rw [hneighbours, hneighbours, hcomm]
  · intro hnone
    simp [isSelected, isDimmed, isEmphasized, isEdgeDimmed, hnone]
  · intro s hs x
    simp [isSelected, hs, eq_comm (a := s)]
  · intro s hs x
    rw [isDimmed_iff hs, hneighbours, hcomm]

/-- What a highlight lists where the relationships `rs` are shown and `choice` is selected: all of
them in their order, and any tables that are asked for, with their marks. -/
structure Lists (h : Highlight) (rs : List Relationship) (choice : Option String) : Prop where
  relationships : h.relationships = rs
  selected : h.selected = choice
  edgeStates : h.edgeStates =
    rs.map fun r => (r, choice.any r.touches, choice.any fun s => !r.touches s)
  tableStates : ∀ xs, h.tableStates xs = xs.map fun x =>
    (x, choice.any (· = x), choice.any fun s => x ≠ s && !rs.any (·.joins x s))

theorem lists_of_adjacency {choice : Option String} (hrels : h.relationships = rs)
    (hsel : h.selected = choice) (hadj : h.adjacency = .ofRelationships rs) :
    h.Lists rs choice := by
  have hneighbour : ∀ x s, (h.neighbours s).contains x = rs.any (·.joins x s) := by
    intro x s
    rw [Bool.eq_iff_iff, List.contains_iff_mem, List.any_eq_true, neighbours, hadj,
      Adjacency.mem_neighbours_ofRelationships]
    simp only [Relationship.joins_comm _ x s]
  refine ⟨hrels, hsel, ?_, ?_⟩
  · rw [edgeStates, hrels]
    cases choice with
    | none => simp [isEmphasized, isEdgeDimmed, hsel]
    | some s => simp [isEmphasized, isEdgeDimmed, hsel]
  · intro xs
    unfold tableStates
    cases choice with
    | none => simp [isSelected, isDimmed, hsel]
    | some s =>
      simp only [isSelected, isDimmed, hsel, hneighbour, Option.some.injEq, Option.any_some]

/-- Two highlights that cannot be told apart. -/
structure LooksLike (h k : Highlight) : Prop where
  relationships : h.relationships = k.relationships
  selected : h.selected = k.selected
  adjacency : h.adjacency = k.adjacency
  neighbours : ∀ x, h.neighbours x = k.neighbours x
  tableSelected : ∀ x, h.isSelected x = k.isSelected x
  tableDimmed : ∀ x, h.isDimmed x = k.isDimmed x
  edgeEmphasized : ∀ r, h.isEmphasized r = k.isEmphasized r
  edgeDimmed : ∀ r, h.isEdgeDimmed r = k.isEdgeDimmed r
  tableStates : ∀ xs, h.tableStates xs = k.tableStates xs
  edgeStates : h.edgeStates = k.edgeStates

/-- The fingerprint is not looked at. -/
theorem looksLike_of_eq (hrels : h.relationships = k.relationships)
    (hadj : h.adjacency = k.adjacency) (hsel : h.selected = k.selected) : h.LooksLike k := by
  obtain ⟨rels, print, adj, sel⟩ := h
  obtain ⟨rels', print', adj', sel'⟩ := k
  obtain rfl : rels = rels' := hrels
  obtain rfl : adj = adj' := hadj
  obtain rfl : sel = sel' := hsel
  exact ⟨rfl, rfl, rfl, fun _ => rfl, fun _ => rfl, fun _ => rfl, fun _ => rfl, fun _ => rfl,
    fun _ => rfl, rfl⟩

/-! ## What survives every step -/

/-- The index was built for pairs that are those of the relationships shown. -/
structure UpToDate (h : Highlight) : Prop where
  fingerprint : ∃ ps, h.fingerprint = some ps ∧ samePairs (joinedPairs h.relationships) ps = true
  serves : h.IndexServes

/-- A highlight keeps its index for the lists that join the pairs of the one it shows. -/
theorem UpToDate.isIndexedFor_iff (hh : h.UpToDate) :
    h.isIndexedFor rs = true ↔ ∀ q, q ∈ joinedPairs rs ↔ q ∈ joinedPairs h.relationships := by
  obtain ⟨ps, hps, hsame⟩ := hh.fingerprint
  rw [isIndexedFor, hps, Option.any_some, samePairs_iff]
  simp only [samePairs_iff.1 hsame]

theorem UpToDate.adjacency (hh : h.UpToDate) : h.adjacency = .ofRelationships h.relationships := by
  obtain ⟨ps, hps, hsame⟩ := hh.fingerprint
  exact hh.serves ps hps h.relationships hsame

theorem upToDate_assign (hh : h.IndexServes) (rs : List Relationship) :
    (h.assign rs).UpToDate := by
  refine ⟨?_, hh.assign rs⟩
  rw [relationships_assign, assign]
  split
  case isTrue hindexed =>
    obtain ⟨ps, hps, hsame⟩ := (Option.any_eq_true _ _).1 hindexed
    exact ⟨ps, hps, hsame⟩
  case isFalse => exact ⟨joinedPairs rs, rfl, samePairs_iff.2 fun _ => Iff.rfl⟩

theorem upToDate_ofRelationships (rs : List Relationship) : (ofRelationships rs).UpToDate :=
  upToDate_assign indexServes_empty rs

theorem UpToDate.select (hh : h.UpToDate) (table : Option String) : (h.select table).UpToDate :=
  ⟨hh.fingerprint, hh.serves⟩

theorem UpToDate.apply (hh : h.UpToDate) (step : Step) : (h.apply step).UpToDate := by
  cases step with
  | assign rs => exact upToDate_assign hh.serves rs
  | select table => exact hh.select table
  | clear => exact hh.select none

theorem UpToDate.run (hh : h.UpToDate) (steps : List Step) : (h.run steps).UpToDate := by
  induction steps generalizing h with
  | nil => exact hh
  | cons step steps ih => exact ih (hh.apply step)

/-! ## The last assignment and the last selection -/

namespace Step

def assigned? : Step → Option (List Relationship)
  | assign rs => some rs
  | select _ | clear => none

def selection? : Step → Option (Option String)
  | assign _ => none
  | select table => some table
  | clear => some none

end Step

/-- The relationships assigned last, or `rs` if none are. -/
def lastAssigned (rs : List Relationship) (steps : List Step) : List Relationship :=
  (steps.filterMap Step.assigned?).getLast?.getD rs

/-- The table selected last, unless the selection was cleared since. -/
def lastSelection (steps : List Step) : Option String :=
  (steps.filterMap Step.selection?).getLast?.getD none

theorem run_concat (h : Highlight) (steps : List Step) (step : Step) :
    h.run (steps ++ [step]) = (h.run steps).apply step := by
  simp [run]

theorem relationships_run (rs : List Relationship) (steps : List Step) :
    ((ofRelationships rs).run steps).relationships = lastAssigned rs steps := by
  induction steps using List.reverseRecOn with
  | nil => exact relationships_assign empty rs
  | append_singleton steps step ih =>
    rw [run_concat]
    cases step with
    | assign ss => simp [apply, lastAssigned, Step.assigned?]
    | select table => simpa [apply, select, lastAssigned, Step.assigned?] using ih
    | clear => simpa [apply, clear, select, lastAssigned, Step.assigned?] using ih

theorem selected_run (rs : List Relationship) (steps : List Step) :
    ((ofRelationships rs).run steps).selected = lastSelection steps := by
  induction steps using List.reverseRecOn with
  | nil => exact selected_assign empty rs
  | append_singleton steps step ih =>
    rw [run_concat]
    cases step with
    | assign ss => simpa [apply, lastSelection, Step.selection?] using ih
    | select table => simp [apply, select, lastSelection, Step.selection?]
    | clear => simp [apply, clear, select, lastSelection, Step.selection?]

/-! ## When the index is built -/

/-- What an assignment does to the index: it is built and told of, or kept without a word. -/
structure Rebuilds (h : Highlight) (rs : List Relationship) : Prop where
  log : h.stepLog (.assign rs) = [.indexed (Adjacency.ofRelationships rs).length]
  debug : ∀ r ∈ h.stepLog (.assign rs), r.level = .debug
  fingerprint : (h.assign rs).fingerprint = some (joinedPairs rs)
  adjacency : (h.assign rs).adjacency = .ofRelationships rs

structure Keeps (h : Highlight) (rs : List Relationship) : Prop where
  log : h.stepLog (.assign rs) = []
  fingerprint : (h.assign rs).fingerprint = h.fingerprint
  adjacency : (h.assign rs).adjacency = h.adjacency

theorem rebuilds_of_not_isIndexedFor (hno : h.isIndexedFor rs = false) : h.Rebuilds rs := by
  have hassign : h.assign rs = ⟨rs, some (joinedPairs rs), .ofRelationships rs, h.selected⟩ := by
    simp [assign, hno]
  have hlog : h.stepLog (.assign rs) = [.indexed (Adjacency.ofRelationships rs).length] := by
    simp [stepLog, assignLog, hno, indexRecord, hassign]
  refine ⟨hlog, ?_, by rw [hassign], by rw [hassign]⟩
  rw [hlog]
  simp [Record.level]

theorem keeps_of_isIndexedFor (hyes : h.isIndexedFor rs = true) : h.Keeps rs := by
  have hassign : h.assign rs = { h with relationships := rs } := by simp [assign, hyes]
  exact ⟨by simp [stepLog, assignLog, hyes], by rw [hassign], by rw [hassign]⟩

/-- After any run the index is the one of the relationships assigned last, all that can be seen
is what a fresh highlight for them shows with the selection made last, these relationships are
listed with their marks, and the marks say what they say. A further assignment builds the index
again exactly if the pairs that it joins are others than those joined before, and the first one
always does. -/
theorem run_shows_last_assignment (rs : List Relationship) (steps : List Step) :
    ((ofRelationships rs).run steps).adjacency = .ofRelationships (lastAssigned rs steps) ∧
    ((ofRelationships rs).run steps).LooksLike
      ((ofRelationships (lastAssigned rs steps)).select (lastSelection steps)) ∧
    ((ofRelationships rs).run steps).Lists (lastAssigned rs steps) (lastSelection steps) ∧
    ((ofRelationships rs).run steps).Marks (lastAssigned rs steps) ∧
    (∀ next,
      (∀ q, q ∈ joinedPairs next ↔ q ∈ joinedPairs (lastAssigned rs steps)) →
        ((ofRelationships rs).run steps).Keeps next) ∧
    (∀ next,
      ¬ (∀ q, q ∈ joinedPairs next ↔ q ∈ joinedPairs (lastAssigned rs steps)) →
        ((ofRelationships rs).run steps).Rebuilds next) ∧
    empty.Rebuilds rs := by
  have hdate : ((ofRelationships rs).run steps).UpToDate := (upToDate_ofRelationships rs).run steps
  have hrels := relationships_run rs steps
  have hadj := hdate.adjacency
  rw [hrels] at hadj
  have hindexed : ∀ next, ((ofRelationships rs).run steps).isIndexedFor next = true ↔
      ∀ q, q ∈ joinedPairs next ↔ q ∈ joinedPairs (lastAssigned rs steps) := by
    intro next
    rw [hdate.isIndexedFor_iff, hrels]
  refine ⟨hadj, ?_, lists_of_adjacency hrels (selected_run rs steps) hadj, marks_of_adjacency hadj,
    ?_, ?_, rebuilds_of_not_isIndexedFor rfl⟩
  · apply looksLike_of_eq
    · rw [hrels]
      exact (relationships_assign empty _).symm
    · rw [hadj]
      exact (adjacency_assign indexServes_empty _).symm
    · exact selected_run rs steps
  · intro next hsame
    exact keeps_of_isIndexedFor ((hindexed next).2 hsame)
  · intro next hother
    rw [← hindexed, Bool.not_eq_true] at hother
    exact rebuilds_of_not_isIndexedFor hother

/-- Another column, a repetition and another order keep the index; the other direction does
not. -/
theorem run_shows_last_assignment_loop :
    let ab : Relationship := ⟨"a", "b", "K"⟩
    let aa : Relationship := ⟨"a", "a", "K"⟩
    let steps : List Step := [.select (some "a"), .assign [⟨"a", "b", "L"⟩, aa, ab]]
    ((ofRelationships [aa, ab]).run steps).Keeps [ab, aa] ∧
      ((ofRelationships [aa, ab]).run steps).Rebuilds [aa, ⟨"b", "a", "K"⟩] := by
  intro ab aa steps
  obtain ⟨-, -, -, -, hkeeps, hrebuilds, -⟩ := run_shows_last_assignment [aa, ab] steps
  have hsame : samePairs (joinedPairs [ab, aa])
      (joinedPairs (lastAssigned [aa, ab] steps)) = true := by
    decide
  have hother : samePairs (joinedPairs [aa, ⟨"b", "a", "K"⟩])
      (joinedPairs (lastAssigned [aa, ab] steps)) = false := by
    decide
  refine ⟨hkeeps _ (samePairs_iff.1 hsame), hrebuilds _ ?_⟩
  rw [← samePairs_iff, hother]
  simp

end Highlight

end TableAtlas
