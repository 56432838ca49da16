import TableAtlas.Diagram.Highlight

/-!
# The index of neighbours is never stale

The index is built again only when the pairs of joined tables change. This is enough because
an index depends on the set of these pairs and on nothing else of the relationships. The
invariant says that the index that is kept is the one of every list of relationships that joins
the pairs of the fingerprint.
-/

namespace TableAtlas

open Text

theorem mem_joinedPairs {rs : List Relationship} {x y : String} :
    (x, y) ∈ joinedPairs rs ↔ ∃ r ∈ rs, r.source = x ∧ r.target = y := by
  simp [joinedPairs]

theorem samePairs_iff {ps qs : List (String × String)} :
    samePairs ps qs = true ↔ ∀ q, q ∈ ps ↔ q ∈ qs := by
  simp only [samePairs, Bool.and_eq_true, List.all_eq_true, List.contains_iff_mem]
  exact ⟨fun h q => ⟨h.1 q, h.2 q⟩, fun h => ⟨fun q => (h q).1, fun q => (h q).2⟩⟩

namespace Adjacency

variable {rs ss : List Relationship}

theorem mem_neighboursIn_iff_pairs {x y : String} :
    y ∈ neighboursIn rs x ↔ (x, y) ∈ joinedPairs rs ∨ (y, x) ∈ joinedPairs rs := by
  rw [mem_neighboursIn, mem_joinedPairs, mem_joinedPairs]
  simp only [Relationship.joins, Bool.or_eq_true, Bool.and_eq_true, decide_eq_true_eq]
  constructor
  · rintro ⟨r, hr, h | h⟩
    · exact .inl ⟨r, hr, h⟩
    · exact .inr ⟨r, hr, h⟩
  · rintro (⟨r, hr, h⟩ | ⟨r, hr, h⟩)
    · exact ⟨r, hr, .inl h⟩
    · exact ⟨r, hr, .inr h⟩

theorem mem_endpoints_iff_pairs {x : String} :
    x ∈ endpoints rs ↔ ∃ y, (x, y) ∈ joinedPairs rs ∨ (y, x) ∈ joinedPairs rs := by
  rw [mem_endpoints]
  simp only [mem_joinedPairs, Relationship.touches, Bool.or_eq_true, decide_eq_true_eq]
  constructor
  · rintro ⟨r, hr, rfl | rfl⟩
    · exact ⟨r.target, .inl ⟨r, hr, rfl, rfl⟩⟩
    · exact ⟨r.source, .inr ⟨r, hr, rfl, rfl⟩⟩
  · rintro ⟨y, ⟨r, hr, rfl, -⟩ | ⟨r, hr, -, rfl⟩⟩
    · exact ⟨r, hr, .inl rfl⟩
    · exact ⟨r, hr, .inr rfl⟩

/-- The index depends on the set of joined pairs alone. -/
theorem ofRelationships_congr (h : samePairs (joinedPairs rs) (joinedPairs ss) = true) :
    ofRelationships rs = ofRelationships ss := by
  have hpairs := samePairs_iff.1 h
  have hends : endpoints rs = endpoints ss := by
    refine sortedSet_congr fun x => ?_
    have hx : x ∈ endpoints rs ↔ x ∈ endpoints ss := by
      simp only [mem_endpoints_iff_pairs, hpairs]
    rwa [endpoints, endpoints, mem_sortedSet, mem_sortedSet] at hx
  have hneighbours : ∀ x, neighboursIn rs x = neighboursIn ss x := by
    intro x
    refine sortedSet_congr fun y => ?_
    have hy : y ∈ neighboursIn rs x ↔ y ∈ neighboursIn ss x := by
      simp only [mem_neighboursIn_iff_pairs, hpairs]
    rwa [neighboursIn, neighboursIn, mem_sortedSet, mem_sortedSet] at hy
  simp only [ofRelationships, hends, hneighbours]

end Adjacency

namespace Highlight

/-- The index serves every list of relationships that joins the pairs of the fingerprint. -/
def IndexServes (h : Highlight) : Prop :=
  ∀ ps, h.fingerprint = some ps → ∀ rs, samePairs (joinedPairs rs) ps = true →
    h.adjacency = .ofRelationships rs

theorem indexServes_empty : empty.IndexServes := by
  rintro ps ⟨⟩

theorem adjacency_assign {h : Highlight} (hh : h.IndexServes) (rs : List Relationship) :
    (h.assign rs).adjacency = .ofRelationships rs := by
  rw [assign]
  split
  case isTrue hserves =>
    obtain ⟨ps, hps, hsame⟩ := (Option.any_eq_true _ _).1 hserves
    exact hh ps hps rs hsame
  case isFalse => rfl

theorem IndexServes.assign {h : Highlight} (hh : h.IndexServes) (rs : List Relationship) :
    (h.assign rs).IndexServes := by
  rw [Highlight.assign]
  split
  case isTrue => exact hh
  case isFalse =>
    intro ps hps ss hsame
    obtain rfl := Option.some.inj hps
    exact (Adjacency.ofRelationships_congr hsame).symm

theorem IndexServes.select {h : Highlight} (hh : h.IndexServes) (table : Option String) :
    (h.select table).IndexServes := hh

theorem indexServes_ofRelationships (rs : List Relationship) :
    (ofRelationships rs).IndexServes :=
  indexServes_empty.assign rs

end Highlight

end TableAtlas
