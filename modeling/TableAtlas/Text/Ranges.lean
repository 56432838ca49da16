/-!
# Sorted ranges of code points

A property of characters is kept as the list of the ranges of code points that have it. The
ranges are sorted and do not touch, so a search stops at the first range that begins beyond
the code point.
-/

namespace TableAtlas.Text

def inRanges (n : Nat) : List (Nat × Nat) → Bool
  | [] => false
  | (lo, hi) :: rest => if n < lo then false else if n ≤ hi then true else inRanges n rest

theorem exists_range_of_inRanges {n : Nat} {rs : List (Nat × Nat)} (h : inRanges n rs = true) :
    ∃ r ∈ rs, r.1 ≤ n ∧ n ≤ r.2 := by
  induction rs with
  | nil => simp [inRanges] at h
  | cons r rest ih =>
    obtain ⟨lo, hi⟩ := r
    simp only [inRanges] at h
    split at h
    · simp at h
    · split at h
      · exact ⟨(lo, hi), by simp, by omega, by assumption⟩
      · obtain ⟨r, hr, hb⟩ := ih h
        exact ⟨r, by simp [hr], hb⟩

/-- Stopping early loses nothing: in a sorted table membership is membership in some range. -/
theorem inRanges_eq_true_iff {n : Nat} {rs : List (Nat × Nat)}
    (sorted : rs.Pairwise fun r s => r.1 < s.1) :
    inRanges n rs = true ↔ ∃ r ∈ rs, r.1 ≤ n ∧ n ≤ r.2 := by
  refine ⟨exists_range_of_inRanges, ?_⟩
  rintro ⟨s, hs, hlo, hhi⟩
  induction rs with
  | nil => simp at hs
  | cons r rest ih =>
    obtain ⟨lo, hi⟩ := r
    rw [List.pairwise_cons] at sorted
    rcases List.mem_cons.1 hs with rfl | hs
    · simp_all [inRanges]
    · have hn : ¬ n < lo := by
        have : lo < s.1 := sorted.1 s hs
        omega
      by_cases h : n ≤ hi <;> simp [inRanges, hn, h, ih sorted.2 hs]

end TableAtlas.Text
