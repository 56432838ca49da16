/-!
# Sets of texts in order

Sets are shown sorted by code point. A sorted list without repetitions is the one form of the
set of its members.
-/

namespace TableAtlas.Text

def sortTexts (xs : List String) : List String := xs.mergeSort fun a b => decide (a ≤ b)

/-- The members of a list, each once, sorted. -/
def sortedSet (xs : List String) : List String := sortTexts xs.eraseDups

theorem mem_sortedSet {x : String} {xs : List String} : x ∈ sortedSet xs ↔ x ∈ xs := by
  simp [sortedSet, sortTexts]

theorem nodup_eraseDups (xs : List String) : xs.eraseDups.Nodup := by
  induction h : xs.length using Nat.strongRecOn generalizing xs with
  | _ n ih =>
    subst h
    cases xs with
    | nil => simp
    | cons x xs =>
      rw [List.eraseDups_cons, List.nodup_cons]
      constructor
      · simp
      · refine ih _ ?_ _ rfl
        exact Nat.lt_succ_of_le (List.length_filter_le _ xs)

/-- Lists with the same members are the same set. -/
theorem sortedSet_congr {xs ys : List String} (h : ∀ x, x ∈ xs ↔ x ∈ ys) :
    sortedSet xs = sortedSet ys := by
  have hperm : List.Perm (sortedSet xs) (sortedSet ys) := by
    refine (List.mergeSort_perm _ _).trans (List.Perm.trans ?_ (List.mergeSort_perm _ _).symm)
    rw [List.perm_ext_iff_of_nodup (nodup_eraseDups xs) (nodup_eraseDups ys)]
    simpa using h
  have hsorted : ∀ zs : List String, (sortedSet zs).Pairwise fun a b => decide (a ≤ b) = true :=
    fun zs => List.pairwise_mergeSort
      (fun a b c hab hbc => by
        simpa using String.le_trans (by simpa using hab) (by simpa using hbc))
      (fun a b => by simpa using String.le_total a b) _
  refine hperm.eq_of_pairwise ?_ (hsorted xs) (hsorted ys)
  intro a b _ _ hab hba
  exact String.le_antisymm (by simpa using hab) (by simpa using hba)

end TableAtlas.Text
