import TableAtlas.Proofs.OwnerStability

/-!
# Excluded columns

An exclusion is looked up at two places, where claims to keys are gathered and where columns are
gone through for relationships. Excluded columns have no say anywhere else: the tables without
them, under a policy that excludes nothing, have the same owners and the same relationships. The
rules for excluded columns move the ranks of all rules behind them, but ranks are only compared
with each other and with the number of rules, and these comparisons come out the same.
-/

namespace TableAtlas

section Keeping

variable {α : Type} {keep : α → Bool} {xs : List α} {i j : Nat}

/-- The number of entries in front of a place that are kept, which is the new place of an entry
that is kept itself. -/
def keptBefore (keep : α → Bool) (xs : List α) (i : Nat) : Nat := (xs.take i).countP keep

theorem keptBefore_length (keep : α → Bool) (xs : List α) :
    keptBefore keep xs xs.length = (xs.filter keep).length := by
  rw [keptBefore, List.take_length, List.countP_eq_length_filter]

theorem keptBefore_le (h : i ≤ j) : keptBefore keep xs i ≤ keptBefore keep xs j :=
  ((List.take_prefix_take_left h).sublist).countP_le

/-- Places of entries that are kept stay apart, and in their order. -/
theorem keptBefore_lt (hi : i < xs.length) (hkeep : keep xs[i] = true) (h : i < j) :
    keptBefore keep xs i < keptBefore keep xs j := by
  have hnext : keptBefore keep xs (i + 1) = keptBefore keep xs i + 1 := by
    rw [keptBefore, List.take_succ_eq_append_getElem hi, List.countP_append,
      List.countP_singleton, if_pos hkeep, keptBefore]
  have hle : keptBefore keep xs (i + 1) ≤ keptBefore keep xs j := keptBefore_le h
  omega

/-- Entries that are left out do not change which entry is the first to meet a condition, if all
that meet it are kept. -/
theorem findIdx_filter {q : α → Bool} (h : ∀ x ∈ xs, q x = true → keep x = true) :
    (xs.filter keep).findIdx q = keptBefore keep xs (xs.findIdx q) := by
  induction xs with
  | nil => rfl
  | cons x xs ih =>
    have hxs := ih fun y hy => h y (by simp [hy])
    unfold keptBefore at hxs ⊢
    cases hq : q x with
    | true => simp [List.findIdx_cons, hq, h x (by simp) hq]
    | false => cases hk : keep x <;> simp [List.findIdx_cons, hq, hk, hxs]

end Keeping

namespace Policy

variable {p q : Policy} {ts us : List Table}

/-! ## Owners and the strength of claims -/

theorem mem_enter {held : List Claim} {next c : Claim} (h : c ∈ p.enter held next) :
    c ∈ held ∨ c = next := by
  induction held with
  | nil => exact .inr (List.mem_singleton.1 h)
  | cons d held ih =>
    rw [enter] at h
    split at h
    · rcases List.mem_cons.1 h with rfl | h
      · split
        · exact .inr rfl
        · exact .inl (by simp)
      · exact .inl (by simp [h])
    · rcases List.mem_cons.1 h with rfl | h
      · exact .inl (by simp)
      · exact (ih h).imp_left fun h => by simp [h]

variable {f : Claim → Claim}

theorem map_enter (hcolumn : ∀ c, (f c).column = c.column) {held : List Claim} {next : Claim}
    (h : ∀ c ∈ held, q.takesOver (f next) (f c) = p.takesOver next c) :
    (p.enter held next).map f = q.enter (held.map f) (f next) := by
  induction held with
  | nil => rfl
  | cons c held ih =>
    rw [List.map_cons, enter, enter, hcolumn, hcolumn, h c (by simp)]
    split
    · rw [List.map_cons, apply_ite f]
    · rw [List.map_cons, ih fun d hd => h d (by simp [hd])]

/-- Who holds a name in the end depends on the claims only by which of them takes a name from
which other. -/
theorem holders_of_map_claims (hcolumn : ∀ c, (f c).column = c.column)
    (hclaims : q.claims us = (p.claims ts).map f)
    (h : ∀ a ∈ p.claims ts, ∀ b ∈ p.claims ts, q.takesOver (f a) (f b) = p.takesOver a b) :
    q.holders us = (p.holders ts).map f := by
  rw [holders, holders, hclaims, List.foldl_map]
  -- all holders come from the claims, and so do those with which a run begins
  suffices hrun : ∀ cs held : List Claim, (∀ c ∈ cs, c ∈ p.claims ts) →
      (∀ c ∈ held, c ∈ p.claims ts) →
      cs.foldl (fun held c => q.enter held (f c)) (held.map f) = (cs.foldl p.enter held).map f by
    simpa using hrun (p.claims ts) [] (by simp) (by simp)
  intro cs
  induction cs with
  | nil => intro held _ _; rfl
  | cons next cs ih =>
    intro held hcs hheld
    have hnext := hcs next (by simp)
    rw [List.foldl_cons, List.foldl_cons,
      ← map_enter (p := p) hcolumn fun c hc => h next hnext c (hheld c hc)]
    refine ih _ (fun c hc => hcs c (by simp [hc])) fun c hc => ?_
    rcases mem_enter hc with hc | rfl
    · exact hheld c hc
    · exact hnext

/-! ## What exclusions leave -/

def deleteFrom (p : Policy) (t : Table) : Table :=
  { t with columns := t.columns.filter fun c => !p.isExcluded c.name }

/-- The tables without the columns that a policy excludes. -/
def deleteExcluded (p : Policy) (ts : List Table) : List Table := ts.map p.deleteFrom

def withoutExclusions (p : Policy) : Policy := { p with excluded := [] }

/-- Whether a rule is for a column that is excluded. -/
def isIdle (p : Policy) (r : Rule) : Bool :=
  match r.column with
  | .text column => p.isExcluded column
  | _ => false

/-- The rules that are not for excluded columns. -/
def activeRules (p : Policy) : List Rule := p.rules.filter fun r => !p.isIdle r

/-- The policy without exclusions and with some of the rules. -/
def keeping (p : Policy) (keep : Rule → Bool) : Policy := ⟨[], p.rules.filter keep⟩

/-- A claim as it is where some of the rules are kept. -/
def rerank (p : Policy) (keep : Rule → Bool) (c : Claim) : Claim :=
  { c with rank := keptBefore keep p.rules c.rank }

theorem isExcluded_keeping (keep : Rule → Bool) (column : String) :
    (p.keeping keep).isExcluded column = false := rfl

theorem isExcluded_of_isKeyCandidate {c : Column} (h : p.isKeyCandidate c = true) :
    p.isExcluded c.name = false :=
  (isKeyCandidate_iff.1 h).2.1

theorem isIdle_of_claims {r : Rule} {column table : String} (h : r.claims column table = true) :
    p.isIdle r = p.isExcluded column := by
  simp only [Rule.claims, Bool.and_eq_true, Config.Value.isText_iff] at h
  rw [isIdle, h.1]

section Kept

variable {keep : Rule → Bool} (hkeep : ∀ r, p.isIdle r = false → keep r = true)
include hkeep

/-- The rank of a name that is not excluded counts the rules in front that are kept. -/
theorem rank_keeping {column : String} (hcolumn : p.isExcluded column = false) (table : String) :
    (p.keeping keep).rank column table = keptBefore keep p.rules (p.rank column table) := by
  refine findIdx_filter fun r _ hr => hkeep r ?_
  rw [isIdle_of_claims hr, hcolumn]

/-- A claim is made for a column that is not excluded, so its rule is kept. -/
theorem keep_of_mem_claims {c : Claim} (hc : c ∈ p.claims ts) : c.rank ≤ p.rules.length ∧
    ∀ h : c.rank < p.rules.length, keep p.rules[c.rank] = true := by
  obtain ⟨t, -, hc⟩ := List.mem_flatMap.1 hc
  obtain ⟨d, hd, rfl⟩ := List.mem_map.1 hc
  refine ⟨p.rank_le d.name t.name, fun h => hkeep _ ?_⟩
  rw [isIdle_of_claims (claims_of_rank h)]
  exact isExcluded_of_isKeyCandidate (List.mem_filter.1 hd).2

/-- Rules that are left out change no comparison between claims. -/
theorem takesOver_rerank {a b : Claim} (ha : a ∈ p.claims ts) (hb : b ∈ p.claims ts) :
    (p.keeping keep).takesOver (p.rerank keep a) (p.rerank keep b) = p.takesOver a b := by
  obtain ⟨hale, ha⟩ := keep_of_mem_claims hkeep ha
  obtain ⟨-, hb⟩ := keep_of_mem_claims hkeep hb
  have hlength : (p.keeping keep).rules.length = keptBefore keep p.rules p.rules.length :=
    (keptBefore_length keep p.rules).symm
  rw [Bool.eq_iff_iff, takesOver_iff, takesOver_iff, hlength]
  constructor
  · rintro ⟨hlt, hle⟩
    have halt : a.rank < p.rules.length := by
      refine Nat.lt_of_le_of_ne hale fun heq => ?_
      exact absurd hlt (by simp [rerank, heq])
    refine ⟨halt, ?_⟩
    by_contra hba
    have hblt : b.rank < a.rank := Nat.lt_of_not_le hba
    exact absurd (keptBefore_lt (by omega) (hb (by omega)) hblt) (Nat.not_lt.2 hle)
  · rintro ⟨hlt, hle⟩
    exact ⟨keptBefore_lt hlt (ha hlt) hlt, keptBefore_le hle⟩

theorem claims_deleteExcluded (ts : List Table) :
    (p.keeping keep).claims (p.deleteExcluded ts) = (p.claims ts).map (p.rerank keep) := by
  have htable : ∀ t : Table, (p.keeping keep).claimsOf (p.deleteFrom t) =
      (p.claimsOf t).map (p.rerank keep) := by
    intro t
    have hcandidates : (p.deleteFrom t).columns.filter (p.keeping keep).isKeyCandidate =
        t.columns.filter p.isKeyCandidate := by
      rw [deleteFrom, List.filter_filter]
      congr 1
      funext c
      simp [isKeyCandidate, isExcluded_keeping, Bool.and_assoc, Bool.and_comm, Bool.and_left_comm]
    rw [claimsOf, claimsOf, hcandidates, List.map_map]
    refine List.map_congr_left fun c hc => ?_
    have hexcluded := isExcluded_of_isKeyCandidate (List.mem_filter.1 hc).2
    rw [deleteFrom, rank_keeping hkeep hexcluded]
    rfl
  simp only [claims, deleteExcluded, List.flatMap_map, htable, List.map_flatMap]

/-- The owners are those of the tables without excluded columns, and any rules for such columns may
be left out. -/
theorem owners_keeping (ts : List Table) :
    (p.keeping keep).owners (p.deleteExcluded ts) = p.owners ts := by
  have hholders : (p.keeping keep).holders (p.deleteExcluded ts) =
      (p.holders ts).map (p.rerank keep) :=
    holders_of_map_claims (fun _ => rfl) (claims_deleteExcluded hkeep ts)
      fun a ha b hb => takesOver_rerank hkeep ha hb
  rw [owners, owners, hholders, List.map_map]
  rfl

theorem relationships_keeping (ts : List Table) :
    (p.keeping keep).relationships (p.deleteExcluded ts) = p.relationships ts := by
  simp only [relationships, owners_keeping hkeep]
  rw [deleteExcluded, List.flatMap_map]
  congr 1
  funext t
  rw [deleteFrom, List.filterMap_filter]
  congr 1
  funext c
  cases hc : p.isExcluded c.name <;> simp [refer?, isExcluded_keeping, hc]

end Kept

/-- Excluded columns count for nothing: the tables without them have the same owners and the same
relationships, under a policy with the same rules and no exclusions. So two policies, each with its
own tables, agree on owners and relationships if they leave the same columns in the tables and the
same rules for these columns, however their excluded columns and the rules for them may differ. -/
theorem owners_ignore_excluded_columns (p : Policy) (ts : List Table) :
    (p.withoutExclusions.owners (p.deleteExcluded ts) = p.owners ts ∧
      p.withoutExclusions.relationships (p.deleteExcluded ts) = p.relationships ts) ∧
    ∀ (q : Policy) (us : List Table), q.activeRules = p.activeRules →
      q.deleteExcluded us = p.deleteExcluded ts →
        q.owners us = p.owners ts ∧ q.relationships us = p.relationships ts := by
  have hall : p.withoutExclusions = p.keeping fun _ => true := by
    rw [keeping, List.filter_true, withoutExclusions]
  have hactive : ∀ p : Policy, ∀ r, p.isIdle r = false → (!p.isIdle r) = true := by
    intro p r hr
    rw [hr, Bool.not_false]
  refine ⟨⟨?_, ?_⟩, fun q us hrules htables => ?_⟩
  · rw [hall, owners_keeping fun _ _ => rfl]
  · rw [hall, relationships_keeping fun _ _ => rfl]
  · have hsame : (q.keeping fun r => !q.isIdle r) = p.keeping fun r => !p.isIdle r :=
      congrArg (Policy.mk []) hrules
    constructor
    · rw [← owners_keeping (hactive q) us, hsame, htables, owners_keeping (hactive p)]
    · rw [← relationships_keeping (hactive q) us, hsame, htables, relationships_keeping (hactive p)]

/-- The excluded column of two tables gets another place, another type, another key flag and other
rules, which move the ranks of the rules for the other column. -/
theorem owners_ignore_moved_column :
    let p := Policy.ofNames ["X"] [("X", "a"), ("K", "b"), ("X", "b"), ("K", "c")]
    let q := Policy.ofNames ["X"] [("K", "b"), ("K", "c"), ("X", "c")]
    let key : Column := ⟨"K", "int", "", true, false⟩
    let ts : List Table := [⟨"a", "a", "", [⟨"X", "int", "", true, false⟩, key]⟩,
      ⟨"b", "b", "", [key]⟩, ⟨"c", "c", "", [key, ⟨"X", "int", "", false, false⟩]⟩]
    let us : List Table := [⟨"a", "a", "", [key]⟩,
      ⟨"b", "b", "", [key, ⟨"X", "text", "", true, true⟩]⟩, ⟨"c", "c", "", [key]⟩]
    q.activeRules = p.activeRules ∧ q.deleteExcluded us = p.deleteExcluded ts ∧
      (q.owners us = p.owners ts ∧ p.owners ts = [("K", "b")]) ∧
        q.relationships us = p.relationships ts ∧
          p.relationships ts = [⟨"a", "b", "K"⟩, ⟨"c", "b", "K"⟩] := by
  intro p q key ts us
  have hrules : q.activeRules = p.activeRules := rfl
  have htables : q.deleteExcluded us = p.deleteExcluded ts := by decide
  obtain ⟨howners, hlinks⟩ := (owners_ignore_excluded_columns p ts).2 q us hrules htables
  exact ⟨hrules, htables, ⟨howners, by decide⟩, hlinks, by decide⟩

end Policy

end TableAtlas
