import Mathlib.Data.List.Induction
import TableAtlas.Relationship.Ownership

/-!
# Who owns a key

The claims to a name are entered one after the other, and each of them may take the name from
its holder. What comes out in the end is said here without the order of events: if rules give
the column to tables that declare it, the last of the tables with the strongest rule owns it,
and otherwise the first table that declares it.
-/

namespace TableAtlas

section Choice

variable {α β : Type} (n : Nat) (rank : α → Nat)

/-- The least rank below `n`. -/
def leastRank? (xs : List α) : Option Nat := ((xs.filter fun x => rank x < n).map rank).min?

/-- The last entry of the least rank below `n`, or the first entry if no rank is below `n`. -/
def choice (xs : List α) : Option α :=
  match leastRank? n rank xs with
  | some best => (xs.filter fun x => rank x = best).getLast?
  | none => xs.head?

/-- The holder after a further entry. -/
def takeOver (held : Option α) (next : α) : Option α :=
  match held with
  | none => some next
  | some h => if rank next < n ∧ rank next ≤ rank h then some next else some h

variable {n rank}

theorem leastRank?_eq_none_iff {xs : List α} :
    leastRank? n rank xs = none ↔ ∀ x ∈ xs, n ≤ rank x := by
  simp [leastRank?, List.filter_eq_nil_iff]

theorem leastRank?_eq_some_iff {xs : List α} {best : Nat} :
    leastRank? n rank xs = some best ↔
      (∃ x ∈ xs, rank x < n ∧ rank x = best) ∧ ∀ x ∈ xs, rank x < n → best ≤ rank x := by
  rw [leastRank?, List.min?_eq_some_iff]
  refine and_congr ?_ ?_
  · simp [and_assoc]
  · constructor
    · intro h x hx hlt
      exact h (rank x) (by simpa using ⟨x, ⟨hx, hlt⟩, rfl⟩)
    · intro h b hb
      obtain ⟨x, hx, rfl⟩ := List.mem_map.1 hb
      obtain ⟨hmem, hlt⟩ := List.mem_filter.1 hx
      exact h x hmem (by simpa using hlt)

/-- The holder of a name with a rule has the least rank. -/
theorem exists_choice_of_leastRank? {xs : List α} {best : Nat}
    (h : leastRank? n rank xs = some best) : ∃ x, choice n rank xs = some x ∧ rank x = best := by
  obtain ⟨⟨x, hx, -, hxb⟩, -⟩ := leastRank?_eq_some_iff.1 h
  have hne : (xs.filter fun x => rank x = best) ≠ [] :=
    List.ne_nil_of_mem (List.mem_filter.2 ⟨hx, by simpa using hxb⟩)
  obtain ⟨y, hy⟩ := Option.isSome_iff_exists.1 (List.getLast?_isSome.2 hne)
  refine ⟨y, by rw [choice, h]; exact hy, ?_⟩
  simpa using (List.mem_filter.1 (List.mem_of_getLast? hy)).2

theorem choice_of_leastRank?_none {xs : List α} (h : leastRank? n rank xs = none) :
    choice n rank xs = xs.head? := by
  rw [choice, h]

theorem leastRank?_concat_new {xs : List α} {c : α} (hc : rank c < n)
    (hle : ∀ x ∈ xs, rank x < n → rank c ≤ rank x) :
    leastRank? n rank (xs ++ [c]) = some (rank c) := by
  rw [leastRank?_eq_some_iff]
  refine ⟨⟨c, by simp, hc, rfl⟩, ?_⟩
  intro x hx hlt
  rcases List.mem_append.1 hx with hx | hx
  · exact hle x hx hlt
  · obtain rfl := List.mem_singleton.1 hx
    exact Nat.le_refl _

theorem leastRank?_concat_old {xs : List α} {c : α} {best : Nat}
    (h : leastRank? n rank xs = some best) (hc : rank c < n → best ≤ rank c) :
    leastRank? n rank (xs ++ [c]) = some best := by
  obtain ⟨⟨y, hy, hyn, hyb⟩, hle⟩ := leastRank?_eq_some_iff.1 h
  rw [leastRank?_eq_some_iff]
  refine ⟨⟨y, by simp [hy], hyn, hyb⟩, ?_⟩
  intro x hx hlt
  rcases List.mem_append.1 hx with hx | hx
  · exact hle x hx hlt
  · obtain rfl := List.mem_singleton.1 hx
    exact hc hlt

theorem getLast?_filter_rank_concat (xs : List α) (c : α) (best : Nat) :
    ((xs ++ [c]).filter fun x => rank x = best).getLast? =
      if rank c = best then some c else (xs.filter fun x => rank x = best).getLast? := by
  by_cases hc : rank c = best
  · rw [if_pos hc, List.filter_append, List.getLast?_append]
    simp [hc]
  · rw [if_neg hc, List.filter_append]
    simp [hc]

/-- What one more entry changes. -/
theorem choice_concat (xs : List α) (c : α) :
    choice n rank (xs ++ [c]) = takeOver n rank (choice n rank xs) c := by
  cases h : leastRank? n rank xs with
  | none =>
    have hfree := leastRank?_eq_none_iff.1 h
    rw [choice_of_leastRank?_none h]
    rcases Nat.lt_or_ge (rank c) n with hc | hc
    · have hleast : leastRank? n rank (xs ++ [c]) = some (rank c) := by
        refine leastRank?_concat_new hc ?_
        intro x hx hlt
        have := hfree x hx
        omega
      rw [choice, hleast]
      dsimp only
      rw [getLast?_filter_rank_concat, if_pos rfl]
      cases hx : xs.head? with
      | none => rfl
      | some x =>
        have hxn : n ≤ rank x := hfree x (List.mem_of_head? hx)
        rw [takeOver, if_pos ⟨hc, by omega⟩]
    · have hleast : leastRank? n rank (xs ++ [c]) = none := by
        rw [leastRank?_eq_none_iff]
        intro x hx
        rcases List.mem_append.1 hx with hx | hx
        · exact hfree x hx
        · rwa [List.mem_singleton.1 hx]
      rw [choice_of_leastRank?_none hleast, List.head?_append]
      cases hx : xs.head? with
      | none => rfl
      | some x => rw [takeOver, if_neg (by omega)]; rfl
  | some best =>
    obtain ⟨x, hx, hxb⟩ := exists_choice_of_leastRank? h
    obtain ⟨⟨y, -, hyn, hyb⟩, hle⟩ := leastRank?_eq_some_iff.1 h
    rw [hx, takeOver]
    by_cases hc : rank c < n ∧ rank c ≤ rank x
    · have hleast : leastRank? n rank (xs ++ [c]) = some (rank c) := by
        refine leastRank?_concat_new hc.1 ?_
        intro z hz hlt
        have := hle z hz hlt
        omega
      rw [if_pos hc, choice, hleast]
      dsimp only
      rw [getLast?_filter_rank_concat, if_pos rfl]
    · have hleast : leastRank? n rank (xs ++ [c]) = some best :=
        leastRank?_concat_old h (by omega)
      rw [if_neg hc, choice, hleast]
      dsimp only
      rw [getLast?_filter_rank_concat, if_neg (by omega), ← hx, choice, h]

theorem choice_eq_foldl (xs : List α) :
    choice n rank xs = xs.foldl (takeOver n rank) none := by
  induction xs using List.reverseRecOn with
  | nil => rfl
  | append_singleton xs c ih => rw [choice_concat, List.foldl_append, ih]; rfl

theorem mem_of_choice {xs : List α} {x : α} (h : choice n rank xs = some x) : x ∈ xs := by
  rw [choice] at h
  split at h
  · exact (List.mem_filter.1 (List.mem_of_getLast? h)).1
  · exact List.mem_of_head? h

theorem choice_eq_none_iff {xs : List α} : choice n rank xs = none ↔ xs = [] := by
  constructor
  · intro h
    cases hleast : leastRank? n rank xs with
    | none =>
      rw [choice_of_leastRank?_none hleast] at h
      exact List.head?_eq_none_iff.1 h
    | some best =>
      obtain ⟨x, hx, -⟩ := exists_choice_of_leastRank? hleast
      rw [hx] at h
      cases h
  · rintro rfl
    rfl

theorem takeOver_takeOver (held : Option α) (c : α) :
    takeOver n rank (takeOver n rank held c) c = takeOver n rank held c := by
  cases held with
  | none => simp [takeOver]
  | some h =>
    by_cases hc : rank c < n ∧ rank c ≤ rank h <;> simp [takeOver, hc]

/-- Entries that repeat one entry count once. -/
theorem foldl_takeOver_of_forall_eq {c : α} {xs : List α} (hne : xs ≠ [])
    (h : ∀ x ∈ xs, x = c) (held : Option α) :
    xs.foldl (takeOver n rank) held = takeOver n rank held c := by
  induction xs generalizing held with
  | nil => exact absurd rfl hne
  | cons x xs ih =>
    obtain rfl := h x (by simp)
    rw [List.foldl_cons]
    by_cases hxs : xs = []
    · rw [hxs, List.foldl_nil]
    · rw [ih hxs (fun y hy => h y (by simp [hy])), takeOver_takeOver]

theorem takeOver_map {rank' : β → Nat} {g : α → β} (hg : ∀ a, rank' (g a) = rank a)
    (held : Option α) (a : α) :
    takeOver n rank' (held.map g) (g a) = (takeOver n rank held a).map g := by
  cases held with
  | none => rfl
  | some h =>
    simp only [takeOver, Option.map_some, hg]
    split <;> rfl

/-- The choice among entries that stand for `a`, each of them once or more often, for every `a`
of a list, is the choice from the list. -/
theorem choice_flatMap {rank' : β → Nat} {f : α → List β} {g : α → β}
    (hg : ∀ a, rank' (g a) = rank a) (hf : ∀ a, ∀ b ∈ f a, b = g a) (xs : List α) :
    choice n rank' (xs.flatMap f) =
      (choice n rank (xs.filter fun a => !(f a).isEmpty)).map g := by
  rw [choice_eq_foldl, choice_eq_foldl]
  suffices h : ∀ held : Option α, (xs.flatMap f).foldl (takeOver n rank') (held.map g) =
      ((xs.filter fun a => !(f a).isEmpty).foldl (takeOver n rank) held).map g from h none
  induction xs with
  | nil => intro held; rfl
  | cons a as ih =>
    intro held
    rw [List.flatMap_cons, List.foldl_append, List.filter_cons]
    by_cases ha : f a = []
    · simpa [ha] using ih held
    · rw [foldl_takeOver_of_forall_eq ha (hf a), takeOver_map hg, ih]
      simp [ha]

end Choice

namespace Policy

theorem takesOver_iff {p : Policy} {next held : Claim} :
    p.takesOver next held = true ↔ next.rank < p.rules.length ∧ next.rank ≤ held.rank := by
  simp [takesOver]

/-- A claim changes the holder of its own name only. -/
theorem find?_enter (p : Policy) (held : List Claim) (next : Claim) (column : String) :
    (p.enter held next).find? (·.column = column) =
      if next.column = column then
        takeOver p.rules.length Claim.rank (held.find? (·.column = column)) next
      else held.find? (·.column = column) := by
  induction held with
  | nil =>
    by_cases h : next.column = column <;> simp [enter, takeOver, h]
  | cons c cs ih =>
    rw [enter]
    by_cases hc : c.column = next.column
    · rw [if_pos hc]
      by_cases h : next.column = column
      · by_cases ht : p.takesOver next c = true
        · simp [ht, h, hc, takeOver, takesOver_iff.1 ht]
        · have ht' := mt takesOver_iff.2 ht
          simp [ht, h, hc, takeOver, ht']
      · by_cases ht : p.takesOver next c = true <;> simp [ht, h, hc]
    · rw [if_neg hc]
      by_cases h : c.column = column
      · have hne : ¬ next.column = column := fun hn => hc (h.trans hn.symm)
        simp [h, hne]
      · simp [h, ih]

/-- The holder of a name is the choice among the claims to it. -/
theorem find?_holders (p : Policy) (ts : List Table) (column : String) :
    (p.holders ts).find? (·.column = column) =
      choice p.rules.length Claim.rank ((p.claims ts).filter (·.column = column)) := by
  rw [choice_eq_foldl, holders]
  suffices h : ∀ cs held : List Claim, (cs.foldl p.enter held).find? (·.column = column) =
      (cs.filter (·.column = column)).foldl (takeOver p.rules.length Claim.rank)
        (held.find? (·.column = column)) from h (p.claims ts) []
  intro cs
  induction cs with
  | nil => intro held; rfl
  | cons c cs ih =>
    intro held
    rw [List.foldl_cons, ih, find?_enter]
    by_cases h : c.column = column <;> simp [h]

theorem map_column_enter (p : Policy) (held : List Claim) (next : Claim) :
    (p.enter held next).map (·.column) =
      if next.column ∈ held.map (·.column) then held.map (·.column)
      else held.map (·.column) ++ [next.column] := by
  induction held with
  | nil => simp [enter]
  | cons c cs ih =>
    rw [enter]
    by_cases hc : c.column = next.column
    · by_cases ht : p.takesOver next c = true <;> simp [hc, ht]
    · rw [if_neg hc, List.map_cons, ih]
      have hc' : ¬ next.column = c.column := fun h => hc h.symm
      by_cases hmem : next.column ∈ cs.map (·.column) <;> simp [hmem, hc']

/-- No name has two holders. -/
theorem nodup_column_holders (p : Policy) (ts : List Table) :
    ((p.holders ts).map (·.column)).Nodup := by
  rw [holders]
  suffices h : ∀ cs held : List Claim, (held.map (·.column)).Nodup →
      ((cs.foldl p.enter held).map (·.column)).Nodup from h (p.claims ts) [] (by simp)
  intro cs
  induction cs with
  | nil => intro held h; exact h
  | cons c cs ih =>
    intro held h
    refine ih _ ?_
    rw [map_column_enter]
    split
    case isTrue => exact h
    case isFalse hmem =>
      rw [List.nodup_append]
      refine ⟨h, by simp, ?_⟩
      intro a ha b hb
      obtain rfl := List.mem_singleton.1 hb
      exact fun hab => hmem (hab ▸ ha)

/-- Whether a table declares a key column of this name that may link tables. -/
def declares (p : Policy) (column : String) (t : Table) : Bool :=
  t.columns.any fun c => c.name = column && p.isKeyCandidate c

/-- Whether some rule gives the column to the table. -/
def prefers (p : Policy) (column : String) (t : Table) : Bool :=
  p.rules.any (·.claims column t.name)

/-- The table that owns the keys of a name: of the tables that declare such a key and have a
rule for it, the last of those whose first rule has the least index; and if no rule gives the
name to a table that declares it, the first table that declares it. -/
def owner? (p : Policy) (ts : List Table) (column : String) : Option String :=
  let declaring := ts.filter (p.declares column)
  let preferred := declaring.filter (p.prefers column)
  match (preferred.map fun t => p.rank column t.name).min? with
  | some best => ((preferred.filter fun t => p.rank column t.name = best).getLast?).map (·.id)
  | none => declaring.head?.map (·.id)

theorem prefers_iff {p : Policy} {column : String} {t : Table} :
    p.prefers column t = true ↔ p.rank column t.name < p.rules.length := by
  rw [rank, List.findIdx_lt_length, prefers, List.any_eq_true]

theorem owner?_eq_choice (p : Policy) (ts : List Table) (column : String) :
    p.owner? ts column =
      (choice p.rules.length (fun t => p.rank column t.name)
        (ts.filter (p.declares column))).map (·.id) := by
  have hprefers : p.prefers column = fun t => decide (p.rank column t.name < p.rules.length) := by
    funext t
    rw [Bool.eq_iff_iff, prefers_iff, decide_eq_true_eq]
  simp only [owner?, choice, leastRank?, hprefers]
  generalize hds : ts.filter (p.declares column) = ds
  cases hmin : ((ds.filter fun t => p.rank column t.name < p.rules.length).map
      fun t => p.rank column t.name).min? with
  | none => rfl
  | some best =>
    have hleast : leastRank? p.rules.length (fun t : Table => p.rank column t.name) ds =
        some best := hmin
    obtain ⟨⟨t, -, hlt, rfl⟩, -⟩ := leastRank?_eq_some_iff.1 hleast
    dsimp only
    rw [List.filter_filter]
    congr 2
    refine List.filter_congr ?_
    intro u _
    by_cases hu : p.rank column u.name = p.rank column t.name
    · simp [hu, hlt]
    · simp [hu]

theorem declares_iff {p : Policy} {column : String} {t : Table} :
    p.declares column t = true ↔
      ∃ c ∈ t.columns, c.name = column ∧ p.isKeyCandidate c = true := by
  simp [declares]

/-- A column may link tables if it is a key, its name is not excluded and is not `ID` in upper
case. -/
theorem isKeyCandidate_iff {p : Policy} {c : Column} :
    p.isKeyCandidate c = true ↔ c.isPrimaryKey = true ∧ p.isExcluded c.name = false ∧
      Text.upper c.name.toList ≠ "ID".toList := by
  simp [isKeyCandidate, genericKey, and_assoc]

theorem declares_iff_exists_key {p : Policy} {column : String} {t : Table} :
    p.declares column t = true ↔ ∃ c ∈ t.columns, c.name = column ∧ c.isPrimaryKey = true ∧
      p.isExcluded c.name = false ∧ Text.upper c.name.toList ≠ "ID".toList := by
  simp only [declares_iff, isKeyCandidate_iff]

/-- The claims of a table to a name are all the same, and there are some exactly if the table
declares a key of that name. -/
theorem claimsOf_filter (p : Policy) (column : String) (t : Table) :
    (∀ c ∈ (p.claimsOf t).filter (·.column = column),
      c = ⟨column, t.id, p.rank column t.name⟩) ∧
    (!((p.claimsOf t).filter (·.column = column)).isEmpty) = p.declares column t := by
  constructor
  · intro c hc
    obtain ⟨hmem, hcol⟩ := List.mem_filter.1 hc
    obtain ⟨d, -, rfl⟩ := List.mem_map.1 hmem
    obtain rfl : d.name = column := by simpa using hcol
    rfl
  · rw [Bool.eq_iff_iff, declares_iff]
    simp only [claimsOf, Bool.not_eq_true', List.isEmpty_eq_false_iff_exists_mem, List.mem_filter,
      List.mem_map]
    constructor
    · rintro ⟨_, ⟨d, ⟨hd, hkey⟩, rfl⟩, hcol⟩
      exact ⟨d, hd, by simpa using hcol, hkey⟩
    · rintro ⟨d, hd, hcol, hkey⟩
      exact ⟨_, ⟨d, ⟨hd, hkey⟩, rfl⟩, by simpa using hcol⟩

theorem find?_holders_eq (p : Policy) (ts : List Table) (column : String) :
    ((p.holders ts).find? (·.column = column)).map (·.table) = p.owner? ts column := by
  have hone := fun t => (claimsOf_filter p column t).1
  have hsome := fun t => (claimsOf_filter p column t).2
  rw [find?_holders, owner?_eq_choice, claims, List.filter_flatMap,
    choice_flatMap (g := fun t => ⟨column, t.id, p.rank column t.name⟩) (fun _ => rfl) hone]
  simp only [hsome, Option.map_map]
  rfl

theorem lookup_map_claims (cs : List Claim) (column : String) :
    (cs.map fun c => (c.column, c.table)).lookup column =
      (cs.find? (·.column = column)).map (·.table) := by
  induction cs with
  | nil => rfl
  | cons c cs ih =>
    rw [List.map_cons, List.lookup_cons, List.find?_cons]
    by_cases h : c.column = column
    · simp [h]
    · have hne : (column == c.column) = false := by simpa using Ne.symm h
      simp [h, hne, ih]

/-- The owners entered one by one are the owners of the declaration. -/
theorem lookup_owners (p : Policy) (ts : List Table) (column : String) :
    (p.owners ts).lookup column = p.owner? ts column := by
  rw [owners, lookup_map_claims, find?_holders_eq]

theorem exists_declares_of_owner? {p : Policy} {ts : List Table} {column id : String}
    (h : p.owner? ts column = some id) :
    ∃ t ∈ ts, t.id = id ∧ p.declares column t = true := by
  rw [owner?_eq_choice, Option.map_eq_some_iff] at h
  obtain ⟨t, ht, rfl⟩ := h
  obtain ⟨hmem, hdecl⟩ := List.mem_filter.1 (mem_of_choice ht)
  exact ⟨t, hmem, rfl, hdecl⟩

theorem isSome_owner?_iff {p : Policy} {ts : List Table} {column : String} :
    (p.owner? ts column).isSome = true ↔ ∃ t ∈ ts, p.declares column t = true := by
  rw [owner?_eq_choice, Option.isSome_map, Option.isSome_iff_ne_none, Ne, choice_eq_none_iff,
    List.filter_eq_nil_iff]
  simp

theorem nodup_owners (p : Policy) (ts : List Table) : ((p.owners ts).map (·.1)).Nodup := by
  rw [owners, List.map_map]
  exact nodup_column_holders p ts

theorem refer?_owners (p : Policy) (ts : List Table) (t : Table) (c : Column) :
    p.refer? (p.owners ts) t c =
      (p.owner? ts c.name).bind fun owner =>
        if !p.isExcluded c.name && owner ≠ t.id then some ⟨t.id, owner, c.name⟩ else none := by
  rw [refer?, lookup_owners]
  by_cases hex : p.isExcluded c.name = true
  · cases p.owner? ts c.name <;> simp [hex]
  · cases h : p.owner? ts c.name with
    | none => simp [hex]
    | some owner => by_cases ho : owner = t.id <;> simp [hex, ho]

/-- The relationships, with the owners as they are declared. -/
theorem relationships_eq (p : Policy) (ts : List Table) :
    p.relationships ts = ts.flatMap fun t => t.columns.filterMap fun c =>
      (p.owner? ts c.name).bind fun owner =>
        if !p.isExcluded c.name && owner ≠ t.id then some ⟨t.id, owner, c.name⟩ else none := by
  have href := fun t : Table => funext (refer?_owners p ts t)
  simp only [relationships, href]

theorem mem_relationships_iff {p : Policy} {ts : List Table} {r : Relationship} :
    r ∈ p.relationships ts ↔
      r.source ≠ r.target ∧ p.owner? ts r.column = some r.target ∧ p.isExcluded r.column = false ∧
        ∃ t ∈ ts, t.id = r.source ∧ ∃ c ∈ t.columns, c.name = r.column := by
  rw [relationships_eq, List.mem_flatMap]
  constructor
  · rintro ⟨t, ht, hr⟩
    obtain ⟨c, hc, hr⟩ := List.mem_filterMap.1 hr
    obtain ⟨owner, ho, hr⟩ := Option.bind_eq_some_iff.1 hr
    split at hr
    case isFalse => cases hr
    case isTrue hcond =>
      obtain rfl := Option.some.inj hr
      obtain ⟨hex, hne⟩ : p.isExcluded c.name = false ∧ owner ≠ t.id := by simpa using hcond
      exact ⟨hne.symm, ho, hex, t, ht, rfl, c, hc, rfl⟩
  · rintro ⟨hne, ho, hex, t, ht, hid, c, hc, hname⟩
    refine ⟨t, ht, List.mem_filterMap.2 ⟨c, hc, ?_⟩⟩
    rw [hname, ho, Option.bind_some, if_pos (by simp [hex, hid, Ne.symm hne]), hid]

/-- The owners that are entered claim by claim are those of the declaration, with one entry for
every name that some table declares as a key. A table declares a name by a key column of that
name that is neither excluded nor called `ID` in some case. The relationships are one for every
column that is not excluded and whose name is owned by another table, in the order of the tables
and of their columns. None of them leads from a table to itself, those of one column name have one
target, and the target declares a key of that name. -/
theorem relationships_follow_owners (p : Policy) (ts : List Table) :
    (∀ column, (p.owners ts).lookup column = p.owner? ts column) ∧
    ((p.owners ts).map (·.1)).Nodup ∧
    (∀ column t, p.declares column t = true ↔ ∃ c ∈ t.columns, c.name = column ∧
      c.isPrimaryKey = true ∧ p.isExcluded c.name = false ∧
        Text.upper c.name.toList ≠ "ID".toList) ∧
    (∀ column, (p.owner? ts column).isSome = true ↔ ∃ t ∈ ts, p.declares column t = true) ∧
    (p.relationships ts = ts.flatMap fun t => t.columns.filterMap fun c =>
      (p.owner? ts c.name).bind fun owner =>
        if !p.isExcluded c.name && owner ≠ t.id then some ⟨t.id, owner, c.name⟩ else none) ∧
    (∀ r ∈ p.relationships ts, r.source ≠ r.target) ∧
    (∀ r ∈ p.relationships ts, ∀ s ∈ p.relationships ts,
      r.column = s.column → r.target = s.target) ∧
    ∀ r ∈ p.relationships ts, p.owner? ts r.column = some r.target ∧
      ∃ t ∈ ts, t.id = r.target ∧ p.declares r.column t = true := by
  refine ⟨lookup_owners p ts, nodup_owners p ts, fun _ _ => declares_iff_exists_key,
    fun _ => isSome_owner?_iff, relationships_eq p ts, ?_, ?_, ?_⟩
  · intro r hr
    exact (mem_relationships_iff.1 hr).1
  · intro r hr s hs hcol
    have hrt := (mem_relationships_iff.1 hr).2.1
    have hst := (mem_relationships_iff.1 hs).2.1
    rw [hcol, hst] at hrt
    exact (Option.some.inj hrt).symm
  · intro r hr
    have ho := (mem_relationships_iff.1 hr).2.1
    exact ⟨ho, exists_declares_of_owner? ho⟩

/-- A rule gives the key to the second of two tables that declare it. -/
theorem relationships_follow_rule :
    let p := Policy.ofNames [] [("K", "b")]
    let key : Column := ⟨"K", "int", "", true, false⟩
    let ts : List Table := [⟨"1", "a", "", [key]⟩, ⟨"2", "b", "", [key]⟩]
    ⟨"1", "2", "K"⟩ ∈ p.relationships ts ∧ p.owner? ts "K" = some "2" := by
  intro p key ts
  have hmem : ⟨"1", "2", "K"⟩ ∈ p.relationships ts := by decide
  exact ⟨hmem, ((relationships_follow_owners p ts).2.2.2.2.2.2.2 _ hmem).1⟩

end Policy

end TableAtlas
