import Mathlib.Data.List.Flatten
import Mathlib.Data.List.Nodup
import TableAtlas.Proofs.Ownership

/-!
# Which changes to the tables leave owners alone

Where a rule gives a name to one of the tables that declare it, the owner is the table of the
strongest such rule. If table names differ there is one such table, and it is the same in whatever
order the tables come. Further tables without rules only get what nobody owned before. So all the
relationships between the old tables stay, in their order, although new ones may come in between.
-/

namespace TableAtlas

section Choice

variable {α : Type} {n : Nat} {rank : α → Nat} {xs ys : List α} {x : α}

/-- Whether an entry is the only one of the least rank, and that rank is below `n`. -/
structure IsStrongest (n : Nat) (rank : α → Nat) (xs : List α) (x : α) : Prop where
  mem : x ∈ xs
  rank_lt : rank x < n
  rank_lt_of_ne : ∀ y ∈ xs, y ≠ x → rank x < rank y

theorem IsStrongest.perm (h : IsStrongest n rank xs x) (hperm : xs.Perm ys) :
    IsStrongest n rank ys x where
  mem := hperm.mem_iff.1 h.mem
  rank_lt := h.rank_lt
  rank_lt_of_ne := fun y hy => h.rank_lt_of_ne y (hperm.mem_iff.2 hy)

theorem IsStrongest.choice_eq (h : IsStrongest n rank xs x) : choice n rank xs = some x := by
  have hleast : leastRank? n rank xs = some (rank x) := by
    refine leastRank?_eq_some_iff.2 ⟨⟨x, h.mem, h.rank_lt, rfl⟩, fun y hy _ => ?_⟩
    by_cases hyx : y = x
    · exact Nat.le_of_eq (congrArg rank hyx.symm)
    · exact Nat.le_of_lt (h.rank_lt_of_ne y hy hyx)
  obtain ⟨y, hy, hrank⟩ := exists_choice_of_leastRank? hleast
  have hyx : y = x := by
    by_contra hne
    have hlt := h.rank_lt_of_ne y (mem_of_choice hy) hne
    omega
  rw [hy, hyx]

/-- Where no two entries share a rank below `n` and there is such a rank, one entry is the
strongest. -/
theorem exists_isStrongest
    (hinj : ∀ x ∈ xs, ∀ y ∈ xs, rank x < n → rank x = rank y → x = y)
    (hsome : ∃ x ∈ xs, rank x < n) : ∃ x, IsStrongest n rank xs x := by
  cases hleast : leastRank? n rank xs with
  | none =>
    obtain ⟨x, hx, hlt⟩ := hsome
    have hge := leastRank?_eq_none_iff.1 hleast x hx
    omega
  | some best =>
    obtain ⟨⟨x, hx, hlt, rfl⟩, hle⟩ := leastRank?_eq_some_iff.1 hleast
    refine ⟨x, hx, hlt, fun y hy hne => ?_⟩
    by_contra hge
    have hle := hle y hy (by omega)
    exact hne (hinj x hx y hy hlt (by omega)).symm

/-- An entry without a rank below `n` takes nothing from a holder. -/
theorem takeOver_of_le {h next : α} (hnext : n ≤ rank next) :
    takeOver n rank (some h) next = some h := by
  rw [takeOver, if_neg (by omega)]

/-- A choice stands, whatever entries without a rank below `n` come behind it. -/
theorem choice_append_of_le (h : choice n rank xs = some x) (hys : ∀ y ∈ ys, n ≤ rank y) :
    choice n rank (xs ++ ys) = some x := by
  rw [choice_eq_foldl] at h
  rw [choice_eq_foldl, List.foldl_append, h]
  induction ys with
  | nil => rfl
  | cons y ys ih =>
    rw [List.foldl_cons, takeOver_of_le (hys y (by simp))]
    exact ih fun z hz => hys z (by simp [hz])

end Choice

/-- A function that answers wherever another one does, and then the same, keeps its answers. -/
theorem filterMap_sublist_filterMap {α β : Type} {f g : α → Option β} (l : List α)
    (h : ∀ a ∈ l, ∀ b, f a = some b → g a = some b) : (l.filterMap f).Sublist (l.filterMap g) := by
  induction l with
  | nil => exact List.Sublist.slnil
  | cons a l ih =>
    have hrest := ih fun c hc => h c (by simp [hc])
    rw [List.filterMap_cons, List.filterMap_cons]
    cases hf : f a with
    | some b =>
      rw [h a (by simp) b hf]
      exact hrest.cons_cons b
    | none =>
      cases g a with
      | none => exact hrest
      | some b => exact hrest.cons b

namespace Policy

variable {p : Policy} {ts us : List Table} {column owner : String}

/-! ## The order of tables -/

theorem claims_of_rank {t : String} (h : p.rank column t < p.rules.length) :
    (p.rules[p.rank column t]).claims column t = true :=
  List.findIdx_getElem (p := fun r : Rule => r.claims column t) (w := h)

/-- A rule names one table. -/
theorem eq_of_rank_eq {s t : String} (hlt : p.rank column s < p.rules.length)
    (heq : p.rank column s = p.rank column t) : s = t := by
  have hs := claims_of_rank hlt
  have ht := claims_of_rank (heq ▸ hlt)
  simp only [← heq, Rule.claims, Bool.and_eq_true, Config.Value.isText_iff] at hs ht
  exact Config.Value.text.inj (hs.2.symm.trans ht.2)

/-- Of tables with different names, one has the strongest rule for a name, if any has a rule. -/
theorem exists_isStrongest_table (hnames : (ts.map (·.name)).Nodup)
    (hrule : ∃ t ∈ ts, p.declares column t = true ∧ p.prefers column t = true) :
    ∃ t, IsStrongest p.rules.length (fun t => p.rank column t.name)
      (ts.filter (p.declares column)) t := by
  apply exists_isStrongest
  · intro s hs t ht hlt heq
    exact List.inj_on_of_nodup_map hnames (List.mem_filter.1 hs).1 (List.mem_filter.1 ht).1
      (eq_of_rank_eq hlt heq)
  · obtain ⟨t, ht, hdecl, hpref⟩ := hrule
    exact ⟨t, List.mem_filter.2 ⟨ht, hdecl⟩, prefers_iff.1 hpref⟩

theorem exists_owner?_of_perm (hperm : ts.Perm us) (hnames : (ts.map (·.name)).Nodup)
    (hrule : ∃ t ∈ ts, p.declares column t = true ∧ p.prefers column t = true) :
    ∃ owner, p.owner? ts column = some owner ∧ p.owner? us column = some owner := by
  obtain ⟨t, ht⟩ := exists_isStrongest_table hnames hrule
  refine ⟨t.id, ?_, ?_⟩
  · rw [owner?_eq_choice, ht.choice_eq, Option.map_some]
  · rw [owner?_eq_choice, (ht.perm (hperm.filter _)).choice_eq, Option.map_some]

/-- The relationships of a table on one column name, where the owner of that name is known. -/
def referencesOn (p : Policy) (column : String) (owner? : Option String) (t : Table) :
    List Relationship :=
  (t.columns.filter (·.name = column)).filterMap fun c => owner?.bind fun owner =>
    if !p.isExcluded c.name && owner ≠ t.id then some ⟨t.id, owner, c.name⟩ else none

/-- The relationships on a column name come from each table apart, and depend on the other tables
by the owner only. -/
theorem relationships_on_column (p : Policy) (ts : List Table) (column : String) :
    (p.relationships ts).filter (·.column = column) =
      ts.flatMap (p.referencesOn column (p.owner? ts column)) := by
  rw [relationships_eq, List.filter_flatMap]
  congr 1
  funext t
  rw [referencesOn, List.filter_filterMap, List.filterMap_filter]
  congr 1
  funext c
  by_cases hc : c.name = column
  · subst hc
    rw [if_pos (by simp)]
    cases p.owner? ts c.name with
    | none => rfl
    | some owner =>
      rw [Option.bind_some]
      split <;> simp
  · rw [if_neg (by simpa using hc)]
    cases p.owner? ts c.name with
    | none => rfl
    | some owner =>
      rw [Option.bind_some]
      split <;> simp [hc]

/-- If a rule gives a name to one of the tables that declare it, then its owner is the same in
every order of the tables, and so are the relationships on that name, up to their order. -/
theorem ruled_owner_of_every_order (hperm : ts.Perm us) (hnames : (ts.map (·.name)).Nodup)
    (hrule : ∃ t ∈ ts, p.declares column t = true ∧ p.prefers column t = true) :
    (∃ owner, (p.owners ts).lookup column = some owner ∧
      (p.owners us).lookup column = some owner) ∧
    ((p.relationships ts).filter (·.column = column)).Perm
      ((p.relationships us).filter (·.column = column)) := by
  obtain ⟨owner, hts, hus⟩ := exists_owner?_of_perm hperm hnames hrule
  refine ⟨⟨owner, by rw [lookup_owners, hts], by rw [lookup_owners, hus]⟩, ?_⟩
  rw [relationships_on_column, relationships_on_column, hts, hus]
  exact hperm.flatMap_right _

/-- The stronger of two rules decides, whether its table comes before or behind that of the weaker
one, and a third table that declares the key gets it in neither order. -/
theorem ruled_owner_of_reversed_tables :
    let p := Policy.ofNames [] [("K", "b"), ("K", "c")]
    let key : Column := ⟨"K", "int", "", true, false⟩
    let ts : List Table :=
      [⟨"a", "a", "", [key]⟩, ⟨"b", "b", "", [key]⟩, ⟨"c", "c", "", [key, key]⟩]
    (p.owners ts).lookup "K" = some "b" ∧ (p.owners ts.reverse).lookup "K" = some "b" ∧
      ((p.relationships ts).filter (·.column = "K")).Perm
        ((p.relationships ts.reverse).filter (·.column = "K")) := by
  intro p key ts
  have hrule : ∃ t ∈ ts, p.declares "K" t = true ∧ p.prefers "K" t = true :=
    ⟨⟨"b", "b", "", [key]⟩, by decide, by decide, by decide⟩
  obtain ⟨⟨owner, hts, hreverse⟩, hlinks⟩ :=
    ruled_owner_of_every_order (List.reverse_perm ts).symm (by decide) hrule
  have howner : owner = "b" := by
    have hb : (p.owners ts).lookup "K" = some "b" := by decide
    rw [hts] at hb
    exact Option.some.inj hb
  rw [howner] at hts hreverse
  exact ⟨hts, hreverse, hlinks⟩

/-! ## Further tables -/

theorem owner?_append (h : p.owner? ts column = some owner)
    (hus : ∀ u ∈ us, p.prefers column u = false) : p.owner? (ts ++ us) column = some owner := by
  rw [owner?_eq_choice, Option.map_eq_some_iff] at h
  obtain ⟨t, ht, rfl⟩ := h
  have hrank : ∀ u ∈ us.filter (p.declares column), p.rules.length ≤ p.rank column u.name := by
    intro u hu
    by_contra hlt
    have hpref := prefers_iff.2 (Nat.lt_of_not_le hlt)
    rw [hus u (List.mem_filter.1 hu).1] at hpref
    cases hpref
  rw [owner?_eq_choice, List.filter_append, choice_append_of_le ht hrank, Option.map_some]

/-- Where every owner is kept, the old tables keep their relationships. -/
theorem relationships_sublist_append
    (h : ∀ column owner, p.owner? ts column = some owner →
      p.owner? (ts ++ us) column = some owner) :
    (p.relationships ts).Sublist (p.relationships (ts ++ us)) := by
  rw [relationships_eq, relationships_eq, List.flatMap_append]
  refine (List.Sublist.flatMap_right ts fun t _ => ?_).trans (List.sublist_append_left _ _)
  refine filterMap_sublist_filterMap t.columns fun c _ r hr => ?_
  obtain ⟨owner, howner, hlink⟩ := Option.bind_eq_some_iff.1 hr
  exact Option.bind_eq_some_iff.2 ⟨owner, h c.name owner howner, hlink⟩

/-- Further tables, none of which a rule names, take no key from its owner and no relationship away,
and the relationships that there were stay in their order. -/
theorem relationships_kept_by_further_tables (p : Policy) (ts : List Table) {us : List Table}
    (hus : ∀ u ∈ us, ∀ r ∈ p.rules, r.table.isText u.name = false) :
    (∀ column owner, (p.owners ts).lookup column = some owner →
      (p.owners (ts ++ us)).lookup column = some owner) ∧
    (p.relationships ts).Sublist (p.relationships (ts ++ us)) := by
  have hpref : ∀ column, ∀ u ∈ us, p.prefers column u = false := by
    intro column u hu
    rw [prefers, List.any_eq_false]
    intro r hr
    simp [Rule.claims, hus u hu r hr]
  have howner : ∀ column owner, p.owner? ts column = some owner →
      p.owner? (ts ++ us) column = some owner := fun column _ h => owner?_append h (hpref column)
  refine ⟨fun column owner h => ?_, relationships_sublist_append howner⟩
  rw [lookup_owners] at h ⊢
  exact howner column owner h

/-- A further table claims a key that is owned and one that is not. The old relationship stays, and
a new one of an old table comes in front of it. -/
theorem relationships_kept_by_rival_table :
    let p := Policy.ofNames [] [("K", "a")]
    let column : String → Bool → Column := fun name key => ⟨name, "int", "", key, false⟩
    let ts : List Table := [⟨"a", "a", "", [column "K" true]⟩,
      ⟨"b", "b", "", [column "L" false, column "K" false]⟩]
    let us : List Table := [⟨"c", "c", "", [column "K" true, column "L" true]⟩]
    (p.owners (ts ++ us)).lookup "K" = some "a" ∧ p.relationships ts = [⟨"b", "a", "K"⟩] ∧
      (p.relationships ts).Sublist (p.relationships (ts ++ us)) ∧
        p.relationships (ts ++ us) = [⟨"b", "c", "L"⟩, ⟨"b", "a", "K"⟩, ⟨"c", "a", "K"⟩] := by
  intro p column ts us
  have hus : ∀ u ∈ us, ∀ r ∈ p.rules, r.table.isText u.name = false := by decide
  obtain ⟨howners, hlinks⟩ := relationships_kept_by_further_tables p ts hus
  exact ⟨howners "K" "a" (by decide), by decide, hlinks, by decide⟩

end Policy

end TableAtlas
