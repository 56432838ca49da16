import TableAtlas.Proofs.SchemaForm

/-!
# How the key list is read

The key names of a table are those of the leftmost key list that is complete. The words
`PRIMARY KEY` with no list behind them, with an empty one or with one that nothing closes are passed
over, and what follows a complete list is not looked at.
-/

namespace TableAtlas.Dump

open Text

variable {k r s v x : List Char}

/-- Whether the words `PRIMARY KEY` stand at the front with a list `x` that is not empty and ends at
the first closing parenthesis. -/
def HasKeyList (s x : List Char) : Prop :=
  ∃ w r, IsKeyOpening w ∧ s = w ++ (x ++ ')' :: r) ∧ x ≠ [] ∧ ')' ∉ x

/-- Whether the words `PRIMARY KEY` have no complete list, by the text `r` behind them: it is
absent, empty or not closed. -/
def LacksList (r : List Char) : Prop := LacksEnclosed '(' ')' r

/-- Whether a list has the name `n` between two commas, apart from the blanks around it and the
quotes within these. -/
def Lists (x n : List Char) : Prop :=
  n ≠ [] ∧ ∃ part ∈ x.splitOn ',', ∃ t, TrimsTo isBlank part t ∧ TrimsTo isQuote t n

theorem lists_iff {n : List Char} : Lists x n ↔ n ∈ listedNames x := by
  simp only [Lists, mem_listedNames, ← trimBy_eq_iff, exists_eq_left', trim]
  exact and_comm

theorem mem_keyNames_iff {body : List Char} {n : String} :
    n ∈ keyNames body ↔ ∃ x, search? keyList? body = some x ∧ Lists x n.toList := by
  simp only [lists_iff, ← mem_keyNames, String.ofList_toList]

theorem keyList?_iff_hasKeyList (s x : List Char) : keyList? s = some x ↔ HasKeyList s x :=
  keyList?_eq_some_iff

/-! ## Words without a list -/

theorem keyList?_append (hk : fold k = "PRIMARY KEY".toList) (r : List Char) :
    keyList? (k ++ r) = enclosed? '(' ')' (r.dropWhile isBlank) := by
  simp only [keyList?, afterKeyword?_of_fold hk (by decide), bind, Option.bind_some]

/-- Without a complete list the list is absent, empty or not closed. -/
theorem lacksList_iff (hk : fold k = "PRIMARY KEY".toList) :
    LacksList r ↔ ∀ x, ¬ HasKeyList (k ++ r) x := by
  rw [LacksList, lacksEnclosed_iff (by decide), ← keyList?_append hk]
  simp only [Option.eq_none_iff_forall_ne_some, ne_eq, keyList?_iff_hasKeyList]

/-- A complete list is the leftmost one if all the words `PRIMARY KEY` before it lack a list. -/
theorem leftmost_of_lacksList {u : List Char} (h : HasKeyList v x)
    (hlack : ∀ a k r, u ++ v = a ++ (k ++ r) → fold k = "PRIMARY KEY".toList →
      a.length < u.length → LacksList r) : Leftmost HasKeyList (u ++ v) x := by
  refine ⟨u, v, rfl, h, ?_⟩
  intro a s hs hlength y hy
  obtain ⟨k, r, rfl, hk⟩ : ∃ k r, s = k ++ r ∧ fold k = "PRIMARY KEY".toList := by
    obtain ⟨_, t, ⟨k, b, rfl, hk, -⟩, rfl, -, -⟩ := hy
    exact ⟨k, b ++ '(' :: (y ++ ')' :: t), by simp, hk⟩
  exact (lacksList_iff hk).1 (hlack a k r hs hk hlength) y hy

/-- No opening begins within a text and ends with an opening behind it. -/
theorem IsKeyOpening.eq_nil_of_append {a w : List Char} (h : IsKeyOpening (a ++ w))
    (hw : IsKeyOpening w) : a = [] := by
  obtain ⟨k, b, rfl, hk, hb⟩ := hw
  obtain ⟨k', b', hwords, hk', hb'⟩ := h
  have hlast : ∀ {u : List Char}, fold u = "PRIMARY KEY".toList → ∀ s, ∀ c ∈ (s ++ u).getLast?,
      isBlank c = false := by
    intro u hu s
    have hne : u ≠ [] := by
      rintro rfl
      cases hu
    rw [List.getLast?_append_of_ne_nil s hne]
    apply last_not_blank_of_fold
    rw [hu]
    decide
  have hreverse : b.reverse ++ (a ++ k).reverse = b'.reverse ++ k'.reverse := by
    have hfront : a ++ (k ++ b) = k' ++ b' := by simpa [← List.append_assoc] using hwords
    rw [← List.reverse_append, ← List.reverse_append, List.append_assoc, hfront]
  obtain ⟨-, hwords⟩ := run_unique (by simpa using hb) (by simpa using hlast hk a)
    (by simpa using hb') (by simpa using hlast hk' []) hreverse
  have hlength := congrArg List.length (hk.trans hk'.symm)
  have hsum := congrArg List.length hwords
  simp only [fold, List.length_map, List.length_reverse, List.length_append] at hlength hsum
  exact List.length_eq_zero_iff.1 (by omega)

/-- A complete list is the leftmost one if no list opens before it. -/
theorem leftmost_of_not_contains {u : List Char} (hu : ¬ Contains IsKeyOpening u)
    (h : HasKeyList v x) : Leftmost HasKeyList (u ++ v) x := by
  refine ⟨u, v, rfl, h, ?_⟩
  rintro u' v' hs hlength y ⟨w', r', hw', rfl, -, -⟩
  obtain ⟨w, r, hw, rfl, -, -⟩ := h
  -- The words begin within `u`, say in front of its end `a`.
  obtain ⟨a, rfl, ha⟩ : ∃ a, u = u' ++ a ∧
      w' ++ (y ++ ')' :: r') = a ++ (w ++ (x ++ ')' :: r)) := by
    rcases List.append_eq_append_iff.1 hs with ⟨a, rfl, -⟩ | ⟨a, rfl, ha⟩
    · rw [List.length_append] at hlength
      omega
    · exact ⟨a, rfl, ha⟩
  obtain ⟨f, rfl, hf⟩ := hw.exists_front
  obtain ⟨f', rfl, hf'⟩ := hw'.exists_front
  by_cases hopen : '(' ∈ a
  · obtain ⟨b, rfl⟩ := exists_cut_of_append (u := f') hopen hf' (by simpa using ha.symm)
    exact hu ⟨_, hw', u', b, by simp⟩
  · have hfront : '(' ∉ a ++ f := by simp [hopen, hf]
    obtain ⟨rfl, -⟩ := append_cons_unique hf' hfront (by simpa using ha)
    rw [List.append_assoc] at hw'
    simp [hw'.eq_nil_of_append hw] at hlength

/-! ## What follows a list -/

theorem close_not_mem_keyOpening : ∀ w, IsKeyOpening w → ')' ∉ w := by
  apply not_mem_keyOpening
  all_goals decide

theorem HasKeyList.close_mem (h : HasKeyList s x) : ')' ∈ s := by
  obtain ⟨w, r, -, rfl, -, -⟩ := h
  simp

theorem HasKeyList.append (h : HasKeyList s x) (t : List Char) : HasKeyList (s ++ t) x := by
  obtain ⟨w, r, hw, rfl, hne, hx⟩ := h
  exact ⟨w, r ++ t, hw, by simp, hne, hx⟩

/-- A text with a closing parenthesis in it leaves no list open. -/
theorem HasKeyList.of_append {t : List Char} (hs : ')' ∈ s) (h : HasKeyList (s ++ t) x) :
    HasKeyList s x := by
  obtain ⟨w, r, hw, h, hne, hx⟩ := h
  have hfront : ')' ∉ w ++ x := by simp [close_not_mem_keyOpening w hw, hx]
  obtain ⟨a, rfl⟩ := exists_cut_of_append (u := w ++ x) hs hfront (by simpa using h)
  exact ⟨w, a, hw, by simp, hne, hx⟩

theorem search?_keyList?_append_right (h : search? keyList? s = some x) (t : List Char) :
    search? keyList? (s ++ t) = some x := by
  induction s with
  | nil => cases h
  | cons c s ih =>
    cases hfront : keyList? (c :: s) with
    | some y =>
      rw [search?, hfront, Option.some_or] at h
      obtain rfl := Option.some.inj h
      have hlist := ((keyList?_iff_hasKeyList _ _).1 hfront).append t
      exact search?_of_eq_some ((keyList?_iff_hasKeyList _ _).2 hlist)
    | none =>
      rw [search?, hfront, Option.none_or] at h
      have hclose : ')' ∈ c :: s := by
        obtain ⟨u, v, rfl, hv, -⟩ := search?_eq_some_iff.1 h
        have hmem := ((keyList?_iff_hasKeyList _ _).1 hv).close_mem
        simp [hmem]
      have hnone : keyList? (c :: s ++ t) = none := by
        by_contra hsome
        obtain ⟨y, hy⟩ := Option.ne_none_iff_exists'.1 hsome
        have hlist := ((keyList?_iff_hasKeyList _ _).1 hy).of_append hclose
        rw [(keyList?_iff_hasKeyList _ _).2 hlist] at hfront
        cases hfront
      rw [List.cons_append] at hnone ⊢
      rw [search?, hnone, Option.none_or, ih h]

/-! ## The key names -/

theorem keyNames_of_no_list (h : ∀ u v x, s = u ++ v → ¬ HasKeyList v x) : keyNames s = [] := by
  rw [keyNames, (search?_eq_none_iff_forall keyList?_iff_hasKeyList).2 h]

theorem mem_keyNames_of_leftmost (h : Leftmost HasKeyList s x) (n : String) :
    n ∈ keyNames s ↔ Lists x n.toList := by
  have hsearch := (search?_eq_some_iff_leftmost keyList?_iff_hasKeyList).2 h
  simp [mem_keyNames_iff, hsearch]

theorem keyNames_append (h : HasKeyList v x) (u t : List Char) :
    keyNames (u ++ v ++ t) = keyNames (u ++ v) := by
  cases hsearch : search? keyList? (u ++ v) with
  | some y => rw [keyNames, keyNames, hsearch, search?_keyList?_append_right hsearch]
  | none =>
    have hnone := (search?_eq_none_iff_forall keyList?_iff_hasKeyList).1 hsearch
    exact absurd h (hnone u v x rfl)

/-- The key names are those of the leftmost complete list, and there are none without such a list.
Earlier words `PRIMARY KEY` whose list is absent, empty or not closed do not hide a complete list,
and no list behind it adds to it. The columns with these names are the key columns. -/
theorem keyNames_read_leftmost_list (body : List Char) :
    ((∀ u v x, body = u ++ v → ¬ HasKeyList v x) → keyNames body = []) ∧
      (∀ x, Leftmost HasKeyList body x → ∀ n, n ∈ keyNames body ↔ Lists x n.toList) ∧
      (∀ u v x, body = u ++ v → HasKeyList v x →
        (∀ a k r, body = a ++ (k ++ r) → fold k = "PRIMARY KEY".toList → a.length < u.length →
          LacksList r) →
        ∀ n, n ∈ keyNames body ↔ Lists x n.toList) ∧
      (∀ u v x, body = u ++ v → HasKeyList v x → ∀ t, keyNames (body ++ t) = keyNames body) ∧
      ∀ c ∈ columns (keyNames body) body, c.isPrimaryKey = true ↔ c.name ∈ keyNames body := by
  refine ⟨keyNames_of_no_list, fun x => mem_keyNames_of_leftmost, ?_, ?_, ?_⟩
  · rintro u v x rfl h hlack
    exact mem_keyNames_of_leftmost (leftmost_of_lacksList h hlack)
  · rintro u v x rfl h t
    exact keyNames_append h u t
  · intro c hc
    rw [isPrimaryKey_of_mem_columns hc]
    exact List.contains_iff_mem

/-- Words without a list, with an empty list and in other forms of their letters, and a second list
behind the first. -/
theorem keyNames_pass_over_failed_lists :
    let u := "k int primary key,\nPRIMARY KEY (),\n".toList
    let v := "PR\u0130MARY \u212aEY\n( \"k\" ,, \x60m\x60')\nPRIMARY KEY (n)".toList
    let x := " \"k\" ,, \x60m\x60'".toList
    HasKeyList v x ∧
      (∀ a k r, u ++ v = a ++ (k ++ r) → fold k = "PRIMARY KEY".toList → a.length < u.length →
        LacksList r) ∧
      ∀ n, n ∈ keyNames (u ++ v) ↔ Lists x n.toList := by
  intro u v x
  have hlist : HasKeyList v x := (keyList?_iff_hasKeyList v x).1 (by decide +kernel)
  have hearlier : ∀ i < u.length, keyList? ((u ++ v).drop i) = none := by decide +kernel
  have hlack : ∀ a k r, u ++ v = a ++ (k ++ r) → fold k = "PRIMARY KEY".toList →
      a.length < u.length → LacksList r := by
    intro a k r h hk hlength
    refine (lacksList_iff hk).2 fun y hy => ?_
    have hnone := hearlier a.length hlength
    rw [h, List.drop_left, (keyList?_iff_hasKeyList _ y).2 hy] at hnone
    cases hnone
  exact ⟨hlist, hlack, (keyNames_read_leftmost_list (u ++ v)).2.2.1 u v x rfl hlist hlack⟩

end TableAtlas.Dump
