import TableAtlas.Proofs.Boundary
import TableAtlas.Text.Keyword
import TableAtlas.Text.Search

/-!
# The only quotation of a text

Where a text holds one quotation, a search for some words with a quotation behind them can
only end in that one, however often the words occur.
A text between two marks can be missing for three reasons: nothing is opened, nothing stands inside,
or nothing is closed.
-/

namespace TableAtlas.Text

def quotation (text : List Char) : List Char := '\'' :: (text ++ ['\''])

theorem afterChar?_eq_some_iff {d : Char} {s r : List Char} :
    afterChar? d s = some r ↔ s = d :: r := by
  cases s with
  | nil => simp [afterChar?]
  | cons c cs => by_cases h : c = d <;> simp [afterChar?, h]

theorem enclosed?_eq_some_iff {o c : Char} {s a : List Char} :
    enclosed? o c s = some a ↔ ∃ r, s = o :: (a ++ c :: r) ∧ a ≠ [] ∧ c ∉ a := by
  constructor
  · intro h
    simp only [enclosed?, bind, Option.bind_eq_some_iff, afterChar?_eq_some_iff] at h
    obtain ⟨body, rfl, h⟩ := h
    split at h
    · cases h
    · next hne =>
      obtain ⟨r, hr, ha⟩ := Option.bind_eq_some_iff.1 h
      obtain rfl := Option.some.inj ha
      refine ⟨r, ?_, by simpa using hne, ?_⟩
      · rw [← afterChar?_eq_some_iff.1 hr, List.takeWhile_append_dropWhile]
      · intro hmem
        have hall := List.all_eq_true.1 (List.all_takeWhile (p := (· ≠ c)) (l := body)) c hmem
        simp at hall
  · rintro ⟨r, rfl, hne, hc⟩
    have hrun : ∀ x ∈ a, decide (x ≠ c) = true := by
      intro x hx
      rw [decide_eq_true_eq]
      rintro rfl
      exact hc hx
    have hend : ∀ x ∈ (c :: r).head?, decide (x ≠ c) = false := by simp
    simp only [enclosed?, afterChar?, ↓reduceIte, bind, Option.bind_some, takeWhile_run hrun hend,
      dropWhile_run hrun hend]
    simp [hne]

/-- Why behind the blanks of a text no text stands between two marks. -/
inductive LacksEnclosed (o c : Char) (s : List Char) : Prop
  | absent (h : ∀ b t, (∀ x ∈ b, isBlank x = true) → s ≠ b ++ o :: t)
  | empty {b t : List Char} (hb : ∀ x ∈ b, isBlank x = true) (hs : s = b ++ o :: c :: t)
  | unclosed {b t : List Char} (hb : ∀ x ∈ b, isBlank x = true) (hs : s = b ++ o :: t) (ht : c ∉ t)

theorem lacksEnclosed_iff {o c : Char} (ho : isBlank o = false) {s : List Char} :
    LacksEnclosed o c s ↔ enclosed? o c (s.dropWhile isBlank) = none := by
  simp only [Option.eq_none_iff_forall_ne_some, ne_eq, enclosed?_eq_some_iff,
    dropWhile_blank_eq_cons_iff ho]
  constructor
  · rintro h a ⟨r, ⟨b, hb, rfl⟩, hne, ha⟩
    have hend : ∀ t, ∀ x ∈ (o :: t).head?, isBlank x = false := fun t => forall_mem_head?_cons ho
    cases h with
    | absent h => exact h b _ hb rfl
    | empty hb' hs =>
      obtain ⟨-, hrest⟩ := run_unique hb (hend _) hb' (hend _) hs
      cases a with
      | nil => exact hne rfl
      | cons e a =>
        obtain ⟨rfl, -⟩ := List.cons.inj (List.cons.inj hrest).2
        simp at ha
    | unclosed hb' hs ht =>
      obtain ⟨-, hrest⟩ := run_unique hb (hend _) hb' (hend _) hs
      rw [← (List.cons.inj hrest).2] at ht
      simp at ht
  · intro h
    by_cases hopen : ∃ b t, (∀ x ∈ b, isBlank x = true) ∧ s = b ++ o :: t
    · obtain ⟨b, t, hb, hs⟩ := hopen
      by_cases hclose : c ∈ t
      · obtain ⟨a, r, rfl, ha⟩ := List.eq_append_cons_of_mem hclose
        cases a with
        | nil => exact .empty hb hs
        | cons e a => exact absurd ⟨r, ⟨b, hb, hs⟩, List.cons_ne_nil e a, ha⟩ (h (e :: a))
      · exact .unclosed hb hs hclose
    · exact .absent fun b t hb hs => hopen ⟨b, t, hb, hs⟩

/-- A recogniser of the words of a language with a quotation behind them. -/
structure ReadsQuotation (W : List Char → Prop) (p : List Char → Option (List Char)) : Prop where
  eq_some_iff : ∀ s b, p s = some b ↔
    ∃ w r, W w ∧ s = w ++ '\'' :: (b ++ '\'' :: r) ∧ b ≠ [] ∧ '\'' ∉ b
  not_mem : ∀ w, W w → '\'' ∉ w

variable {p : List Char → Option (List Char)} {W : List Char → Prop} {u a r s : List Char}

theorem ReadsQuotation.search?_eq_none (hp : ReadsQuotation W p) (hs : '\'' ∉ s) :
    search? p s = none := by
  rw [search?_eq_none_iff]
  rintro x v rfl
  by_contra hsome
  obtain ⟨b, hb⟩ := Option.ne_none_iff_exists'.1 hsome
  obtain ⟨w, r, -, rfl, -, -⟩ := (hp.eq_some_iff v b).1 hb
  simp at hs

/-- What the search finds is a part of the text without a quote in it. -/
theorem ReadsQuotation.getD_search?_isInfix (hp : ReadsQuotation W p) (s : List Char) :
    (search? p s).getD [] <:+: s ∧ '\'' ∉ (search? p s).getD [] := by
  cases h : search? p s with
  | none => exact ⟨List.nil_infix, by simp⟩
  | some b =>
    obtain ⟨x, v, rfl, hv, -⟩ := search?_eq_some_iff.1 h
    obtain ⟨w, r, -, rfl, -, hb⟩ := (hp.eq_some_iff v b).1 hv
    exact ⟨⟨x ++ w ++ ['\''], '\'' :: r, by simp⟩, hb⟩

/-- The search ends in the only quotation. -/
theorem ReadsQuotation.getD_search? (hp : ReadsQuotation W p) (hwords : ∃ x w, u = x ++ w ∧ W w)
    (hu : '\'' ∉ u) (ha : '\'' ∉ a) (hr : '\'' ∉ r) :
    (search? p (u ++ (quotation a ++ r))).getD [] = a := by
  have hmark : ∀ {t : List Char}, '\'' ∉ t → ∀ x ∈ t, decide (x ≠ '\'') = true := by
    intro t ht x hx
    rw [decide_eq_true_eq]
    rintro rfl
    exact ht hx
  have hquoted : quotation a ++ r = '\'' :: (a ++ '\'' :: r) := by simp [quotation]
  cases h : search? p (u ++ (quotation a ++ r)) with
  | none =>
    obtain ⟨x, w, rfl, hw⟩ := hwords
    by_contra hne
    have hfound : p (w ++ (quotation a ++ r)) = some a :=
      (hp.eq_some_iff _ _).2 ⟨w, r, hw, by rw [hquoted], fun h => hne h.symm, ha⟩
    rw [search?_eq_none_iff.1 h x (w ++ (quotation a ++ r)) (by simp)] at hfound
    cases hfound
  | some b =>
    obtain ⟨x, v, hx, hv, -⟩ := search?_eq_some_iff.1 h
    obtain ⟨w, r', hw, rfl, -, hb⟩ := (hp.eq_some_iff v b).1 hv
    rw [hquoted] at hx
    have hcount := congrArg (List.count '\'') hx
    simp only [List.count_append, List.count_cons, beq_self_eq_true, ↓reduceIte,
      List.count_eq_zero.2 hu, List.count_eq_zero.2 ha, List.count_eq_zero.2 hr,
      List.count_eq_zero.2 hb, List.count_eq_zero.2 (hp.not_mem w hw)] at hcount
    have hxfree : '\'' ∉ x := List.count_eq_zero.1 (by omega)
    have hfree : '\'' ∉ x ++ w := by simp [hxfree, hp.not_mem w hw]
    have hx' : u ++ '\'' :: (a ++ '\'' :: r) = (x ++ w) ++ '\'' :: (b ++ '\'' :: r') := by
      simpa using hx
    obtain ⟨-, hrest⟩ := run_unique (hmark hu) (by simp) (hmark hfree) (by simp) hx'
    obtain ⟨hab, -⟩ := run_unique (hmark ha) (by simp) (hmark hb) (by simp) (List.cons.inj hrest).2
    exact hab.symm

end TableAtlas.Text
