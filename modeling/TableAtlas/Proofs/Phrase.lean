import TableAtlas.Proofs.Boundary
import TableAtlas.Proofs.Folding

/-!
# Words of a language inside a text

A text that is put together from pieces contains a word of a language only where one of the
pieces does, if the pieces meet at characters that no word has. Phrases, which are two words in
any case with blanks between them, also cannot reach over a blank behind which something other
than their second word begins.
-/

namespace TableAtlas.Text

/-- Whether some infix of the text is a word of the language. -/
def Contains (L : List Char → Prop) (s : List Char) : Prop := ∃ w, L w ∧ w <:+: s

/-- Two words, in any case, with a gap of blanks between them. -/
structure Phrase where
  first : List Char
  second : List Char
  gap : List Char → Prop
  first_ne_nil : first ≠ []
  second_ne_nil : second ≠ []
  gap_ne_nil : ¬ gap []
  blank_of_gap : ∀ b, gap b → ∀ x ∈ b, isBlank x = true
  not_blank : ∀ x ∈ first ++ second, isBlank x = false

/-- The texts that a phrase covers. -/
def Phrase.Covers (P : Phrase) (w : List Char) : Prop :=
  ∃ a b c, w = a ++ b ++ c ∧ fold a = P.first ∧ P.gap b ∧ fold c = P.second

/-- Whether a character is neither a blank nor a form of a letter of the phrase. -/
def Phrase.IsDivider (P : Phrase) (d : Char) : Prop :=
  foldCase d ∉ P.first ++ P.second ∧ isBlank d = false

instance (P : Phrase) (d : Char) : Decidable (P.IsDivider d) :=
  inferInstanceAs (Decidable (foldCase d ∉ P.first ++ P.second ∧ isBlank d = false))

variable {L : List Char → Prop} {u v w s : List Char} {d : Char}

theorem infix_append_cons (hw : d ∉ w) : w <:+: u ++ d :: v ↔ w <:+: u ∨ w <:+: v := by
  constructor
  · rintro ⟨x, y, h⟩
    rw [List.append_assoc] at h
    rcases List.append_eq_append_iff.1 h with ⟨z, rfl, hz⟩ | ⟨z, rfl, hz⟩
    · rcases List.append_eq_append_iff.1 hz with ⟨t, rfl, -⟩ | ⟨t, rfl, ht⟩
      · exact .inl ⟨x, t, by simp⟩
      · cases t with
        | nil => exact .inl ⟨x, [], by simp⟩
        | cons e t =>
          obtain ⟨rfl, -⟩ := List.cons.inj ht
          simp at hw
    · cases z with
      | nil =>
        cases w with
        | nil => exact .inl List.nil_infix
        | cons e w =>
          obtain ⟨rfl, -⟩ := List.cons.inj hz
          simp at hw
      | cons e z =>
        obtain ⟨rfl, rfl⟩ := List.cons.inj hz
        exact .inr ⟨z, y, by simp⟩
  · rintro (h | h)
    · exact h.trans (List.prefix_append u (d :: v)).isInfix
    · exact h.trans ((List.suffix_cons d v).trans (List.suffix_append u (d :: v))).isInfix

theorem Contains.mono (h : Contains L u) (huv : u <:+: v) : Contains L v := by
  obtain ⟨w, hw, hwu⟩ := h
  exact ⟨w, hw, hwu.trans huv⟩

/-- A character that no word has parts a text in two. -/
theorem contains_append_cons (hd : ∀ w, L w → d ∉ w) :
    Contains L (u ++ d :: v) ↔ Contains L u ∨ Contains L v := by
  constructor
  · rintro ⟨w, hw, h⟩
    rcases (infix_append_cons (hd w hw)).1 h with h | h
    · exact .inl ⟨w, hw, h⟩
    · exact .inr ⟨w, hw, h⟩
  · rintro (⟨w, hw, h⟩ | ⟨w, hw, h⟩)
    · exact ⟨w, hw, (infix_append_cons (hd w hw)).2 (.inl h)⟩
    · exact ⟨w, hw, (infix_append_cons (hd w hw)).2 (.inr h)⟩

/-- A search that recognises a language at the front finds it where the text contains it. -/
theorem occurs_iff_contains {p : List Char → Bool}
    (hp : ∀ s, p s = true ↔ ∃ w r, L w ∧ s = w ++ r) : occurs p s = true ↔ Contains L s := by
  rw [occurs_eq_true_iff]
  constructor
  · rintro ⟨u, v, rfl, hv⟩
    obtain ⟨w, r, hw, rfl⟩ := (hp v).1 hv
    exact ⟨w, hw, u, r, by simp⟩
  · rintro ⟨w, hw, u, r, rfl⟩
    exact ⟨u, w ++ r, by simp, (hp _).2 ⟨w, r, hw, rfl⟩⟩

/-- A keyword occurs where the text contains one of its spellings. -/
theorem occurs_keyword_iff {k : List Char} (hk : fold k = k) :
    occurs (hasKeyword k) s = true ↔ Contains (fold · = k) s := by
  apply occurs_iff_contains
  intro t
  simp only [hasKeyword, Option.isSome_iff_exists, afterKeyword?_eq_some_iff_fold hk]
  exact exists_comm

/-- What stands at the leftmost place at which a relation holds of the rest of a text. -/
def Leftmost {α : Type} (R : List Char → α → Prop) (s : List Char) (a : α) : Prop :=
  ∃ u v, s = u ++ v ∧ R v a ∧ ∀ u' v', s = u' ++ v' → u'.length < u.length → ∀ b, ¬ R v' b

/-- A search answers with what stands at the leftmost place. -/
theorem search?_eq_some_iff_leftmost {α : Type} {p : List Char → Option α}
    {R : List Char → α → Prop} (hp : ∀ s a, p s = some a ↔ R s a) {a : α} :
    search? p s = some a ↔ Leftmost R s a := by
  simp only [search?_eq_some_iff, Leftmost, Option.eq_none_iff_forall_ne_some, ne_eq, hp]

theorem search?_eq_none_iff_forall {α : Type} {p : List Char → Option α}
    {R : List Char → α → Prop} (hp : ∀ s a, p s = some a ↔ R s a) :
    search? p s = none ↔ ∀ u v a, s = u ++ v → ¬ R v a := by
  rw [search?_eq_none_iff]
  simp only [Option.eq_none_iff_forall_ne_some, ne_eq, hp]
  constructor
  · intro h u v a huv
    exact h u v huv a
  · intro h u v huv a
    exact h u v a huv

namespace Phrase

variable {P : Phrase}

theorem IsDivider.not_mem (h : P.IsDivider d) (hw : P.Covers w) : d ∉ w := by
  obtain ⟨hd, hb⟩ := h
  obtain ⟨a, b, c, rfl, ha, hgap, hc⟩ := hw
  intro hmem
  rcases List.mem_append.1 hmem with hmem | hmem
  · rcases List.mem_append.1 hmem with hmem | hmem
    · apply hd
      rw [← ha]
      exact List.mem_append_left _ (List.mem_map_of_mem hmem)
    · rw [P.blank_of_gap b hgap d hmem] at hb
      cases hb
  · apply hd
    rw [← hc]
    exact List.mem_append_right _ (List.mem_map_of_mem hmem)

theorem contains_append_cons (hd : P.IsDivider d) :
    Contains P.Covers (u ++ d :: v) ↔ Contains P.Covers u ∨ Contains P.Covers v :=
  Text.contains_append_cons fun _ hw => hd.not_mem hw

theorem contains_cons (hd : P.IsDivider d) :
    Contains P.Covers (d :: v) ↔ Contains P.Covers v := by
  have hnil : ¬ Contains P.Covers [] := by
    rintro ⟨w, ⟨a, b, c, rfl, ha, -, -⟩, h⟩
    have ha' : a = [] := by simp_all
    rw [ha'] at ha
    exact P.first_ne_nil ha.symm
  have h := contains_append_cons (u := []) (v := v) hd
  simpa [hnil] using h

theorem not_blank_of_fold_eq {a : List Char} (ha : fold a = P.first ∨ fold a = P.second) {x : Char}
    (hx : x ∈ a) : isBlank x = false := by
  rcases ha with ha | ha
  · exact not_blank_of_mem_fold ha (fun y hy => P.not_blank y (List.mem_append_left _ hy)) x hx
  · exact not_blank_of_mem_fold ha (fun y hy => P.not_blank y (List.mem_append_right _ hy)) x hx

theorem exists_blank_of_covers (hw : P.Covers w) : ∃ x ∈ w, isBlank x = true := by
  obtain ⟨a, b, c, rfl, -, hgap, -⟩ := hw
  cases b with
  | nil => exact absurd hgap P.gap_ne_nil
  | cons x b => exact ⟨x, by simp, P.blank_of_gap _ hgap x (by simp)⟩

theorem not_contains_of_no_blank (hu : ∀ x ∈ u, isBlank x = false) : ¬ Contains P.Covers u := by
  rintro ⟨w, hw, hwu⟩
  obtain ⟨x, hx, hblank⟩ := exists_blank_of_covers hw
  rw [hu x (hwu.subset hx)] at hblank
  cases hblank

/-- A letter of the phrase that a text lacks keeps the phrase out. -/
theorem not_contains_of_not_mem (hd : d ∈ P.first ++ P.second) (hu : d ∉ fold u) :
    ¬ Contains P.Covers u := by
  rintro ⟨w, ⟨a, b, c, rfl, ha, -, hc⟩, hwu⟩
  apply hu
  obtain ⟨x, y, rfl⟩ := hwu
  rw [← ha, ← hc] at hd
  rcases List.mem_append.1 hd with hd | hd
  · simp [hd]
  · simp [hd]

theorem head_first_not_blank {a : List Char} (ha : fold a = P.first) (t : List Char) :
    ∀ x ∈ (a ++ t).head?, isBlank x = false := by
  cases a with
  | nil => exact absurd ha.symm P.first_ne_nil
  | cons y a =>
    intro x hx
    obtain rfl : y = x := by simpa using hx
    exact not_blank_of_fold_eq (.inl ha) (by simp)

/-- A phrase cannot reach over a blank behind which its second word does not stand. -/
theorem contains_append_blank_cons (hu : ∀ x ∈ u, isBlank x = false) (hd : isBlank d = true)
    (hv : ∀ x ∈ v.head?, isBlank x = false) (hsecond : ¬ P.second <+: fold v) :
    Contains P.Covers (u ++ d :: v) ↔ Contains P.Covers v := by
  have hnotfront : ∀ u : List Char, (∀ x ∈ u, isBlank x = false) → ∀ w, P.Covers w →
      ¬ w <+: u ++ d :: v := by
    rintro u hu _ ⟨a, b, c, rfl, ha, hgap, hc⟩ ⟨y, h⟩
    have hb := P.blank_of_gap b hgap
    have hnotblank : ∀ x ∈ a, isBlank x = false := fun x hx => not_blank_of_fold_eq (.inl ha) hx
    have hgapHead : ∀ x ∈ (b ++ (c ++ y)).head?, isBlank x = true := by
      cases b with
      | nil => exact absurd hgap P.gap_ne_nil
      | cons e b => simpa using hb e (by simp)
    have hwords : a ++ (b ++ (c ++ y)) = u ++ d :: v := by simpa using h
    obtain ⟨-, hrest⟩ := run_unique (p := (!isBlank ·)) (by simpa using hnotblank)
      (by simpa using hgapHead) (by simpa using hu) (by simpa using hd) hwords
    have hsecondHead : ∀ x ∈ (c ++ y).head?, isBlank x = false := by
      cases c with
      | nil => exact absurd hc.symm P.second_ne_nil
      | cons e c => exact forall_mem_head?_cons (not_blank_of_fold_eq (.inr hc) (by simp))
    have hsingle : ∀ x ∈ [d], isBlank x = true := by simpa using hd
    obtain ⟨-, rfl⟩ := run_unique hb hsecondHead hsingle hv hrest
    exact hsecond ⟨fold y, by rw [fold_append, hc]⟩
  constructor
  · rintro ⟨w, hw, h⟩
    refine ⟨w, hw, ?_⟩
    induction u with
    | nil =>
      rcases List.infix_cons_iff.1 h with h | h
      · exact absurd h (hnotfront [] hu w hw)
      · exact h
    | cons x u ih =>
      rcases List.infix_cons_iff.1 h with h | h
      · exact absurd h (hnotfront (x :: u) hu w hw)
      · exact ih (fun y hy => hu y (by simp [hy])) h
  · intro h
    exact h.mono ((List.suffix_cons d v).trans (List.suffix_append u (d :: v))).isInfix

theorem contains_blank_cons (hd : isBlank d = true) :
    Contains P.Covers (d :: v) ↔ Contains P.Covers v := by
  constructor
  · rintro ⟨w, ⟨a, b, c, rfl, ha, hgap, hc⟩, h⟩
    rcases List.infix_cons_iff.1 h with ⟨y, h⟩ | h
    · have hfront : a ++ (b ++ (c ++ y)) = d :: v := by simpa using h
      have hdnot := head_first_not_blank ha (b ++ (c ++ y)) d (by rw [hfront]; rfl)
      rw [hd] at hdnot
      cases hdnot
    · exact ⟨_, ⟨a, b, c, rfl, ha, hgap, hc⟩, h⟩
  · intro h
    exact h.mono (List.suffix_cons d v).isInfix

theorem contains_concat_blank (hd : isBlank d = true) :
    Contains P.Covers (u ++ [d]) ↔ Contains P.Covers u := by
  constructor
  · rintro ⟨w, ⟨a, b, c, rfl, ha, hgap, hc⟩, h⟩
    rcases List.infix_concat_iff.1 h with ⟨y, h⟩ | h
    · rcases List.eq_nil_or_concat c with rfl | ⟨c, e, rfl⟩
      · exact absurd hc.symm P.second_ne_nil
      · have hde : d = e := by
          have hlast := congrArg List.getLast? h
          simpa using hlast.symm
        have hnot := not_blank_of_fold_eq (.inr hc) (x := e) (by simp)
        rw [← hde, hd] at hnot
        cases hnot
    · exact ⟨_, ⟨a, b, c, rfl, ha, hgap, hc⟩, h⟩
  · intro h
    exact h.mono (List.prefix_append u [d]).isInfix

/-- A phrase with one plain space in it is a keyword. -/
theorem occurs_hasKeyword_iff_contains (hgap : ∀ b, P.gap b ↔ b = [' '])
    (hfirst : fold P.first = P.first) (hsecond : fold P.second = P.second) :
    occurs (hasKeyword (P.first ++ ' ' :: P.second)) s = true ↔ Contains P.Covers s := by
  have hk : fold (P.first ++ ' ' :: P.second) = P.first ++ ' ' :: P.second :=
    fold_eq_append_space_iff.2 ⟨P.first, P.second, rfl, hfirst, hsecond⟩
  have hcovers : (fold · = P.first ++ ' ' :: P.second) = P.Covers := by
    funext w
    rw [fold_eq_append_space_iff, eq_iff_iff]
    constructor
    · rintro ⟨a, c, rfl, ha, hc⟩
      exact ⟨a, [' '], c, by simp, ha, (hgap _).2 rfl, hc⟩
    · rintro ⟨a, b, c, rfl, ha, hb, hc⟩
      obtain rfl := (hgap b).1 hb
      exact ⟨a, c, by simp, ha, hc⟩
  rw [occurs_keyword_iff hk, hcovers]

end Phrase

end TableAtlas.Text
