import TableAtlas.Proofs.DeclaredKey

/-!
# Where key lists open

The search for the key list goes through all columns before it comes to the key line. It
passes over them because no list is opened there: the arguments of a type are in parentheses
that hold no others, and a comment that opens a list is excluded.
-/

namespace TableAtlas.Dump

open Text

/-- The words `PRIMARY KEY` with an opening parenthesis behind them. -/
def IsKeyOpening (w : List Char) : Prop :=
  ∃ k b, w = k ++ b ++ ['('] ∧ fold k = "PRIMARY KEY".toList ∧ ∀ x ∈ b, isBlank x = true

variable {u v s : List Char} {d : Char}

theorem opensKeyList_iff : opensKeyList s = true ↔ ∃ w r, IsKeyOpening w ∧ s = w ++ r := by
  have hk : fold "PRIMARY KEY".toList = "PRIMARY KEY".toList := by decide
  have hopen : opensKeyList s = true ↔ ∃ t r, afterKeyword? "PRIMARY KEY".toList s = some t ∧
      t.dropWhile isBlank = '(' :: r := by
    unfold opensKeyList
    cases h : afterKeyword? "PRIMARY KEY".toList s with
    | none => simp
    | some t => simp [Option.isSome_iff_exists, afterChar?_eq_some_iff]
  simp only [hopen, afterKeyword?_eq_some_iff_fold hk,
    dropWhile_blank_eq_cons_iff (d := '(') (by decide)]
  constructor
  · rintro ⟨_, r, ⟨k, hk, rfl⟩, b, hb, rfl⟩
    exact ⟨k ++ b ++ ['('], r, ⟨k, b, rfl, hk, hb⟩, by simp⟩
  · rintro ⟨_, r, ⟨k, b, rfl, hk, hb⟩, rfl⟩
    exact ⟨b ++ '(' :: r, r, ⟨k, hk, by simp⟩, b, hb, rfl⟩

theorem occurs_opensKeyList_iff : occurs opensKeyList s = true ↔ Contains IsKeyOpening s :=
  occurs_iff_contains fun _ => opensKeyList_iff

theorem keyList?_eq_some_iff {list : List Char} :
    keyList? s = some list ↔
      ∃ w r, IsKeyOpening w ∧ s = w ++ (list ++ ')' :: r) ∧ list ≠ [] ∧ ')' ∉ list := by
  have hk : fold "PRIMARY KEY".toList = "PRIMARY KEY".toList := by decide
  simp only [keyList?, bind, Option.bind_eq_some_iff, afterKeyword?_eq_some_iff_fold hk,
    enclosed?_eq_some_iff, dropWhile_blank_eq_cons_iff (d := '(') (by decide)]
  constructor
  · rintro ⟨_, ⟨k, hk, rfl⟩, r, ⟨b, hb, rfl⟩, hne, hlist⟩
    exact ⟨k ++ b ++ ['('], r, ⟨k, b, rfl, hk, hb⟩, by simp, hne, hlist⟩
  · rintro ⟨_, r, ⟨k, b, rfl, hk, hb⟩, rfl, hne, hlist⟩
    exact ⟨b ++ '(' :: (list ++ ')' :: r), ⟨k, hk, by simp⟩, r, ⟨b, hb, rfl⟩, hne, hlist⟩

theorem covers_primaryKeyPhrase {k : List Char} (hk : fold k = "PRIMARY KEY".toList) :
    primaryKeyPhrase.Covers k := by
  have hsplit : "PRIMARY KEY".toList = "PRIMARY".toList ++ ' ' :: "KEY".toList := by decide
  rw [hsplit] at hk
  obtain ⟨a, c, rfl, ha, hc⟩ := fold_eq_append_space_iff.1 hk
  exact ⟨a, [' '], c, by simp, ha, rfl, hc⟩

theorem IsKeyOpening.contains_phrase {w : List Char} (h : IsKeyOpening w) :
    Contains primaryKeyPhrase.Covers w := by
  obtain ⟨k, b, rfl, hk, -⟩ := h
  exact ⟨k, covers_primaryKeyPhrase hk, [], b ++ ['('], by simp⟩

theorem contains_phrase_of_keyOpening (h : Contains IsKeyOpening s) :
    Contains primaryKeyPhrase.Covers s := by
  obtain ⟨w, hw, hws⟩ := h
  exact hw.contains_phrase.mono hws

theorem paren_mem_of_keyOpening (h : Contains IsKeyOpening s) : '(' ∈ s := by
  obtain ⟨_, ⟨k, b, rfl, -, -⟩, hws⟩ := h
  exact hws.subset (by simp)

theorem not_mem_words {k b : List Char} (hk : fold k = "PRIMARY KEY".toList)
    (hb : ∀ x ∈ b, isBlank x = true) (hd : foldCase d ∉ "PRIMARY KEY".toList)
    (hblank : isBlank d = false) : d ∉ k ++ b := by
  intro hmem
  rcases List.mem_append.1 hmem with hmem | hmem
  · rw [← hk] at hd
    exact hd (List.mem_map_of_mem hmem)
  · rw [hb d hmem] at hblank
    cases hblank

theorem not_mem_keyOpening (hd : foldCase d ∉ "PRIMARY KEY".toList) (hb : isBlank d = false)
    (hp : d ≠ '(') : ∀ w, IsKeyOpening w → d ∉ w := by
  rintro _ ⟨k, b, rfl, hk, hblank⟩ hmem
  rcases List.mem_append.1 hmem with hmem | hmem
  · exact not_mem_words hk hblank hd hb hmem
  · exact hp (by simpa using hmem)

/-- Words open a list at their first parenthesis. -/
theorem IsKeyOpening.exists_front {w : List Char} (h : IsKeyOpening w) :
    ∃ f, w = f ++ ['('] ∧ '(' ∉ f := by
  obtain ⟨k, b, rfl, hk, hb⟩ := h
  exact ⟨k ++ b, rfl, not_mem_words hk hb (by decide) (by decide)⟩

theorem IsKeyOpening.head {w : List Char} (h : IsKeyOpening w) :
    ∃ x xs, w = x :: xs ∧ foldCase x = 'P' := by
  obtain ⟨k, b, rfl, hk, -⟩ := h
  cases k with
  | nil => simp at hk
  | cons x k => exact ⟨x, k ++ b ++ ['('], rfl, (List.cons.inj hk).1⟩

theorem contains_keyOpening_of_cons (hd : foldCase d ≠ 'P') (h : Contains IsKeyOpening (d :: v)) :
    Contains IsKeyOpening v := by
  obtain ⟨w, hw, hwd⟩ := h
  rcases List.infix_cons_iff.1 hwd with ⟨y, hy⟩ | hwv
  · obtain ⟨x, xs, rfl, hx⟩ := hw.head
    obtain ⟨rfl, -⟩ := List.cons.inj hy
    exact absurd hx hd
  · exact ⟨w, hw, hwv⟩

theorem contains_keyOpening_of_append (hv : '(' ∉ v) (h : Contains IsKeyOpening (u ++ v)) :
    Contains IsKeyOpening u := by
  obtain ⟨w, hw, x, y, hwords⟩ := h
  obtain ⟨f, rfl, -⟩ := hw.exists_front
  have hparen : (x ++ f) ++ '(' :: y = u ++ v := by simpa using hwords
  obtain ⟨a, rfl, -⟩ := exists_front_of_not_mem hv hparen
  exact ⟨f ++ ['('], hw, x, a, by simp⟩

theorem keyList?_eq_none (h : ∀ w r, IsKeyOpening w → s ≠ w ++ r) : keyList? s = none := by
  by_contra hsome
  obtain ⟨list, hlist⟩ := Option.ne_none_iff_exists'.1 hsome
  obtain ⟨w, r, hw, hs, -, -⟩ := keyList?_eq_some_iff.1 hlist
  exact h w _ hw hs

theorem search?_keyList?_cons (hd : foldCase d ≠ 'P') (v : List Char) :
    search? keyList? (d :: v) = search? keyList? v := by
  have hnone : keyList? (d :: v) = none := by
    apply keyList?_eq_none
    intro w r hw hs
    obtain ⟨x, xs, rfl, hx⟩ := hw.head
    obtain ⟨rfl, -⟩ := List.cons.inj hs
    exact hd hx
  rw [search?, hnone, Option.none_or]

/-- The search passes over a text in which no list opens, up to a character that is in no
opening. -/
theorem search?_keyList?_append (hu : ¬ Contains IsKeyOpening u)
    (hd : ∀ w, IsKeyOpening w → d ∉ w) (v : List Char) :
    search? keyList? (u ++ d :: v) = search? keyList? (d :: v) := by
  induction u with
  | nil => rfl
  | cons c u ih =>
    have hrest : ¬ Contains IsKeyOpening u := fun h => hu (h.mono (List.suffix_cons c u).isInfix)
    have hnone : keyList? (c :: (u ++ d :: v)) = none := by
      apply keyList?_eq_none
      intro w r hw hs
      rw [← List.cons_append] at hs
      rcases List.append_eq_append_iff.1 hs.symm with ⟨t, ht, -⟩ | ⟨t, ht, hrest⟩
      · exact hu ⟨w, hw, [], t, by simp [ht]⟩
      · cases t with
        | nil => exact hu ⟨w, hw, by simp [ht]⟩
        | cons e t =>
          obtain ⟨rfl, -⟩ := List.cons.inj hrest
          exact hd w hw (by simp [ht])
    rw [List.cons_append, search?, hnone, Option.none_or, ih hrest]

theorem search?_keyList?_eq_none (h : ¬ Contains IsKeyOpening s) : search? keyList? s = none := by
  rw [search?_eq_none_iff]
  rintro x v rfl
  apply keyList?_eq_none
  rintro w r hw rfl
  exact h ⟨w, hw, x, r, by simp⟩

/-- A list that opens at the last parenthesis has its words before it. -/
theorem contains_phrase_of_paren (hv : '(' ∉ v) (h : Contains IsKeyOpening (u ++ '(' :: v)) :
    Contains primaryKeyPhrase.Covers u := by
  obtain ⟨_, ⟨k, b, rfl, hk, hb⟩, x, y, hxy⟩ := h
  have hkinside : ∀ t, Contains primaryKeyPhrase.Covers (x ++ (k ++ b) ++ t) := fun t =>
    ⟨k, covers_primaryKeyPhrase hk, x, b ++ t, by simp⟩
  have hxy' : (x ++ (k ++ b)) ++ '(' :: y = u ++ '(' :: v := by simpa using hxy
  rcases List.append_eq_append_iff.1 hxy' with ⟨t, rfl, -⟩ | ⟨t, ht, hrest⟩
  · exact hkinside t
  · cases t with
    | nil =>
      rw [List.append_nil] at ht
      rw [← ht]
      simpa using hkinside []
    | cons e t =>
      obtain ⟨-, rfl⟩ := List.cons.inj hrest
      simp at hv

/-- No list opens in a column, though its arguments and its comment have parentheses. -/
theorem ColumnDecl.not_contains_keyOpening {c : ColumnDecl} (h : c.WellFormed)
    (hu : c.Unambiguous) : ¬ Contains IsKeyOpening c.text := by
  have hdivide : ∀ d ∈ ['\x60', ')', '\''], ∀ u v, Contains IsKeyOpening (u ++ d :: v) ↔
      Contains IsKeyOpening u ∨ Contains IsKeyOpening v := by
    intro d hd u v
    apply contains_append_cons
    apply not_mem_keyOpening
    all_goals revert d; decide
  have hfree : ∀ {t : List Char}, '(' ∉ t → ¬ Contains IsKeyOpening t := fun ht hopen =>
    ht (paren_mem_of_keyOpening hopen)
  have hname : '(' ∉ c.name.chars := c.name.not_mem (by decide)
  have htype : '(' ∉ c.type.chars := c.type.not_mem (by decide)
  have hnull : '(' ∉ c.nullity.text := not_mem_of_isPlain c.nullity.isPlain (by decide)
  have hwords :
      ¬ Contains primaryKeyPhrase.Covers (backquoted c.name.chars ++ ' ' :: c.type.chars) := by
    have hpieces : backquoted c.name.chars ++ ' ' :: c.type.chars =
        '\x60' :: (c.name.chars ++ '\x60' :: ' ' :: c.type.chars) := by
      simp [backquoted]
    rw [hpieces, Phrase.contains_cons (by decide),
      Phrase.contains_append_cons (by decide), Phrase.contains_blank_cons (by decide)]
    rintro (hphrase | hphrase)
    · exact Phrase.not_contains_of_no_blank (fun x hx => c.name.not_blank hx) hphrase
    · exact Phrase.not_contains_of_no_blank (fun x hx => c.type.not_blank hx) hphrase
  have hfront : ∀ t, '(' ∉ t →
      ¬ Contains IsKeyOpening (backquoted c.name.chars ++ ' ' :: (c.typeText ++ ' ' :: t)) := by
    intro t ht
    unfold typeText
    cases ha : c.arguments? with
    | none =>
      apply hfree
      simp [backquoted, hname, htype, ht]
    | some a =>
      have hargument : '(' ∉ a := fun hmem => (h.arguments a ha _ hmem).1 rfl
      have hpieces :
          backquoted c.name.chars ++ ' ' :: (c.type.chars ++ '(' :: a ++ [')'] ++ ' ' :: t) =
          (backquoted c.name.chars ++ ' ' :: (c.type.chars ++ '(' :: a)) ++ ')' :: ' ' :: t := by
        simp
      simp only [hpieces]
      rw [hdivide ')' (by decide)]
      rintro (hopen | hopen)
      · have hassoc : backquoted c.name.chars ++ ' ' :: (c.type.chars ++ '(' :: a) =
            (backquoted c.name.chars ++ ' ' :: c.type.chars) ++ '(' :: a := by
          simp
        rw [hassoc] at hopen
        exact hwords (contains_phrase_of_paren hargument hopen)
      · exact hfree (by simp [ht]) hopen
  unfold text commentPart
  cases hc : c.comment? with
  | none => simpa using hfront c.nullity.text hnull
  | some k =>
    have hkeyword := not_mem_of_isPlain k.keyword.isPlain (d := '(') (by decide)
    have hpieces : backquoted c.name.chars ++ ' ' :: (c.typeText ++ ' ' :: (c.nullity.text ++
        ' ' :: (k.keyword.text ++ ' ' :: quotation k.text))) =
        (backquoted c.name.chars ++ ' ' :: (c.typeText ++ ' ' :: (c.nullity.text ++
          ' ' :: (k.keyword.text ++ [' '])))) ++ '\'' :: (k.text ++ '\'' :: []) := by
      simp [quotation]
    simp only [hpieces]
    rw [hdivide '\'' (by decide), hdivide '\'' (by decide)]
    rintro (hopen | hopen | hopen)
    · exact hfront _ (by simp [hnull, hkeyword]) hopen
    · rw [← occurs_opensKeyList_iff, hu.no_keyList k hc] at hopen
      cases hopen
    · exact hfree (by simp) hopen

theorem IndexClause.not_contains_keyOpening (i : IndexClause) : ¬ Contains IsKeyOpening i.line := by
  intro h
  refine i.not_contains_line (P := primaryKeyPhrase) (d := 'P') ?_ ?_ ?_ ?_ ?_
    (contains_phrase_of_keyOpening h)
  all_goals decide

end TableAtlas.Dump
