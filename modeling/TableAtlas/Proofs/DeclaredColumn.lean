import TableAtlas.Proofs.Declaration
import TableAtlas.Proofs.Phrase

/-!
# Lines that declare a column
-/

namespace TableAtlas.Dump

open Text

/-! ## The phrases that are searched for -/

def headingPhrase : Phrase where
  first := "CREATE".toList
  second := "TABLE".toList
  gap b := b ≠ [] ∧ ∀ x ∈ b, isBlank x = true
  first_ne_nil := by decide
  second_ne_nil := by decide
  gap_ne_nil h := h.1 rfl
  blank_of_gap _ h := h.2
  not_blank := by decide

/-- A phrase with one plain space. -/
def spacedPhrase (first second : List Char) (hfirst : first ≠ []) (hsecond : second ≠ [])
    (h : ∀ x ∈ first ++ second, isBlank x = false) : Phrase where
  first := first
  second := second
  gap b := b = [' ']
  first_ne_nil := hfirst
  second_ne_nil := hsecond
  gap_ne_nil h := by cases h
  blank_of_gap := by
    rintro _ rfl
    decide
  not_blank := h

def notNullPhrase : Phrase :=
  spacedPhrase "NOT".toList "NULL".toList (by decide) (by decide) (by decide)

def primaryKeyPhrase : Phrase :=
  spacedPhrase "PRIMARY".toList "KEY".toList (by decide) (by decide) (by decide)

theorem covers_headingPhrase_iff {w : List Char} : headingPhrase.Covers w ↔ IsHeading w := by
  simp only [Phrase.Covers, IsHeading, headingPhrase, and_assoc]

theorem contains_headingPhrase_iff {s : List Char} :
    Contains headingPhrase.Covers s ↔ Contains IsHeading s := by
  simp only [Contains, covers_headingPhrase_iff]

theorem occurs_startsHeading_iff {s : List Char} :
    occurs startsHeading s = true ↔ Contains headingPhrase.Covers s := by
  rw [contains_headingPhrase_iff]
  exact occurs_iff_contains fun _ => startsHeading_iff

theorem occurs_notNull_iff {s : List Char} :
    occurs (hasKeyword "NOT NULL".toList) s = true ↔ Contains notNullPhrase.Covers s :=
  Phrase.occurs_hasKeyword_iff_contains (P := notNullPhrase) (fun _ => Iff.rfl) (by decide)
    (by decide)

/-! ## Pieces of a line -/

theorem leadingName?_backquoted (w : Word) (s : List Char) :
    leadingName? (backquoted w.chars ++ s) = some (w.chars, s) := by
  have hpieces : backquoted w.chars ++ s = '\x60' :: (w.chars ++ '\x60' :: s) := by
    simp [backquoted]
  rw [hpieces, leadingName?_quoted (by decide) (by decide) w.isWordRun]

/-- The column of a line that has a name at its front and is not left out. -/
theorem columnOfLine?_of_name {keys : List String} {line n r : List Char}
    (hstructural : isStructural (trim line) = false)
    (hname : leadingName? (trim line) = some (n, r)) (hfree : isReserved n = false) :
    columnOfLine? keys line = some {
      name := String.ofList n
      type := String.ofList (declaredType (trim r))
      comment := String.ofList ((search? commentClause? (trim line)).getD [])
      isPrimaryKey := keys.contains (String.ofList n)
      isNullable := !occurs (hasKeyword "NOT NULL".toList) (trim line) } := by
  have hempty : (trim line).isEmpty = false := by
    cases h : trim line with
    | nil => simp [h, leadingName?, dropQuote] at hname
    | cons => rfl
  simp only [columnOfLine?, hempty, hstructural, hname, hfree, Bool.or_self, Bool.false_eq_true,
    ↓reduceIte]

theorem readsQuotation_commentClause? :
    ReadsQuotation (fun w => ∃ k b, w = k ++ b ∧ fold k = "COMMENT".toList ∧ b ≠ [] ∧
      ∀ x ∈ b, isBlank x = true) commentClause? := by
  constructor
  · intro s b
    have hk : fold "COMMENT".toList = "COMMENT".toList := by decide
    simp only [commentClause?, bind, Option.bind_eq_some_iff, afterKeyword?_eq_some_iff_fold hk,
      afterBlanks?_eq_some_iff, enclosed?_eq_some_iff]
    constructor
    · rintro ⟨_, ⟨k, hk, rfl⟩, _, ⟨t, hne, ht, rfl, -⟩, r, rfl, hb, hb'⟩
      exact ⟨k ++ t, r, ⟨k, t, rfl, hk, hne, ht⟩, by simp, hb, hb'⟩
    · rintro ⟨_, r, ⟨k, t, rfl, hk, hne, ht⟩, rfl, hb, hb'⟩
      refine ⟨t ++ '\'' :: (b ++ '\'' :: r), ⟨k, hk, by simp⟩, '\'' :: (b ++ '\'' :: r), ?_, r, rfl,
        hb, hb'⟩
      exact ⟨t, hne, ht, rfl, by simp; decide⟩
  · rintro _ ⟨k, b, rfl, hk, -, hb⟩ hmem
    rcases List.mem_append.1 hmem with hmem | hmem
    · have hfold : foldCase '\'' ∈ fold k := List.mem_map_of_mem hmem
      rw [hk] at hfold
      exact absurd hfold (by decide)
    · exact absurd (hb _ hmem) (by decide)

namespace ColumnDecl

variable {c : ColumnDecl} {P : Phrase}

/-- The characters that part the pieces of a line. -/
def dividers : List Char := ['\x60', '(', ')', '\'']

/-- A line holds a phrase only where one of the free texts does, apart from its own keywords. -/
theorem not_contains_text (hdiv : ∀ d ∈ dividers, P.IsDivider d)
    (hnull : ∀ x ∈ (fold c.nullity.text).head?, isBlank x = false ∧ x ∉ P.second.head?)
    (hwords : ∀ s, fold s = fold c.nullity.text ∨
      fold s = fold c.nullity.text ++ " COMMENT ".toList → ¬ Contains P.Covers s)
    (htexts : ∀ t ∈ c.freeTexts, ¬ Contains P.Covers t) : ¬ Contains P.Covers c.text := by
  have hbackquote := hdiv '\x60' (by simp [dividers])
  have hopen := hdiv '(' (by simp [dividers])
  have hclose := hdiv ')' (by simp [dividers])
  have hquote := hdiv '\'' (by simp [dividers])
  have hspace : isBlank ' ' = true := by decide
  have hword : ∀ w : Word, ¬ Contains P.Covers w.chars := fun w =>
    Phrase.not_contains_of_no_blank fun x hx => w.not_blank hx
  have hclause : ¬ Contains P.Covers (c.nullity.text ++ c.commentPart) := by
    unfold commentPart
    cases hc : c.comment? with
    | none => simpa using hwords _ (.inl rfl)
    | some k =>
      have hpieces : c.nullity.text ++ ' ' :: (k.keyword.text ++ ' ' :: quotation k.text) =
          (c.nullity.text ++ ' ' :: k.keyword.text ++ [' ']) ++ '\'' :: (k.text ++ '\'' :: []) := by
        simp [quotation]
      have hkeyword := k.keyword.fold_text
      simp only [hpieces]
      rw [Phrase.contains_append_cons hquote, Phrase.contains_append_cons hquote]
      rintro (h | h | h)
      · exact hwords _ (.inr (by simp [hkeyword, show foldCase ' ' = ' ' by decide])) h
      · exact htexts k.text (by simp [freeTexts, hc]) h
      · exact Phrase.not_contains_of_no_blank (by simp) h
  have htype : ¬ Contains P.Covers (c.typeText ++ ' ' :: (c.nullity.text ++ c.commentPart)) := by
    unfold typeText
    cases ha : c.arguments? with
    | none =>
      have hfirst : (fold (c.nullity.text ++ c.commentPart)).head? =
          (fold c.nullity.text).head? := by
        rw [fold_append, List.head?_append_of_ne_nil]
        simpa [fold] using c.nullity.text_ne_nil
      have hhead : ∀ x ∈ (c.nullity.text ++ c.commentPart).head?, isBlank x = false :=
        head_not_blank_of_fold fun x hx => (hnull x (hfirst ▸ hx)).1
      have hsecond : ¬ P.second <+: fold (c.nullity.text ++ c.commentPart) := by
        intro h
        obtain ⟨x, l, hx⟩ := List.exists_cons_of_ne_nil P.second_ne_nil
        obtain ⟨z, hz⟩ := hx ▸ h
        have hmem : x ∈ (fold c.nullity.text).head? := by simp [← hfirst, ← hz]
        exact (hnull x hmem).2 (by simp [hx])
      have hnoblank : ∀ x ∈ c.type.chars, isBlank x = false := fun x hx => c.type.not_blank hx
      rwa [Phrase.contains_append_blank_cons hnoblank hspace hhead hsecond]
    | some a =>
      have hpieces : c.type.chars ++ '(' :: a ++ [')'] ++ ' ' :: (c.nullity.text ++ c.commentPart) =
          c.type.chars ++ '(' :: (a ++ ')' :: ' ' :: (c.nullity.text ++ c.commentPart)) := by
        simp
      simp only [hpieces]
      rw [Phrase.contains_append_cons hopen, Phrase.contains_append_cons hclose,
        Phrase.contains_blank_cons hspace]
      rintro (h | h | h)
      · exact hword c.type h
      · exact htexts a (by simp [freeTexts, ha]) h
      · exact hclause h
  have hpieces : c.text = [] ++ '\x60' :: (c.name.chars ++
      '\x60' :: ' ' :: (c.typeText ++ ' ' :: (c.nullity.text ++ c.commentPart))) := by
    simp [text, backquoted]
  rw [hpieces, Phrase.contains_append_cons hbackquote, Phrase.contains_append_cons hbackquote,
    Phrase.contains_blank_cons hspace]
  rintro (h | h | h)
  · exact Phrase.not_contains_of_no_blank (by simp) h
  · exact hword c.name h
  · exact htype h

theorem not_contains_heading (h : c.Unambiguous) : ¬ Contains headingPhrase.Covers c.text := by
  apply not_contains_text
  · decide
  · rw [Nullity.fold_text]
    split <;> decide
  · intro s hs
    apply Phrase.not_contains_of_not_mem (d := 'R') (by decide)
    rw [Nullity.fold_text] at hs
    split at hs <;> rcases hs with hs | hs <;> rw [hs] <;> decide
  · intro t ht
    rw [← occurs_startsHeading_iff, h.no_heading t ht]
    simp

theorem not_contains_notNull (h : c.Unambiguous) (hn : c.nullity.isNullable = true) :
    ¬ Contains notNullPhrase.Covers c.text := by
  have hfold : fold c.nullity.text = "DEFAULT NULL".toList := by
    rw [Nullity.fold_text, if_pos hn]
  apply not_contains_text
  · decide
  · rw [hfold]
    decide
  · intro s hs
    rw [hfold] at hs
    rw [← occurs_notNull_iff, occurs_hasKeyword_iff (by decide)]
    rcases hs with hs | hs <;> rw [hs] <;> decide
  · intro t ht
    rw [← occurs_notNull_iff, h.no_notNull hn t ht]
    simp

/-- The words `NOT NULL` are found in a line exactly if it declares its column so. -/
theorem occurs_notNull (h : c.Unambiguous) {e : List Char} (he : e ∈ lineEnds) :
    occurs (hasKeyword "NOT NULL".toList) (c.text ++ e) = !c.nullity.isNullable := by
  cases hn : c.nullity.isNullable with
  | true =>
    rw [Bool.not_true, ← Bool.not_eq_true, occurs_notNull_iff]
    have htext := not_contains_notNull h hn
    rcases mem_lineEnds_iff.1 he with rfl | rfl
    · simpa using htext
    · rw [Phrase.contains_append_cons (by decide)]
      rintro (h | h)
      · exact htext h
      · exact Phrase.not_contains_of_no_blank (by simp) h
  | false =>
    have hfold : fold c.nullity.text = "NOT NULL".toList := by
      rw [Nullity.fold_text, hn]
      rfl
    rw [Bool.not_false, occurs_hasKeyword_iff (by decide), ← hfold]
    refine ⟨fold (backquoted c.name.chars ++ ' ' :: (c.typeText ++ [' '])),
      fold (c.commentPart ++ e), ?_⟩
    simp [text]

theorem quote_not_mem_typeText (h : c.WellFormed) : '\'' ∉ c.typeText := by
  have htype : '\'' ∉ c.type.chars := c.type.not_mem (by decide)
  unfold typeText
  cases ha : c.arguments? with
  | none => exact htype
  | some a =>
    have harg : '\'' ∉ a := fun hmem => (h.arguments a ha _ hmem).2.2.1 rfl
    simp [htype, harg]

theorem getD_commentClause? (h : c.WellFormed) {e : List Char} (he : e ∈ lineEnds) :
    (search? commentClause? (c.text ++ e)).getD [] = c.commentText := by
  have hfront : '\'' ∉ backquoted c.name.chars ++ ' ' :: (c.typeText ++ ' ' :: c.nullity.text) := by
    have hname : '\'' ∉ c.name.chars := c.name.not_mem (by decide)
    have hnull : '\'' ∉ c.nullity.text := not_mem_of_isPlain c.nullity.isPlain (by decide)
    simp [backquoted, hname, quote_not_mem_typeText h, hnull]
  have hend : '\'' ∉ e := by
    revert e
    decide
  unfold commentText
  cases hc : c.comment? with
  | none =>
    have hfree : '\'' ∉ c.text ++ e := by
      simp only [text, commentPart, hc]
      simpa [hend] using hfront
    rw [readsQuotation_commentClause?.search?_eq_none hfree]
    rfl
  | some k =>
    have hkeyword := k.keyword.fold_text
    have hquote : '\'' ∉ k.text := fun hmem => (h.comment k hc _ hmem).1 rfl
    have hpieces : c.text ++ e = (backquoted c.name.chars ++ ' ' :: (c.typeText ++ ' ' ::
        c.nullity.text) ++ ' ' :: (k.keyword.text ++ [' '])) ++ (quotation k.text ++ e) := by
      simp [text, commentPart, hc]
    rw [hpieces]
    apply readsQuotation_commentClause?.getD_search?
    · refine ⟨backquoted c.name.chars ++ ' ' :: (c.typeText ++ ' ' :: c.nullity.text) ++ [' '],
        k.keyword.text ++ [' '], by simp, k.keyword.text, [' '], rfl, hkeyword, by simp, by decide⟩
    · have hkw := not_mem_of_isPlain k.keyword.isPlain (d := '\'') (by decide)
      simpa [hkw] using hfront
    · exact hquote
    · exact hend

theorem declaredType_typeText (h : c.WellFormed) (s : List Char) :
    declaredType (c.typeText ++ ' ' :: s) = c.typeText := by
  unfold typeText
  cases ha : c.arguments? with
  | none =>
    have hend : ∀ x ∈ (' ' :: s).head?, isWord x = false := forall_mem_head?_cons (by decide)
    simp only [declaredType, takeWhile_run c.type.isWord_of_mem hend,
      dropWhile_run c.type.isWord_of_mem hend]
    have hnone : enclosed? '(' ')' (' ' :: s) = none := rfl
    rw [hnone, if_neg]
    simpa using c.type.ne_nil
  | some a =>
    have hpieces : c.type.chars ++ '(' :: a ++ [')'] ++ ' ' :: s =
        c.type.chars ++ '(' :: (a ++ ')' :: ' ' :: s) := by
      simp
    have hend : ∀ x ∈ ('(' :: (a ++ ')' :: ' ' :: s)).head?, isWord x = false :=
      forall_mem_head?_cons (by decide)
    have harguments : enclosed? '(' ')' ('(' :: (a ++ ')' :: ' ' :: s)) = some a := by
      refine enclosed?_eq_some_iff.2 ⟨' ' :: s, rfl, ?_, ?_⟩
      · rintro rfl
        exact h.arguments_ne_nil ha
      · exact fun hmem => (h.arguments a ha _ hmem).2.1 rfl
    simp only [hpieces, declaredType, takeWhile_run c.type.isWord_of_mem hend,
      dropWhile_run c.type.isWord_of_mem hend, harguments]
    rw [if_neg]
    simpa using c.type.ne_nil

theorem last_not_blank {e : List Char} (he : e ∈ lineEnds) :
    ∀ x ∈ (c.nullity.text ++ (c.commentPart ++ e)).getLast?, isBlank x = false := by
  rcases mem_lineEnds_iff.1 he with rfl | rfl
  · unfold commentPart
    cases hc : c.comment? with
    | none =>
      simp only [List.append_nil]
      apply last_not_blank_of_fold
      rw [Nullity.fold_text]
      split <;> decide
    | some k =>
      have hpieces : c.nullity.text ++ (' ' :: (k.keyword.text ++ ' ' :: quotation k.text) ++ []) =
          (c.nullity.text ++ ' ' :: (k.keyword.text ++ ' ' :: '\'' :: k.text)) ++ ['\''] := by
        simp [quotation]
      simp only [hpieces, List.getLast?_concat]
      decide
  · intro x hx
    obtain rfl : ',' = x := by simpa using hx
    decide

theorem head_typeText_not_blank (c : ColumnDecl) (s : List Char) :
    ∀ x ∈ (c.typeText ++ s).head?, isBlank x = false := by
  have hhead : ∀ t, ∀ x ∈ (c.type.chars ++ t).head?, isBlank x = false := by
    intro t x hx
    rw [List.head?_append_of_ne_nil _ c.type.ne_nil] at hx
    exact c.type.not_blank (List.mem_of_head? hx)
  unfold typeText
  cases c.arguments? with
  | none => exact hhead s
  | some a => simpa using hhead ('(' :: (a ++ ')' :: s))

/-- A line that declares a column is read as that column. -/
theorem columnOfLine?_line (h : c.WellFormed) (hu : c.Unambiguous) {e : List Char}
    (he : e ∈ lineEnds) (keys : List (List Char)) :
    columnOfLine? (keys.map String.ofList) (c.line ++ e) = some (c.column keys) := by
  have hlast := last_not_blank (c := c) he
  have hne : c.nullity.text ++ (c.commentPart ++ e) ≠ [] := by simp [c.nullity.text_ne_nil]
  have hrest : ∀ x ∈ (c.typeText ++ ' ' :: (c.nullity.text ++ (c.commentPart ++ e))).getLast?,
      isBlank x = false := by
    rw [List.getLast?_append_cons, List.getLast?_cons_of_ne_nil hne]
    exact hlast
  have hpieces : c.text ++ e = backquoted c.name.chars ++
      ' ' :: (c.typeText ++ ' ' :: (c.nullity.text ++ (c.commentPart ++ e))) := by
    simp [text]
  have hopening : ∃ t, c.text ++ e = '\x60' :: t := ⟨_, by rw [hpieces]; rfl⟩
  obtain ⟨t, ht⟩ := hopening
  have hline : trim (c.line ++ e) = c.text ++ e := by
    have hindent : c.line ++ e = [' ', ' '] ++ ((c.text ++ e) ++ []) := by simp [line]
    rw [trim, hindent]
    apply trimBy_run
    · decide
    · simp
    · rw [ht]
      exact forall_mem_head?_cons (by decide)
    · rw [hpieces, List.getLast?_append_cons, List.getLast?_cons_of_ne_nil (by simp)]
      exact hrest
    · simp [ht]
  have htype : trim (' ' :: (c.typeText ++ ' ' :: (c.nullity.text ++ (c.commentPart ++ e)))) =
      c.typeText ++ ' ' :: (c.nullity.text ++ (c.commentPart ++ e)) := by
    have hblank : ∀ s : List Char, ' ' :: s = [' '] ++ (s ++ []) := by simp
    rw [trim, hblank]
    apply trimBy_run
    · decide
    · simp
    · exact head_typeText_not_blank c _
    · exact hrest
    · simp
  have hstructural : isStructural (trim (c.line ++ e)) = false := by
    rw [hline, ht]
    rfl
  have hname : leadingName? (trim (c.line ++ e)) = some (c.name.chars,
      ' ' :: (c.typeText ++ ' ' :: (c.nullity.text ++ (c.commentPart ++ e)))) := by
    rw [hline, hpieces, leadingName?_backquoted]
  have hkeys : (keys.map String.ofList).contains (String.ofList c.name.chars) =
      keys.contains c.name.chars := by
    rw [Bool.eq_iff_iff]
    simp [String.ofList_inj]
  rw [columnOfLine?_of_name hstructural hname h.name, hline, htype, declaredType_typeText h,
    getD_commentClause? h he, occurs_notNull hu he, hkeys, Bool.not_not]
  rfl

end ColumnDecl

end TableAtlas.Dump
