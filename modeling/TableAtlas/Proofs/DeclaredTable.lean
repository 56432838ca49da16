import TableAtlas.Dump.Extraction
import TableAtlas.Proofs.DeclaredBody
import TableAtlas.Proofs.StatementCut

/-!
# Statements that declare a table

Behind its heading a statement is cut into the name, the column list and the options. From
these comes the table that was declared.
-/

namespace TableAtlas.Dump

open Text

/-! ## The name -/

theorem afterKeyword?_of_fold {w k : List Char} (hw : fold w = k) (hk : fold k = k)
    (s : List Char) : afterKeyword? k (w ++ s) = some s :=
  (afterKeyword?_eq_some_iff_fold hk).2 ⟨w, hw, rfl⟩

theorem afterBlanks?_space {s : List Char} (hs : ∀ x ∈ s.head?, isBlank x = false) :
    afterBlanks? (' ' :: s) = some s :=
  afterBlanks?_eq_some_iff.2 ⟨[' '], by simp, by decide, rfl, hs⟩

theorem head_not_blank_of_fold_eq {w k : List Char} (hw : fold w = k) (hk : k ≠ [])
    (hblank : ∀ x ∈ k.head?, isBlank x = false) (s : List Char) :
    ∀ x ∈ (w ++ s).head?, isBlank x = false := by
  have hne : w ≠ [] := by
    rintro rfl
    exact hk hw.symm
  rw [List.head?_append_of_ne_nil _ hne]
  apply head_not_blank_of_fold
  rwa [hw]

theorem afterGuard?_written (g : Spelling "IF NOT EXISTS") (w : Word) (s : List Char) :
    afterGuard? (g.text ++ ' ' :: (backquoted w.chars ++ s)) = some (backquoted w.chars ++ s) := by
  have hsplit : "IF NOT EXISTS".toList =
      "IF".toList ++ ' ' :: ("NOT".toList ++ ' ' :: "EXISTS".toList) := by
    decide
  have hfold := g.fold_text
  rw [hsplit] at hfold
  obtain ⟨a, r, hg, ha, hr⟩ := fold_eq_append_space_iff.1 hfold
  obtain ⟨b, c, rfl, hb, hc⟩ := fold_eq_append_space_iff.1 hr
  have hpieces : g.text ++ ' ' :: (backquoted w.chars ++ s) =
      a ++ ' ' :: (b ++ ' ' :: (c ++ ' ' :: (backquoted w.chars ++ s))) := by
    simp [hg]
  have hname : ∀ x ∈ (backquoted w.chars ++ s).head?, isBlank x = false :=
    forall_mem_head?_cons (by decide)
  have hnot := head_not_blank_of_fold_eq hb (by decide) (by decide)
    (' ' :: (c ++ ' ' :: (backquoted w.chars ++ s)))
  have hexists := head_not_blank_of_fold_eq hc (by decide) (by decide)
    (' ' :: (backquoted w.chars ++ s))
  simp only [afterGuard?, hpieces, bind, afterKeyword?_of_fold ha (by decide),
    afterKeyword?_of_fold hb (by decide), afterKeyword?_of_fold hc (by decide),
    afterBlanks?_space hnot, afterBlanks?_space hexists, afterBlanks?_space hname, Option.bind_some]

theorem tableName?_statement (d : TableDecl) : tableName? d.statement = some d.name.chars := by
  have htrim : ∀ t : List Char, (∀ x ∈ t.head?, isBlank x = false) →
      (' ' :: t).dropWhile isBlank = t := fun t ht => dropWhile_run (u := [' ']) (by decide) ht
  have hquote : ∀ t, ∀ x ∈ (backquoted d.name.chars ++ t).head?, isBlank x = false := fun t =>
    forall_mem_head?_cons (by decide)
  unfold TableDecl.statement TableDecl.guardPart
  cases hg : d.guard? with
  | none =>
    have hnone : ∀ t, afterGuard? (backquoted d.name.chars ++ t) = none := fun t => rfl
    rw [List.nil_append, tableName?, htrim _ (hquote _), hnone]
    simp only [Option.bind_none, Option.none_or, leadingName?_backquoted, Option.map_some]
  | some g =>
    have hhead := head_not_blank_of_fold_eq (g.fold_text) (by decide) (by decide)
    have hpieces : ∀ t, g.text ++ [' '] ++ (backquoted d.name.chars ++ t) =
        g.text ++ ' ' :: (backquoted d.name.chars ++ t) := by simp
    simp only [hpieces]
    rw [tableName?, htrim _ (hhead _), afterGuard?_written]
    simp only [Option.bind_some, leadingName?_backquoted, Option.some_or, Option.map_some]

/-! ## The column list -/

theorem isNeutral_body {d : TableDecl} (h : d.WellFormed) (hu : d.Unambiguous) :
    IsNeutral d.body := by
  have hbreak : IsNeutral ['\n'] := isNeutral_of_no_paren (by decide)
  have hitems : IsNeutral ([',', '\n'].intercalate d.items) := by
    apply isNeutral_intercalate (isNeutral_of_no_paren (by decide))
    intro l hl
    rcases mem_items hl with ⟨c, hc, rfl⟩ | ⟨k, rfl⟩ | ⟨i, rfl⟩
    · exact ColumnDecl.isNeutral_line (h.columns c hc) (hu.columns c hc)
    · exact k.isNeutral_line
    · exact i.isNeutral_line
  exact hbreak.append (hitems.append hbreak)

theorem ofStatement_statement {d : TableDecl} (h : d.WellFormed) (hu : d.Unambiguous) :
    Block.ofStatement d.statement = .ok ⟨d.name.chars, d.body, d.options⟩ := by
  have hguard : '(' ∉ d.guardPart := by
    unfold TableDecl.guardPart
    cases d.guard? with
    | none => simp
    | some g =>
      have hg := not_mem_of_isPlain g.isPlain (d := '(') (by decide)
      simp [hg]
  have hname : '(' ∉ d.name.chars := d.name.not_mem (by decide)
  obtain ⟨u, hu'⟩ : ∃ u, u = ' ' :: (d.guardPart ++ (backquoted d.name.chars ++ [' '])) := ⟨_, rfl⟩
  have hfront : '(' ∉ u := by
    rw [hu']
    simp [backquoted, hguard, hname]
  have hpieces : d.statement = u ++ '(' :: (d.body ++ ')' :: d.options) := by
    rw [hu']
    simp [TableDecl.statement]
  rw [hpieces]
  exact ofStatement_of_neutral hfront (isNeutral_body h hu) (hpieces ▸ tableName?_statement d)

/-! ## The options -/

theorem readsQuotation_commentOption? :
    ReadsQuotation (fun w => ∃ k b b', w = k ++ b ++ '=' :: b' ∧ fold k = "COMMENT".toList ∧
      (∀ x ∈ b, isBlank x = true) ∧ ∀ x ∈ b', isBlank x = true) commentOption? := by
  constructor
  · intro s a
    have hk : fold "COMMENT".toList = "COMMENT".toList := by decide
    simp only [commentOption?, bind, Option.bind_eq_some_iff, afterKeyword?_eq_some_iff_fold hk,
      afterChar?_eq_some_iff, enclosed?_eq_some_iff,
      dropWhile_blank_eq_cons_iff (d := '=') (by decide),
      dropWhile_blank_eq_cons_iff (d := '\'') (by decide)]
    constructor
    · rintro ⟨_, ⟨k, hk, rfl⟩, _, ⟨b, hb, rfl⟩, r, ⟨b', hb', rfl⟩, hne, ha⟩
      exact ⟨k ++ b ++ '=' :: b', r, ⟨k, b, b', rfl, hk, hb, hb'⟩, by simp, hne, ha⟩
    · rintro ⟨_, r, ⟨k, b, b', rfl, hk, hb, hb'⟩, rfl, hne, ha⟩
      refine ⟨b ++ '=' :: (b' ++ '\'' :: (a ++ '\'' :: r)), ⟨k, hk, by simp⟩,
        b' ++ '\'' :: (a ++ '\'' :: r), ⟨b, hb, rfl⟩, r, ⟨b', hb', rfl⟩, hne, ha⟩
  · rintro _ ⟨k, b, b', rfl, hk, hb, hb'⟩ hmem
    simp only [List.mem_append, List.mem_cons] at hmem
    rcases hmem with (hmem | hmem) | hmem | hmem
    · have hfold : foldCase '\'' ∈ fold k := List.mem_map_of_mem hmem
      rw [hk] at hfold
      exact absurd hfold (by decide)
    · exact absurd (hb _ hmem) (by decide)
    · exact absurd hmem (by decide)
    · exact absurd (hb' _ hmem) (by decide)

theorem tableComment_options {d : TableDecl} (h : d.WellFormed) :
    tableComment d.options = d.commentText := by
  have hengine := not_mem_of_isPlain d.engine.isPlain (d := '\'') (by decide)
  unfold tableComment TableDecl.options TableDecl.commentText
  cases hc : d.comment? with
  | none =>
    have hfree : '\'' ∉ ' ' :: (d.engine.text ++ [';', '\n']) := by simp [hengine]
    simp only [readsQuotation_commentOption?.search?_eq_none hfree]
    rfl
  | some k =>
    have hkeyword := not_mem_of_isPlain k.keyword.isPlain (d := '\'') (by decide)
    have hpieces : ' ' :: (d.engine.text ++ ' ' :: (k.keyword.text ++ ' ' :: '=' :: ' ' ::
        (quotation k.text ++ [';', '\n']))) = (' ' :: (d.engine.text ++ [' ']) ++
          (k.keyword.text ++ [' '] ++ '=' :: [' '])) ++ (quotation k.text ++ [';', '\n']) := by
      simp
    simp only [hpieces]
    apply readsQuotation_commentOption?.getD_search?
    · exact ⟨_, _, rfl, k.keyword.text, [' '], [' '], rfl, k.keyword.fold_text,
        by decide, by decide⟩
    · simp [hengine, hkeyword]
    · exact h.comment k hc
    · decide

/-! ## No heading inside -/

theorem Spelling.not_contains {k : String} [IsKeyword k] (s : Spelling k) {P : Phrase} {d : Char}
    {u v : List Char} (hd : d ∈ P.first ++ P.second) (hlack : d ∉ fold u ++ k.toList ++ fold v) :
    ¬ Contains P.Covers (u ++ s.text ++ v) := by
  apply Phrase.not_contains_of_not_mem hd
  simpa [s.fold_text] using hlack

theorem not_contains_heading_options {d : TableDecl} (hu : d.Unambiguous) :
    ¬ Contains headingPhrase.Covers d.options := by
  unfold TableDecl.options
  cases hc : d.comment? with
  | none =>
    exact d.engine.not_contains (d := 'R') (u := [' ']) (by decide) (by decide)
  | some k =>
    have hpieces : ' ' :: (d.engine.text ++ ' ' :: (k.keyword.text ++ ' ' :: '=' :: ' ' ::
        (quotation k.text ++ [';', '\n']))) = ([' '] ++ d.engine.text ++ (' ' :: (k.keyword.text ++
          [' ', '=', ' ']))) ++ '\'' :: (k.text ++ '\'' :: [';', '\n']) := by
      simp [quotation]
    have hlack : 'R' ∉ fold [' '] ++ "ENGINE = INNODB".toList ++
        fold (' ' :: (k.keyword.text ++ [' ', '=', ' '])) := by
      simp only [fold_cons, fold_append, k.keyword.fold_text]
      decide
    have hquote : headingPhrase.IsDivider '\'' := by decide
    simp only [hpieces]
    rw [Phrase.contains_append_cons hquote, Phrase.contains_append_cons hquote]
    rintro (h | h | h)
    · exact d.engine.not_contains (by decide) hlack h
    · rw [← occurs_startsHeading_iff, hu.comment k hc] at h
      cases h
    · exact Phrase.not_contains_of_not_mem (d := 'R') (by decide) (by decide) h

theorem not_contains_heading_body {d : TableDecl} (hu : d.Unambiguous) :
    ¬ Contains headingPhrase.Covers d.body := by
  apply not_contains_items
  · exact fun w hw => Phrase.IsDivider.not_mem (by decide) hw
  · exact fun v => (Phrase.contains_blank_cons (by decide)).1
  · exact fun u => (Phrase.contains_concat_blank (by decide)).1
  · exact Phrase.not_contains_of_no_blank (by simp)
  · intro l hl
    rcases mem_items hl with ⟨c, hc, rfl⟩ | ⟨k, rfl⟩ | ⟨i, rfl⟩
    · rw [ColumnDecl.line, Phrase.contains_blank_cons (by decide),
        Phrase.contains_blank_cons (by decide)]
      exact ColumnDecl.not_contains_heading (hu.columns c hc)
    · apply k.not_contains_line (d := 'C')
      all_goals decide
    · apply i.not_contains_line (d := 'C')
      all_goals decide

theorem not_contains_heading_statement {d : TableDecl} (hu : d.Unambiguous) :
    ¬ Contains headingPhrase.Covers d.statement := by
  have hguard : ¬ Contains headingPhrase.Covers d.guardPart := by
    unfold TableDecl.guardPart
    cases d.guard? with
    | none => exact Phrase.not_contains_of_no_blank (by simp)
    | some g =>
      exact g.not_contains (d := 'C') (u := []) (by decide) (by decide)
  have hpieces : d.statement = ' ' :: (d.guardPart ++ '\x60' :: (d.name.chars ++ '\x60' ::
      ([' '] ++ '(' :: (d.body ++ ')' :: d.options)))) := by
    simp [TableDecl.statement, backquoted]
  have hbackquote : headingPhrase.IsDivider '\x60' := by decide
  have hopen : headingPhrase.IsDivider '(' := by decide
  have hclose : headingPhrase.IsDivider ')' := by decide
  rw [hpieces, Phrase.contains_blank_cons (by decide), Phrase.contains_append_cons hbackquote,
    Phrase.contains_append_cons hbackquote, Phrase.contains_append_cons hopen,
    Phrase.contains_append_cons hclose]
  rintro (h | h | h | h | h)
  · exact hguard h
  · exact Phrase.not_contains_of_no_blank (fun x hx => d.name.not_blank hx) h
  · exact Phrase.not_contains_of_not_mem (d := 'C') (by decide) (by decide) h
  · exact not_contains_heading_body hu h
  · exact not_contains_heading_options hu h

end TableAtlas.Dump
