import TableAtlas.Proofs.CommentVariant
import TableAtlas.Proofs.Isolation

/-!
# What comments leave unchanged

Harmless texts of comments change nothing but the comments of the columns: not the names, types
and flags of columns, not the names and the order of tables, and not what is skipped and why.
-/

namespace TableAtlas

/-- The column without its comment. -/
def Column.bare (c : Column) : Column := { c with comment := "" }

/-- The table without its comment and those of its columns. -/
def Table.bare (t : Table) : Table := { t with comment := "", columns := t.columns.map Column.bare }

/-- Whether the same tables were found, apart from comments, and as many statements skipped for
the same reasons. -/
@[mk_iff]
structure Schema.SameStructure (s t : Schema) : Prop where
  tables : s.tables.map Table.bare = t.tables.map Table.bare
  reasons : s.skipped.map Skipped.reason = t.skipped.map Skipped.reason

instance (s t : Schema) : Decidable (s.SameStructure t) :=
  decidable_of_iff' _ (Schema.sameStructure_iff s t)

namespace Dump

open Text

variable {u v x y s t : List Char} {d : Char}

/-! ## Column lines -/

theorem isStructural_append_quote (u v : List Char) :
    isStructural (u ++ '\'' :: v) = isStructural u := by
  have hquote : ∀ o ∈ structuralOpenings, '\'' ∉ o := by decide
  rw [Bool.eq_iff_iff, isStructural_iff, isStructural_iff]
  exact exists_congr fun o => and_congr_right fun ho => prefix_append_cons_iff (hquote o ho)

theorem enclosed?_append_quote (hu : ∀ w, u = '(' :: w → ')' ∈ w) (v : List Char) :
    enclosed? '(' ')' (u ++ '\'' :: v) = enclosed? '(' ')' u := by
  ext a
  rw [enclosed?_eq_some_iff, enclosed?_eq_some_iff]
  constructor
  · rintro ⟨r, h, hne, ha⟩
    cases u with
    | nil => exact absurd (List.cons.inj h).1 (by decide)
    | cons c u =>
      obtain ⟨rfl, hrest⟩ := List.cons.inj h
      obtain ⟨r', rfl⟩ := exists_cut_of_append (hu u rfl) ha hrest
      exact ⟨r', rfl, hne, ha⟩
  · rintro ⟨r, rfl, hne, ha⟩
    exact ⟨r ++ '\'' :: v, by simp, hne, ha⟩

theorem declaredType_append_quote (hu : ClosesLists u) (v : List Char) :
    declaredType (u ++ '\'' :: v) = declaredType u := by
  have hquote : isWord '\'' = false := by decide
  simp only [declaredType, takeWhile_append_cons hquote, dropWhile_append_cons hquote]
  obtain ⟨word, rest, rfl, hword, hrest⟩ := exists_run isWord u
  simp only [takeWhile_run hword hrest, dropWhile_run hword hrest]
  rcases List.eq_nil_or_concat word with rfl | ⟨word, c, rfl⟩
  · rfl
  · have harguments : ∀ w, rest = '(' :: w → ')' ∈ w := by
      rintro w rfl
      exact hu word c [] w (by simp) (hword c (by simp)) (by simp)
    rw [enclosed?_append_quote harguments]

theorem contains_trim {P : Phrase} (s : List Char) :
    Contains P.Covers (trim s) ↔ Contains P.Covers s := by
  have hfront : ∀ s : List Char, Contains P.Covers (s.dropWhile isBlank) ↔ Contains P.Covers s := by
    intro s
    induction s with
    | nil => rfl
    | cons c s ih =>
      cases hc : isBlank c with
      | true => rw [List.dropWhile_cons_of_pos hc, ih, Phrase.contains_blank_cons hc]
      | false => rw [List.dropWhile_cons_of_neg (by simp [hc])]
  have hback : ∀ s : List Char,
      Contains P.Covers (s.reverse.dropWhile isBlank).reverse ↔ Contains P.Covers s := by
    intro s
    induction s using List.reverseRecOn with
    | nil => rfl
    | append_singleton s c ih =>
      rw [List.reverse_concat]
      cases hc : isBlank c with
      | true => rw [List.dropWhile_cons_of_pos hc, ih, Phrase.contains_concat_blank hc]
      | false => rw [List.dropWhile_cons_of_neg (by simp [hc])]; simp
  rw [trim, trimBy, hback, hfront]

theorem occurs_notNull_trim (s : List Char) :
    occurs (hasKeyword "NOT NULL".toList) (trim s) = occurs (hasKeyword "NOT NULL".toList) s := by
  rw [Bool.eq_iff_iff, occurs_notNull_iff, occurs_notNull_iff, contains_trim]

/-- Leading blanks apart, a blank ends what stands in front of a comment. -/
theorem EndsInComment.dropWhile_blank (h : EndsInComment u) :
    ∃ w c, u.dropWhile isBlank = w ++ [c] ∧ isBlank c = true := by
  obtain ⟨z, k, b, rfl, hk, hne, hb⟩ := h
  obtain ⟨b, c, rfl⟩ := (List.eq_nil_or_concat b).resolve_left hne
  cases k with
  | nil => cases hk
  | cons e k =>
    have he := not_blank_of_mem_fold hk (by decide) e (by simp)
    refine ⟨z.dropWhile isBlank ++ e :: (k ++ b), c, ?_, (hb c (by simp)).1⟩
    rw [List.cons_append, dropWhile_append_cons he]
    simp

/-- The quote that opens a comment is not taken for one that closes a name. -/
theorem leadingName?_append_quote {w : List Char} {c : Char} (hc : isBlank c = true)
    (v : List Char) :
    leadingName? (w ++ [c] ++ '\'' :: v) =
      (leadingName? (w ++ [c])).map fun r => (r.1, r.2 ++ '\'' :: v) := by
  have hquote : isQuote c = false := by
    by_contra h
    rw [isBlank_of_isQuote (by simpa using h)] at hc
    cases hc
  have hpieces : w ++ [c] ++ '\'' :: v = w ++ c :: '\'' :: v := by simp
  rw [hpieces, leadingName?_append_cons (isWord_of_isBlank hc) hquote,
    leadingName?_append_cons (isWord_of_isBlank hc) hquote, Option.map_map]
  simp [Function.comp_def]

/-- The name and the type that stand in front of a comment. -/
def declaredBefore (u : List Char) : Option (String × String) :=
  if isStructural (u.dropWhile isBlank) then none
  else
    (leadingName? (u.dropWhile isBlank)).bind fun r =>
      if isReserved r.1 then none
      else some (String.ofList r.1, String.ofList (declaredType (r.2.dropWhile isBlank)))

/-- Apart from its comment, a column depends on what stands in front of the comment, and on
whether the words `NOT NULL` stand in its line. -/
theorem bare_columnOfLine?_comment (hu : IsCommentFront u) (keys : List String) (m : List Char) :
    (columnOfLine? keys (u ++ '\'' :: m)).map Column.bare = (declaredBefore u).map fun p => {
      name := p.1, type := p.2, comment := "", isPrimaryKey := keys.contains p.1
      isNullable := !occurs (hasKeyword "NOT NULL".toList) (u ++ '\'' :: m) } := by
  have hblank : isBlank '\'' = false := by decide
  obtain ⟨m', hline⟩ : ∃ m', trim (u ++ '\'' :: m) = u.dropWhile isBlank ++ '\'' :: m' :=
    ⟨_, by rw [trim, trimBy_append_cons hblank]⟩
  have hempty : (trim (u ++ '\'' :: m)).isEmpty = false := by simp [hline]
  have hstructural : isStructural (trim (u ++ '\'' :: m)) = isStructural (u.dropWhile isBlank) := by
    rw [hline, isStructural_append_quote]
  have hname : leadingName? (trim (u ++ '\'' :: m)) =
      (leadingName? (u.dropWhile isBlank)).map fun r => (r.1, r.2 ++ '\'' :: m') := by
    obtain ⟨w, c, hw, hc⟩ := hu.ends.dropWhile_blank
    rw [hline, hw, leadingName?_append_quote hc]
  simp only [columnOfLine?, hempty, hstructural, hname, occurs_notNull_trim, Bool.false_or,
    declaredBefore]
  cases hs : isStructural (u.dropWhile isBlank) with
  | true => rfl
  | false =>
    cases hn : leadingName? (u.dropWhile isBlank) with
    | none => rfl
    | some r =>
      obtain ⟨n, r⟩ := r
      -- The arguments of the type end in front of the comment.
      have hfront : ClosesLists (r.dropWhile isBlank) :=
        hu.closes_lists.of_suffix ((List.dropWhile_suffix _).trans
          ((leadingName?_suffix hn).trans (List.dropWhile_suffix _)))
      have htype : declaredType (trim (r ++ '\'' :: m')) = declaredType (r.dropWhile isBlank) := by
        rw [trim, trimBy_append_cons hblank, declaredType_append_quote hfront]
      cases hreserved : isReserved n <;> simp [hreserved, htype, Column.bare]

theorem ListVariant.map_bare_columnOfLine? (h : ListVariant Harmless s t) (keys : List String) :
    (columnOfLine? keys s).map Column.bare = (columnOfLine? keys t).map Column.bare := by
  have hnull : occurs (hasKeyword "NOT NULL".toList) s =
      occurs (hasKeyword "NOT NULL".toList) t := by
    rw [Bool.eq_iff_iff, occurs_notNull_iff, occurs_notNull_iff, h.contains_notNull_iff]
  cases h with
  | same => rfl
  | comment hu hx hy hok hvariant =>
    rw [append_quotation, append_quotation] at hnull ⊢
    rw [bare_columnOfLine?_comment hu, bare_columnOfLine?_comment hu, hnull]

/-! ## Column lists -/

theorem ListVariant.map_bare_columns (h : ListVariant Harmless s t) (keys : List String) :
    (columns keys s).map Column.bare = (columns keys t).map Column.bare := by
  induction hn : s.length using Nat.strong_induction_on generalizing s t with
  | _ n ih =>
    subst hn
    have hline : ∀ {l l' : List Char}, (∀ x ∈ l, isLineBreak x = false) →
        (∀ x ∈ l', isLineBreak x = false) → ListVariant Harmless l l' →
        (columns keys l).map Column.bare = (columns keys l').map Column.bare := by
      intro l l' hl hl' hvariant
      simp only [columns_line hl, columns_line hl', ← Option.toList_map,
        hvariant.map_bare_columnOfLine? keys]
    rcases h.cut_break with ⟨hs, ht⟩ | ⟨l, c, r, l', r', hc, rfl, rfl, hl, hl', hvariant, hrest⟩
    · exact hline hs ht h
    · have hlength : r.length < (l ++ c :: r).length := by
        simp only [List.length_append, List.length_cons]
        omega
      rw [columns_append_cons hc, columns_append_cons hc, List.map_append, List.map_append,
        hline hl hl' hvariant, ih r.length hlength hrest rfl]

/-! ## Statements -/

/-- Whether two outcomes are tables that are the same apart from comments, or skips for the same
reason. -/
def Outcome.Agree (o o' : Outcome) : Prop :=
  o.table?.map Table.bare = o'.table?.map Table.bare ∧
    o.skipped?.map Skipped.reason = o'.skipped?.map Skipped.reason

theorem ListVariant.agree {p p' : List Char} (h : ListVariant Harmless p p')
    (name q q' : List Char) :
    (Outcome.ofBlock ⟨name, p, q⟩).Agree (Outcome.ofBlock ⟨name, p', q'⟩) := by
  have hcolumns := h.map_bare_columns (keyNames p)
  simp only [Outcome.Agree, Outcome.ofBlock, Outcome.table?, Outcome.skipped?, Option.map_some,
    Table.bare, ← h.keyNames_eq, hcolumns, and_self]

theorem StatementVariant.agree (h : StatementVariant Harmless s t) :
    (Outcome.ofStatement s).Agree (Outcome.ofStatement t) := by
  cases h with
  | same => exact ⟨rfl, rfl⟩
  | @list front s t hparen hfront hvariant =>
    rcases hvariant.cut_close 0 with ⟨e, hs, ht⟩ | ⟨p, q, p', q', rfl, rfl, hp, hp', hlist⟩
    · rw [Outcome.ofStatement, Outcome.ofStatement, ofStatement_of_open hparen hs,
        ofStatement_of_open hparen ht]
      cases tableName? front <;> exact ⟨rfl, rfl⟩
    · rw [Outcome.ofStatement, Outcome.ofStatement, ofStatement_of_closed hparen hp q,
        ofStatement_of_closed hparen hp' q']
      cases tableName? front with
      | none => exact ⟨rfl, rfl⟩
      | some name => exact hlist.agree name q q'

theorem StatementVariant.not_contains_heading (h : StatementVariant Harmless s t) :
    ¬ Contains headingPhrase.Covers s := by
  cases h with
  | same h => exact not_contains_heading_of_occurs h
  | list hparen hfront h =>
    have hopen : headingPhrase.IsDivider '(' := by decide
    rw [Phrase.contains_append_cons hopen]
    rintro (hcontains | hcontains)
    · exact not_contains_heading_of_occurs hfront hcontains
    · exact h.not_contains_heading hcontains

theorem StatementVariant.symm (h : StatementVariant Harmless s t) :
    StatementVariant Harmless t s := by
  cases h with
  | same h => exact .same h
  | list hparen hfront h => exact .list hparen hfront h.symm

/-- A heading and a text without headings are one statement. -/
theorem outcomes_append_heading {w : List Char} (hw : IsHeading w)
    (hs : ¬ Contains headingPhrase.Covers s) (a : List Char) :
    outcomes (a ++ (w ++ s)) = outcomes a ++ [Outcome.ofStatement s] := by
  have hstarts : startsHeading (w ++ s) = true := startsHeading_iff.2 ⟨w, s, hw, rfl⟩
  rw [outcomes_append hstarts, outcomes, outcomes, statements_of_heading hw hs]
  rfl

/-- Harmless texts of column comments leave the structure of a dump as it is: the names, types,
key flags and nullability of the columns, the tables and their order, and the reasons of skips. -/
theorem sameStructure_of_harmless_comments {a b : List Char} (h : DumpVariant Harmless a b) :
    (parse a).SameStructure (parse b) := by
  induction h with
  | preamble => exact ⟨rfl, rfl⟩
  | @statement a b w s t _ hw hst ih =>
    obtain ⟨htable, hreason⟩ := hst.agree
    have ha := outcomes_append_heading hw hst.not_contains_heading a
    have hb := outcomes_append_heading hw hst.symm.not_contains_heading b
    constructor
    · have htables := ih.tables
      rw [tables_parse, tables_parse, List.map_filterMap, List.map_filterMap] at htables ⊢
      rw [ha, hb, List.filterMap_append, List.filterMap_append, htables, List.filterMap_cons,
        List.filterMap_cons, htable]
    · have hreasons := ih.reasons
      rw [skipped_parse, skipped_parse, List.map_filterMap, List.map_filterMap] at hreasons ⊢
      rw [ha, hb, List.filterMap_append, List.filterMap_append, hreasons, List.filterMap_cons,
        List.filterMap_cons, hreason]

/-- What stands in front of the comment in `commentedDump`. -/
def commentFront : List Char := "\n  `k` int COMMENT ".toList

def commentedList (text : List Char) : List Char :=
  commentFront ++ (quotation text ++ ",\n  `m` int\n);\n".toList)

/-- A table with two columns, the first of which has a comment. -/
def commentedDump (text : List Char) : List Char :=
  "CREATE TABLE".toList ++ (" t ".toList ++ '(' :: commentedList text)

theorem dumpVariant_commentedDump {ok : List Char → List Char → List Char → Prop}
    (hx : IsCommentText x) (hy : IsCommentText y) (hok : ok commentFront x y) :
    DumpVariant ok (commentedDump x) (commentedDump y) := by
  have hheading : IsHeading "CREATE TABLE".toList :=
    ⟨"CREATE".toList, [' '], "TABLE".toList, by decide, by decide, by decide, by decide, by decide⟩
  have hfront : IsCommentFront commentFront := by
    refine ⟨⟨"\n  `k` int ".toList, "COMMENT".toList, [' '], by decide, by decide, by decide,
      by decide⟩, ?_, by decide⟩
    intro v c b w h
    have hmem : '(' ∈ commentFront := by simp [h]
    exact absurd hmem (by decide)
  have hlist : ListVariant ok (commentedList x) (commentedList y) :=
    .comment hfront hx hy hok (.same (by decide))
  have hstatement : StatementVariant ok (" t ".toList ++ '(' :: commentedList x)
      (" t ".toList ++ '(' :: commentedList y) := .list (by decide) (by decide) hlist
  have hpreamble : DumpVariant ok [] [] := .preamble (by decide)
  have hdump := DumpVariant.statement hpreamble hheading hstatement
  rwa [List.nil_append, List.nil_append] at hdump

/-- Texts that come close to what is searched for elsewhere. -/
theorem sameStructure_of_harmless_comments_tricky :
    let x := "key (a), not  null, CREATE (TABLE)".toList
    let y := "PRIMARY KEY: not\tnull".toList
    DumpVariant Harmless (commentedDump x) (commentedDump y) ∧
      (parse (commentedDump x)).SameStructure (parse (commentedDump y)) := by
  have hvariant : DumpVariant Harmless
      (commentedDump "key (a), not  null, CREATE (TABLE)".toList)
      (commentedDump "PRIMARY KEY: not\tnull".toList) :=
    dumpVariant_commentedDump (by decide +kernel) (by decide +kernel) (by decide +kernel)
  exact ⟨hvariant, sameStructure_of_harmless_comments hvariant⟩

/-- Whether two texts of the same comment make tables of different structure. -/
def ChangesStructure (x y : List Char) : Prop :=
  DumpVariant (fun _ _ _ => True) (commentedDump x) (commentedDump y) ∧
    ¬ (parse (commentedDump x)).SameStructure (parse (commentedDump y))

/-- Each of the conditions on harmless texts is needed. -/
theorem comment_text_changes_structure :
    ChangesStructure "x".toList "NOT NULL".toList ∧
      ChangesStructure "x".toList "CREATE TABLE u (".toList ∧
      ChangesStructure "x".toList "PRIMARY KEY (m)".toList ∧
      ChangesStructure "x".toList "a)".toList ∧ ChangesStructure "x".toList "(".toList := by
  have hchanges : ∀ {x y : List Char}, IsCommentText x → IsCommentText y →
      ¬ (parse (commentedDump x)).SameStructure (parse (commentedDump y)) → ChangesStructure x y :=
    fun hx hy h => ⟨dumpVariant_commentedDump hx hy trivial, h⟩
  refine ⟨?_, ?_, ?_, ?_, ?_⟩ <;> exact hchanges (by decide) (by decide) (by decide +kernel)

end Dump

end TableAtlas
