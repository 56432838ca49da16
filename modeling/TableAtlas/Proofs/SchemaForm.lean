import TableAtlas.Proofs.DeclaredTable
import TableAtlas.Proofs.LineReading

/-!
# The form of schemas

Whatever a dump holds, what is read from it has a fixed form. Names are words, a type is a word
with or without arguments, and no text of a column goes over the end of a line. A skip is shown
on one line. The ids of edges, the lists of key columns and the records of the log rely on this.
-/

namespace TableAtlas

open Text

/-- A word, alone or with arguments up to the first closing parenthesis. The word `unknown` stands
where no type is declared. -/
inductive IsTypeText : List Char → Prop
  | unknown : IsTypeText "unknown".toList
  | word {w : List Char} (hw : IsWordRun w) : IsTypeText w
  | arguments {w a : List Char} (hw : IsWordRun w) (hne : a ≠ []) (ha : ')' ∉ a) :
      IsTypeText (w ++ '(' :: a ++ [')'])

structure Column.WellFormed (c : Column) : Prop where
  name : IsWordRun c.name.toList
  not_reserved : upper c.name.toList ∉ Dump.reservedNames
  type : IsTypeText c.type.toList
  type_no_break : ∀ x ∈ c.type.toList, isLineBreak x = false
  comment_no_break : ∀ x ∈ c.comment.toList, isLineBreak x = false
  comment_no_quote : '\'' ∉ c.comment.toList

/-- Columns may share a name, but then they are all keys or none of them is. -/
structure Table.WellFormed (t : Table) : Prop where
  id_eq_name : t.id = t.name
  name : IsWordRun t.name.toList
  comment_no_quote : '\'' ∉ t.comment.toList
  columns : ∀ c ∈ t.columns, c.WellFormed
  key_of_name : ∀ c ∈ t.columns, ∀ d ∈ t.columns, c.name = d.name →
    c.isPrimaryKey = d.isPrimaryKey

structure Skipped.WellFormed (s : Skipped) : Prop where
  length_le : s.excerpt.length ≤ 80
  front : ∀ c ∈ s.excerpt.toList.head?, isBlank c = false
  blank : ∀ c ∈ s.excerpt.toList, isBlank c = true → c = ' '

structure Schema.WellFormed (s : Schema) : Prop where
  tables : ∀ t ∈ s.tables, t.WellFormed
  skipped : ∀ b ∈ s.skipped, b.WellFormed

namespace Dump

variable {keys : List String} {s line : List Char} {c : Column}

/-! ## Columns -/

/-- A type has its form, and one that is declared stands at the front. -/
theorem declaredType_form (s : List Char) :
    IsTypeText (declaredType s) ∧ (declaredType s = "unknown".toList ∨ declaredType s <+: s) := by
  have h := declaresType_declaredType s
  generalize declaredType s = t at h ⊢
  cases h with
  | unknown => exact ⟨.unknown, .inl rfl⟩
  | @arguments w x r hs hw hne hclose =>
    exact ⟨.arguments hw hne hclose, .inr ⟨r, by simp [hs]⟩⟩
  | word hs hw => exact ⟨.word hw, .inr ⟨_, hs.symm⟩⟩

theorem wellFormed_of_columnOfLine? (hline : ∀ x ∈ line, isLineBreak x = false)
    (h : columnOfLine? keys line = some c) : c.WellFormed := by
  obtain ⟨n, r, hname, hreserved, rfl⟩ := columnOfLine?_eq_some h
  have htrim : trim line <:+: line := trimBy_isInfix isBlank line
  have hrest : trim r <:+: line :=
    ((trimBy_isInfix isBlank r).trans (leadingName?_suffix hname).isInfix).trans htrim
  obtain ⟨htype, hplace⟩ := declaredType_form (trim r)
  obtain ⟨hcomment, hquote⟩ := readsQuotation_commentClause?.getD_search?_isInfix (trim line)
  exact {
    name := by simpa using isWordRun_of_leadingName? hname
    not_reserved := by simpa [isReserved] using hreserved
    type := by rwa [String.toList_ofList]
    type_no_break := by
      intro x hx
      rw [String.toList_ofList] at hx
      rcases hplace with hunknown | hfront
      · rw [hunknown] at hx
        revert x
        decide
      · exact hline x ((hfront.isInfix.trans hrest).subset hx)
    comment_no_break := by
      intro x hx
      rw [String.toList_ofList] at hx
      exact hline x ((hcomment.trans htrim).subset hx)
    comment_no_quote := by rwa [String.toList_ofList] }

theorem wellFormed_of_mem_columns {body : List Char} (h : c ∈ columns keys body) :
    c.WellFormed := by
  obtain ⟨line, hline, hc⟩ := List.mem_filterMap.1 h
  exact wellFormed_of_columnOfLine? (isLineBreak_eq_false_of_mem_linesFrom (by simp) hline) hc

theorem isPrimaryKey_of_mem_columns {body : List Char} (h : c ∈ columns keys body) :
    c.isPrimaryKey = keys.contains c.name := by
  obtain ⟨line, -, hc⟩ := List.mem_filterMap.1 h
  obtain ⟨n, r, -, -, rfl⟩ := columnOfLine?_eq_some hc
  rfl

/-! ## Tables -/

theorem tableName?_of_ofStatement {b : Block} (h : Block.ofStatement s = .ok b) :
    tableName? s = some b.name := by
  unfold Block.ofStatement at h
  split at h
  case h_1 => cases h
  case h_2 name hname =>
    split at h
    case h_1 => cases h
    case h_2 =>
      split at h
      case h_1 => cases h
      case h_2 =>
        obtain rfl := Except.ok.inj h
        exact hname

theorem wellFormed_of_ofBlock {b : Block} {t : Table} {ks : List String}
    (hname : IsWordRun b.name) (h : Outcome.ofBlock b = .table t ks) : t.WellFormed := by
  obtain ⟨rfl, -⟩ := Outcome.table.inj h
  exact {
    id_eq_name := rfl
    name := by simpa using hname
    comment_no_quote := by
      rw [String.toList_ofList]
      exact (readsQuotation_commentOption?.getD_search?_isInfix b.trailing).2
    columns := fun c hc => wellFormed_of_mem_columns hc
    key_of_name := by
      intro c hc d hd hcd
      rw [isPrimaryKey_of_mem_columns hc, isPrimaryKey_of_mem_columns hd, hcd] }

/-! ## Skips -/

theorem mem_squeeze {x : Char} (h : x ∈ squeeze s) : isBlank x = false ∨ x = ' ' := by
  rcases mem_intercalate h with ⟨w, hw, hx⟩ | hx
  · exact .inl (isBlank_eq_false_of_mem_wordsFrom (by simp) hw x hx)
  · exact .inr (by simpa using hx)

theorem head_squeeze_not_blank (s : List Char) : ∀ x ∈ (squeeze s).head?, isBlank x = false := by
  unfold squeeze
  cases hwords : words s with
  | nil => simp
  | cons w ws =>
    have hmem : w ∈ words s := by simp [hwords]
    have hne : w ≠ [] := ne_nil_of_mem_wordsFrom hmem
    have hfront : ([' '].intercalate (w :: ws)).head? = w.head? := by
      cases ws with
      | nil => simp
      | cons v vs =>
        rw [List.intercalate_cons_cons, List.append_assoc, List.head?_append_of_ne_nil w hne]
    rw [hfront]
    intro x hx
    exact isBlank_eq_false_of_mem_wordsFrom (by simp) hmem x (List.mem_of_mem_head? hx)

theorem wellFormed_excerpt (reason : SkipReason) (s : List Char) :
    Skipped.WellFormed ⟨reason, String.ofList (excerpt s)⟩ where
  length_le := by
    rw [String.length_ofList, excerpt, List.length_take]
    exact Nat.min_le_left _ _
  front := by
    intro x hx
    rw [String.toList_ofList, excerpt, List.head?_take] at hx
    exact head_squeeze_not_blank s x (by simpa [excerptLength] using hx)
  blank := by
    intro x hx hblank
    rw [String.toList_ofList] at hx
    rcases mem_squeeze (List.mem_of_mem_take hx) with hletter | rfl
    · rw [hletter] at hblank
      cases hblank
    · rfl

/-! ## Schemas -/

theorem Outcome.wellFormed_of_table? {t : Table} (h : (ofStatement s).table? = some t) :
    t.WellFormed := by
  unfold ofStatement at h
  cases hblock : Block.ofStatement s with
  | error reason => simp [hblock, table?] at h
  | ok b =>
    rw [hblock] at h
    have hname := isWordRun_of_tableName? (tableName?_of_ofStatement hblock)
    exact wellFormed_of_ofBlock hname (by rw [← Option.some.inj h]; rfl)

theorem Outcome.wellFormed_of_skipped? {b : Skipped} (h : (ofStatement s).skipped? = some b) :
    b.WellFormed := by
  unfold ofStatement at h
  cases hblock : Block.ofStatement s with
  | ok block => simp [hblock, skipped?, ofBlock] at h
  | error reason =>
    rw [hblock] at h
    obtain rfl := Option.some.inj h
    exact wellFormed_excerpt reason s

/-- The schema of any text is well formed. -/
theorem parse_wellFormed (dump : List Char) : (parse dump).WellFormed where
  tables := by
    intro t ht
    rw [tables_parse, List.mem_filterMap] at ht
    obtain ⟨o, ho, ht⟩ := ht
    obtain ⟨s, -, rfl⟩ := List.mem_map.1 ho
    exact Outcome.wellFormed_of_table? ht
  skipped := by
    intro b hb
    rw [skipped_parse, List.mem_filterMap] at hb
    obtain ⟨o, ho, hb⟩ := hb
    obtain ⟨s, -, rfl⟩ := List.mem_map.1 ho
    exact Outcome.wellFormed_of_skipped? hb

end Dump

end TableAtlas
