import TableAtlas.Proofs.KeyOpening
import TableAtlas.Proofs.LineSeam

/-!
# Column lists

A column list is read line by line, and once more as a whole for its key list. Both find what
was declared: each column on its line and the key names in the key line.
-/

namespace TableAtlas.Dump

open Text

/-- Items are read as they stand, whether or not a comma ends their line. -/
theorem columns_intercalate {keys : List String} {items : List (List Char)}
    (hbreak : ∀ l ∈ items, ∀ x ∈ l, isLineBreak x = false)
    (hcomma : ∀ l ∈ items, columnOfLine? keys (l ++ [',']) = columnOfLine? keys l) :
    columns keys ([',', '\n'].intercalate items ++ ['\n']) =
      items.filterMap (columnOfLine? keys) := by
  rw [columns_append_breaks (by decide)]
  induction items with
  | nil => rfl
  | cons l ls ih =>
    have hl := hbreak l (by simp)
    have hls := ih (fun x hx => hbreak x (by simp [hx])) (fun x hx => hcomma x (by simp [hx]))
    have hread : (l :: ls).filterMap (columnOfLine? keys) =
        (columnOfLine? keys l).toList ++ ls.filterMap (columnOfLine? keys) := by
      cases h : columnOfLine? keys l <;> simp [h]
    rw [hread]
    cases ls with
    | nil => rw [List.intercalate_singleton, columns_line hl, List.filterMap_nil, List.append_nil]
    | cons m ms =>
      have hpieces : [',', '\n'].intercalate (l :: m :: ms) =
          (l ++ [',']) ++ '\n' :: [',', '\n'].intercalate (m :: ms) := by
        simp
      have hl' : ∀ x ∈ l ++ [','], isLineBreak x = false := by
        intro x hx
        rcases List.mem_append.1 hx with hx | hx
        · exact hl x hx
        · obtain rfl : x = ',' := by simpa using hx
          decide
      rw [hpieces, columns_append_cons (by decide), columns_line hl', hcomma l (by simp), hls]

theorem ColumnDecl.not_lineBreak {c : ColumnDecl} (h : c.WellFormed) :
    ∀ x ∈ c.line, isLineBreak x = false := by
  have hdivider : ∀ y ∈ [' ', '\x60', '(', ')', '\''], isLineBreak y = false := by decide
  have htype : ∀ x ∈ c.typeText, isLineBreak x = false := by
    unfold typeText
    cases ha : c.arguments? with
    | none => exact not_lineBreak_of_isPlain c.type.isPlain
    | some a =>
      intro x hx
      simp only [List.mem_append, List.mem_cons, List.not_mem_nil, or_false] at hx
      rcases hx with (hx | rfl | hx) | rfl
      · exact not_lineBreak_of_isPlain c.type.isPlain x hx
      · decide
      · exact (h.arguments a ha x hx).2.2.2
      · decide
  have hcomment : ∀ x ∈ c.commentPart, isLineBreak x = false := by
    unfold commentPart
    cases hc : c.comment? with
    | none => simp
    | some k =>
      intro x hx
      simp only [quotation, List.mem_append, List.mem_cons, List.not_mem_nil, or_false] at hx
      rcases hx with rfl | hx | rfl | rfl | hx | rfl
      · decide
      · exact not_lineBreak_of_isPlain k.keyword.isPlain x hx
      · decide
      · decide
      · exact (h.comment k hc x hx).2
      · decide
  intro x hx
  simp only [line, text, backquoted, List.mem_append, List.mem_cons, List.not_mem_nil,
    or_false] at hx
  rcases hx with rfl | rfl | (rfl | hx | rfl) | rfl | hx | rfl | hx | hx
  any_goals decide
  · exact not_lineBreak_of_isPlain c.name.isPlain x hx
  · exact htype x hx
  · exact not_lineBreak_of_isPlain c.nullity.isPlain x hx
  · exact hcomment x hx

theorem KeyClause.not_lineBreak (k : KeyClause) : ∀ x ∈ k.line, isLineBreak x = false := by
  have hseparator : ∀ y ∈ [',', ' ', '\x60'], isLineBreak y = false := by decide
  intro x hx
  simp only [line, List.mem_append, List.mem_cons] at hx
  rcases hx with rfl | rfl | hx | rfl | rfl | hx | rfl | rfl | hx
  any_goals decide
  · exact not_lineBreak_of_isPlain k.keyword.isPlain x hx
  · rcases mem_nameList hx with h | ⟨w, -, h⟩
    · exact hseparator x h
    · exact not_lineBreak_of_isPlain w.isPlain x h
  · exact not_lineBreak_of_isPlain k.method.isPlain x hx

theorem IndexClause.not_lineBreak (i : IndexClause) : ∀ x ∈ i.line, isLineBreak x = false := by
  intro x hx
  simp only [line, backquoted, List.mem_append, List.mem_cons, List.not_mem_nil, or_false] at hx
  rcases hx with rfl | rfl | hx | rfl | (rfl | hx | rfl) | rfl | (rfl | hx | rfl) | rfl | rfl | hx
  any_goals decide
  · exact not_lineBreak_of_isPlain i.keyword.isPlain x hx
  · exact not_lineBreak_of_isPlain i.name.isPlain x hx
  · exact not_lineBreak_of_isPlain i.column.isPlain x hx
  · exact not_lineBreak_of_isPlain i.method.isPlain x hx

theorem mem_items {d : TableDecl} {l : List Char} (hl : l ∈ d.items) :
    (∃ c ∈ d.columns, l = c.line) ∨ (∃ k : KeyClause, l = k.line) ∨
      ∃ i : IndexClause, l = i.line := by
  simp only [TableDecl.items, List.mem_append, List.mem_map] at hl
  rcases hl with (⟨c, hc, rfl⟩ | ⟨k, -, rfl⟩) | ⟨i, -, rfl⟩
  · exact .inl ⟨c, hc, rfl⟩
  · exact .inr (.inl ⟨k, rfl⟩)
  · exact .inr (.inr ⟨i, rfl⟩)

/-- Exactly the declared columns are read from a column list. -/
theorem columns_body {d : TableDecl} (h : d.WellFormed) (hu : d.Unambiguous)
    (keys : List (List Char)) :
    columns (keys.map String.ofList) d.body = d.columns.map (ColumnDecl.column keys) := by
  have hfirst : ∀ t, columns (keys.map String.ofList) ('\n' :: t) =
      columns (keys.map String.ofList) t := fun t =>
    columns_append_cons (c := '\n') (by decide) _ [] t
  have hcolumn : ∀ c ∈ d.columns, ∀ e ∈ lineEnds,
      columnOfLine? (keys.map String.ofList) (c.line ++ e) = some (c.column keys) := by
    intro c hc e he
    exact ColumnDecl.columnOfLine?_line (h.columns c hc) (hu.columns c hc) he keys
  have hread : d.items.filterMap (columnOfLine? (keys.map String.ofList)) =
      d.columns.map (ColumnDecl.column keys) := by
    have hcolumns : (d.columns.map ColumnDecl.line).filterMap
        (columnOfLine? (keys.map String.ofList)) = d.columns.map (ColumnDecl.column keys) := by
      have hsome : ∀ c ∈ d.columns, (columnOfLine? (keys.map String.ofList) ∘ ColumnDecl.line) c =
          (some ∘ ColumnDecl.column keys) c := by
        intro c hc
        simpa using hcolumn c hc [] (by decide)
      rw [List.filterMap_map, List.filterMap_congr hsome, List.filterMap_eq_map]
    have hkey : (d.key?.toList.map KeyClause.line).filterMap
        (columnOfLine? (keys.map String.ofList)) = [] := by
      rw [List.filterMap_map, List.filterMap_eq_nil_iff]
      intro k _
      simpa using columnOfLine?_keyLine k [] (keys.map String.ofList)
    have hindexes : (d.indexes.map IndexClause.line).filterMap
        (columnOfLine? (keys.map String.ofList)) = [] := by
      rw [List.filterMap_map, List.filterMap_eq_nil_iff]
      intro i _
      simpa using columnOfLine?_indexLine i [] (keys.map String.ofList)
    rw [TableDecl.items, List.filterMap_append, List.filterMap_append, hcolumns, hkey, hindexes]
    simp
  rw [TableDecl.body, hfirst, columns_intercalate, hread]
  · intro l hl
    rcases mem_items hl with ⟨c, hc, rfl⟩ | ⟨k, rfl⟩ | ⟨i, rfl⟩
    · exact ColumnDecl.not_lineBreak (h.columns c hc)
    · exact k.not_lineBreak
    · exact i.not_lineBreak
  · intro l hl
    have hempty : ([] : List Char) ∈ lineEnds := by decide
    have hcomma : [','] ∈ lineEnds := by decide
    rcases mem_items hl with ⟨c, hc, rfl⟩ | ⟨k, rfl⟩ | ⟨i, rfl⟩
    · rw [hcolumn c hc _ hcomma, ← hcolumn c hc _ hempty, List.append_nil]
    · rw [columnOfLine?_keyLine k, ← columnOfLine?_keyLine k [], List.append_nil]
    · rw [columnOfLine?_indexLine i, ← columnOfLine?_indexLine i [], List.append_nil]

/-! ## The key list -/

theorem intercalate_append {sep : List Char} {ys : List (List Char)} (hne : ys ≠ [])
    (xs : List (List Char)) :
    sep.intercalate (xs ++ ys) = xs.flatMap (· ++ sep) ++ sep.intercalate ys := by
  induction xs with
  | nil => rfl
  | cons x xs ih =>
    have hrest : xs ++ ys ≠ [] := by simp [hne]
    rw [List.cons_append, List.intercalate_cons_of_ne_nil hrest, ih, List.flatMap_cons]
    simp

/-- What stands between commas and breaks contains what one of the items contains. -/
theorem not_contains_items {L : List Char → Prop} (hcomma : ∀ w, L w → ',' ∉ w)
    (hfront : ∀ v, Contains L ('\n' :: v) → Contains L v)
    (hback : ∀ u, Contains L (u ++ ['\n']) → Contains L u) (hnil : ¬ Contains L [])
    {items : List (List Char)} (h : ∀ l ∈ items, ¬ Contains L l) :
    ¬ Contains L ('\n' :: ([',', '\n'].intercalate items ++ ['\n'])) := by
  intro hbody
  replace hbody := hfront _ hbody
  induction items with
  | nil => exact hnil (hback _ hbody)
  | cons l ls ih =>
    have hl := h l (by simp)
    have hls := fun hrest => ih (fun x hx => h x (by simp [hx])) hrest
    cases ls with
    | nil =>
      rw [List.intercalate_singleton] at hbody
      exact hl (hback _ hbody)
    | cons m ms =>
      have hpieces : [',', '\n'].intercalate (l :: m :: ms) ++ ['\n'] =
          l ++ ',' :: ('\n' :: ([',', '\n'].intercalate (m :: ms) ++ ['\n'])) := by
        simp
      rw [hpieces, contains_append_cons hcomma] at hbody
      rcases hbody with hbody | hbody
      · exact hl hbody
      · exact hls (hfront _ hbody)

theorem not_mem_comma_keyOpening : ∀ w, IsKeyOpening w → ',' ∉ w := by
  apply not_mem_keyOpening
  all_goals decide

theorem ColumnDecl.not_contains_keyOpening_line {c : ColumnDecl} (h : c.WellFormed)
    (hu : c.Unambiguous) : ¬ Contains IsKeyOpening c.line := by
  intro hopen
  have hindented := contains_keyOpening_of_cons (by decide) hopen
  have htext := contains_keyOpening_of_cons (by decide) hindented
  exact not_contains_keyOpening h hu htext

/-- The search for the key list passes over the columns. -/
theorem search?_columns {cs : List ColumnDecl} (h : ∀ c ∈ cs, c.WellFormed ∧ c.Unambiguous)
    (v : List Char) :
    search? keyList? ((cs.map ColumnDecl.line).flatMap (· ++ [',', '\n']) ++ v) =
      search? keyList? v := by
  induction cs with
  | nil => rfl
  | cons c cs ih =>
    obtain ⟨hc, hcu⟩ := h c (by simp)
    have hpieces : ((c :: cs).map ColumnDecl.line).flatMap (· ++ [',', '\n']) ++ v =
        c.line ++ ',' :: '\n' :: ((cs.map ColumnDecl.line).flatMap (· ++ [',', '\n']) ++ v) := by
      simp
    rw [hpieces, search?_keyList?_append (c.not_contains_keyOpening_line hc hcu)
      not_mem_comma_keyOpening, search?_keyList?_cons (by decide),
        search?_keyList?_cons (by decide)]
    exact ih fun x hx => h x (by simp [hx])

theorem search?_keyLine (k : KeyClause) (v : List Char) :
    search? keyList? (k.line ++ v) = some (nameList k.names) := by
  have hpieces : k.line ++ v = ' ' :: ' ' :: ((k.keyword.text ++ [' '] ++ ['(']) ++
      (nameList k.names ++ ')' :: (' ' :: k.method.text ++ v))) := by
    simp [KeyClause.line]
  have hopening : IsKeyOpening (k.keyword.text ++ [' '] ++ ['(']) :=
    ⟨k.keyword.text, [' '], rfl, k.keyword.fold_text, by decide⟩
  have hfound : keyList? ((k.keyword.text ++ [' '] ++ ['(']) ++
      (nameList k.names ++ ')' :: (' ' :: k.method.text ++ v))) = some (nameList k.names) := by
    refine keyList?_eq_some_iff.2 ⟨_, _, hopening, rfl, ?_, ?_⟩
    · obtain ⟨w, ws, hnames⟩ := List.exists_cons_of_ne_nil k.names_ne_nil
      cases ws <;> simp [hnames, nameList, backquoted]
    · intro hmem
      rcases mem_nameList hmem with h | ⟨w, -, h⟩
      · exact absurd h (by decide)
      · exact w.not_mem (by decide) h
  rw [hpieces, search?_keyList?_cons (by decide), search?_keyList?_cons (by decide)]
  exact search?_of_eq_some hfound

theorem keyNames_body {d : TableDecl} (h : d.WellFormed) (hu : d.Unambiguous) :
    keyNames d.body = d.keys.eraseDups.map String.ofList := by
  cases hk : d.key? with
  | none =>
    have hsearch : search? keyList? d.body = none := by
      apply search?_keyList?_eq_none
      apply not_contains_items not_mem_comma_keyOpening
      · exact fun v => contains_keyOpening_of_cons (by decide)
      · exact fun u => contains_keyOpening_of_append (by decide)
      · exact fun hnil => absurd (paren_mem_of_keyOpening hnil) (by simp)
      · intro l hl
        simp only [TableDecl.items, hk, Option.toList_none, List.map_nil, List.append_nil,
          List.mem_append, List.mem_map] at hl
        rcases hl with ⟨c, hc, rfl⟩ | ⟨i, -, rfl⟩
        · exact c.not_contains_keyOpening_line (h.columns c hc) (hu.columns c hc)
        · exact i.not_contains_keyOpening
    rw [keyNames, hsearch]
    simp [TableDecl.keys, hk]
  | some k =>
    have hitems : d.items = d.columns.map ColumnDecl.line ++
        (k.line :: d.indexes.map IndexClause.line) := by
      simp [TableDecl.items, hk]
    have hbehind : ∃ t, [',', '\n'].intercalate (k.line :: d.indexes.map IndexClause.line) =
        k.line ++ t := by
      cases d.indexes with
      | nil => exact ⟨[], by simp⟩
      | cons i is => exact ⟨_, by rw [List.map_cons, List.intercalate_cons_cons, List.append_assoc]⟩
    obtain ⟨t, ht⟩ := hbehind
    have hsearch : search? keyList? d.body = some (nameList k.names) := by
      rw [TableDecl.body, search?_keyList?_cons (by decide), hitems,
        intercalate_append (List.cons_ne_nil _ _), List.append_assoc,
        search?_columns fun c hc => ⟨h.columns c hc, hu.columns c hc⟩, ht, List.append_assoc,
        search?_keyLine]
    rw [keyNames, hsearch]
    simp [TableDecl.keys, hk, listedNames_nameList k.names_ne_nil]

end TableAtlas.Dump
