import TableAtlas.Dump.KeyClause
import TableAtlas.Proofs.DeclaredColumn

/-!
# Lines that declare a key or an index

Such lines declare no column, because their first word is reserved. The key names are read
back from the list in the key line, however blanks and quotes surround them.
-/

namespace TableAtlas.Dump

open Text

/-! ## No columns -/

theorem columnOfLine?_eq_none_of_reserved {keys : List String} {line n r : List Char}
    (hn : leadingName? (trim line) = some (n, r)) (hr : isReserved n = true) :
    columnOfLine? keys line = none := by
  simp only [columnOfLine?, hn, hr]
  split <;> rfl

/-- A word of ASCII capitals. -/
def IsCapitalWord (k : List Char) : Prop :=
  k ≠ [] ∧ fold k = k ∧ ∀ x ∈ k, x.toNat < 128 ∧ isWord x = true ∧ isWord x.toLower = true

instance (k : List Char) : Decidable (IsCapitalWord k) :=
  inferInstanceAs (Decidable (k ≠ [] ∧ fold k = k ∧
    ∀ x ∈ k, x.toNat < 128 ∧ isWord x = true ∧ isWord x.toLower = true))

section

variable {w k : List Char} (hk : IsCapitalWord k) (hw : w.map Char.toUpper = k)

include hk hw

theorem IsCapitalWord.isWordRun : IsWordRun w where
  ne_nil := by
    rintro rfl
    exact hk.1 hw.symm
  isWord := forall_mem_of_toUpper (q := (isWord · = true)) hw hk.2.1 fun x hx => (hk.2.2 x hx).2

theorem IsCapitalWord.upper_eq : upper w = k := by
  have hascii : ∀ c ∈ w, c.toUpper.toNat < 128 := fun c hc =>
    (hk.2.2 _ (hw ▸ List.mem_map_of_mem hc)).1
  clear hk
  subst hw
  induction w with
  | nil => rfl
  | cons c w ih =>
    have hc : c.toNat < 128 := by
      have hupper := hascii c (by simp)
      rw [toNat_toUpper] at hupper
      split at hupper <;> omega
    rw [upper, List.flatMap_cons, upperChar, if_pos hc, ← upper,
      ih fun d hd => hascii d (by simp [hd])]
    rfl

end

/-- The first word of a header, which is given in capitals, and what stands behind it. -/
theorem exists_first_word {h k : List Char} (hh : h.map Char.toUpper = k) :
    ∃ w s, h = w ++ s ∧ w.map Char.toUpper = k.takeWhile (· ≠ ' ') ∧
      s.map Char.toUpper = k.dropWhile (· ≠ ' ') ∧ ∀ x ∈ s.head?, x = ' ' := by
  have hspace : ((decide <| · ≠ ' ') ∘ Char.toUpper) = fun c => decide (c ≠ ' ') := by
    funext c
    have hc : c.toUpper = ' ' ↔ c = ' ' := by
      simpa using toUpper_eq_iff (c := c) (k := ' ') (by decide)
    simp [hc]
  refine ⟨h.takeWhile (· ≠ ' '), h.dropWhile (· ≠ ' '),
    List.takeWhile_append_dropWhile.symm, ?_, ?_, ?_⟩
  · rw [← hh, List.takeWhile_map, hspace]
  · rw [← hh, List.dropWhile_map, hspace]
  · intro x hx
    have hnot := List.head?_dropWhile_not (· ≠ ' ') h
    rw [Option.mem_def.1 hx] at hnot
    simpa using hnot

/-- A line whose first word is a reserved one, in any case, declares no column. -/
theorem columnOfLine?_eq_none {b h k t : List Char} (hb : ∀ x ∈ b, isBlank x = true)
    (hh : h.map Char.toUpper = k) (hk : k.takeWhile (· ≠ ' ') ∈ reservedNames)
    (ht : ∀ x ∈ t.head?, isWord x = false) (keys : List String) :
    columnOfLine? keys (b ++ (h ++ t)) = none := by
  obtain ⟨w, s, rfl, hw, -, hs⟩ := exists_first_word hh
  have hcapitals : ∀ r ∈ reservedNames, IsCapitalWord r := by decide
  have hword := (hcapitals _ hk).isWordRun hw
  have hreserved : isReserved w = true := by
    rw [isReserved, (hcapitals _ hk).upper_eq hw]
    exact List.contains_iff_mem.2 hk
  have hend : ∀ x ∈ (s ++ t).head?, isWord x = false := by
    cases s with
    | nil => exact ht
    | cons c s =>
      obtain rfl := hs c rfl
      exact forall_mem_head?_cons (by decide)
  obtain ⟨r, ⟨z, hz⟩, htrim⟩ := exists_trimBy_append hb hword.ne_nil
    (fun x hx => hword.not_blank (List.mem_of_head? hx))
    (fun x hx => hword.not_blank (List.mem_of_getLast? hx)) (s ++ t)
  have hrest : ∀ x ∈ r.head?, isWord x = false := fun x hx =>
    hend x (by simp [← hz, Option.mem_def.1 hx])
  refine columnOfLine?_eq_none_of_reserved (n := w) (r := dropQuote r) ?_ hreserved
  rw [trim, List.append_assoc, htrim, leadingName?_bare hword hrest]

theorem columnOfLine?_keyLine (k : KeyClause) (e : List Char) (keys : List String) :
    columnOfLine? keys (k.line ++ e) = none := by
  have hpieces : k.line ++ e = [' ', ' '] ++ (k.keyword.text ++ ' ' :: ('(' ::
      (nameList k.names ++ [')', ' ']) ++ (k.method.text ++ e))) := by
    simp [KeyClause.line]
  rw [hpieces]
  exact columnOfLine?_eq_none (by decide) k.keyword.toUpper_text (by decide)
    (forall_mem_head?_cons (by decide)) keys

theorem columnOfLine?_indexLine (i : IndexClause) (e : List Char) (keys : List String) :
    columnOfLine? keys (i.line ++ e) = none := by
  have hpieces : i.line ++ e = [' ', ' '] ++ (i.keyword.text ++ ' ' ::
      (backquoted i.name.chars ++ '(' :: (backquoted i.column.chars ++ [')', ' ']) ++
        (i.method.text ++ e))) := by
    simp [IndexClause.line]
  rw [hpieces]
  exact columnOfLine?_eq_none (by decide) i.keyword.toUpper_text (by decide)
    (forall_mem_head?_cons (by decide)) keys

theorem mem_nameList {names : List Word} {x : Char} (hx : x ∈ nameList names) :
    x ∈ [',', ' ', '\x60'] ∨ ∃ w ∈ names, x ∈ w.chars := by
  rcases mem_intercalate hx with ⟨l, hl, hx⟩ | hx
  · obtain ⟨w, hw, rfl⟩ := List.mem_map.1 hl
    simp only [backquoted, List.mem_cons, List.mem_append, List.not_mem_nil, or_false] at hx
    rcases hx with rfl | hx | rfl
    · simp
    · exact .inr ⟨w, hw, hx⟩
    · simp
  · exact .inl (List.mem_append_left ['\x60'] hx)

/-! ## No phrases -/

section

variable {P : Phrase} {d : Char} (hd : d ∈ P.first ++ P.second)
  (hquote : P.IsDivider '\x60')

include hd hquote

/-- An index line lacks every phrase that has a letter which its own words lack. -/
theorem IndexClause.not_contains_line (i : IndexClause) (hindex : d ∉ "  INDEX ".toList)
    (hparen : d ∉ "(".toList) (hmethod : d ∉ ") USING BTREE".toList) :
    ¬ Contains P.Covers i.line := by
  have hpieces : i.line = (' ' :: ' ' :: (i.keyword.text ++ [' '])) ++ '\x60' :: (i.name.chars ++
      '\x60' :: (['('] ++ '\x60' :: (i.column.chars ++
        '\x60' :: (')' :: ' ' :: i.method.text)))) := by
    simp [IndexClause.line, backquoted]
  have hfold : ∀ c, c ∈ [' ', '(', ')'] → foldCase c = c := by decide
  rw [hpieces]
  simp only [Phrase.contains_append_cons hquote]
  rintro (h | h | h | h | h)
  · refine Phrase.not_contains_of_not_mem hd ?_ h
    simpa [i.keyword.fold_text, hfold] using hindex
  · exact Phrase.not_contains_of_no_blank (fun x hx => i.name.not_blank hx) h
  · refine Phrase.not_contains_of_not_mem hd ?_ h
    simpa [hfold] using hparen
  · exact Phrase.not_contains_of_no_blank (fun x hx => i.column.not_blank hx) h
  · refine Phrase.not_contains_of_not_mem hd ?_ h
    simpa [i.method.fold_text, hfold] using hmethod

/-- Between the names of a list there is nothing but commas and spaces. -/
theorem not_contains_nameList {names : List Word} (hne : names ≠ []) {u t : List Char}
    (hu : ¬ Contains P.Covers u) (hcomma : d ∉ ", ".toList) (ht : ¬ Contains P.Covers t) :
    ¬ Contains P.Covers (u ++ (nameList names ++ t)) := by
  have hdivide : ∀ {u : List Char} (w : Word) (t : List Char), ¬ Contains P.Covers u →
      ¬ Contains P.Covers t → ¬ Contains P.Covers (u ++ (backquoted w.chars ++ t)) := by
    intro u w t hu ht
    have hpieces : u ++ (backquoted w.chars ++ t) = u ++ '\x60' :: (w.chars ++ '\x60' :: t) := by
      simp [backquoted]
    rw [hpieces]
    simp only [Phrase.contains_append_cons hquote]
    rintro (h | h | h)
    · exact hu h
    · exact Phrase.not_contains_of_no_blank (fun x hx => w.not_blank hx) h
    · exact ht h
  obtain ⟨w, ws, rfl⟩ := List.exists_cons_of_ne_nil hne
  induction ws generalizing w u with
  | nil => simpa [nameList] using hdivide w t hu ht
  | cons v vs ih =>
    have hsep : ¬ Contains P.Covers [',', ' '] := by
      refine Phrase.not_contains_of_not_mem hd ?_
      have hfold : fold [',', ' '] = ", ".toList := by decide
      rwa [hfold]
    have hpieces : u ++ (nameList (w :: v :: vs) ++ t) =
        u ++ (backquoted w.chars ++ ([',', ' '] ++ (nameList (v :: vs) ++ t))) := by
      simp [nameList]
    rw [hpieces]
    exact hdivide w _ hu (ih hsep v (by simp))

theorem KeyClause.not_contains_line (k : KeyClause) (hkey : d ∉ "  PRIMARY KEY (".toList)
    (hcomma : d ∉ ", ".toList) (hmethod : d ∉ ") USING BTREE".toList) :
    ¬ Contains P.Covers k.line := by
  have hfold : ∀ c, c ∈ [' ', '(', ')'] → foldCase c = c := by decide
  have hpieces : k.line = (' ' :: ' ' :: (k.keyword.text ++ [' ', '('])) ++
      (nameList k.names ++ (')' :: ' ' :: k.method.text)) := by
    simp [KeyClause.line]
  rw [hpieces]
  refine not_contains_nameList hd hquote k.names_ne_nil ?_ hcomma ?_
  · refine Phrase.not_contains_of_not_mem hd ?_
    simpa [k.keyword.fold_text, hfold] using hkey
  · refine Phrase.not_contains_of_not_mem hd ?_
    simpa [k.method.fold_text, hfold] using hmethod

end

/-! ## Key names -/

theorem Word.not_quote (w : Word) : ∀ x ∈ w.chars, isQuote x = false := by
  intro x hx
  by_contra h
  exact w.not_mem (isWord_of_isQuote (by simpa using h)) hx

theorem trimBy_backquoted (w : Word) : trimBy isQuote (backquoted w.chars) = w.chars :=
  trimBy_append (u := ['\x60']) (v := ['\x60']) (by decide) (by decide) w.not_quote

theorem comma_not_mem_backquoted (w : Word) : ',' ∉ backquoted w.chars := by
  have hname : ',' ∉ w.chars := w.not_mem (by decide)
  simp [backquoted, hname]

theorem backquoted_not_blank (w : Word) : ∀ x ∈ backquoted w.chars, isBlank x = false := by
  intro x hx
  simp only [backquoted, List.mem_cons, List.mem_append, List.not_mem_nil, or_false] at hx
  rcases hx with rfl | hx | rfl
  · decide
  · exact w.not_blank hx
  · decide

/-- A separator of two characters is the first of them, with the second in front of every piece
but the first. -/
theorem intercalate_pair {c d : Char} (t : List Char) (ts : List (List Char)) :
    [c, d].intercalate (t :: ts) = [c].intercalate (t :: ts.map (d :: ·)) := by
  induction ts generalizing t with
  | nil => simp
  | cons u ts ih => simp [ih u]

/-- The pieces of a list are read from between its commas. -/
theorem map_trim_splitOn {ts : List (List Char)} (hne : ts ≠ []) (hcomma : ∀ t ∈ ts, ',' ∉ t)
    (hblank : ∀ t ∈ ts, ∀ x ∈ t, isBlank x = false) :
    (([',', ' '].intercalate ts).splitOn ',').map trim = ts := by
  have htrim : ∀ t ∈ ts, ∀ b, (∀ x ∈ b, isBlank x = true) → trim (b ++ t) = t := by
    intro t ht b hb
    simpa [trim] using trimBy_append (v := []) hb (by simp) (hblank t ht)
  obtain ⟨t, ts, rfl⟩ := List.exists_cons_of_ne_nil hne
  have hpieces : ∀ u ∈ t :: ts.map (' ' :: ·), ',' ∉ u := by
    intro u hu
    rcases List.mem_cons.1 hu with rfl | hu
    · exact hcomma u (by simp)
    · obtain ⟨v, hv, rfl⟩ := List.mem_map.1 hu
      simpa using hcomma v (by simp [hv])
  have hfirst : trim t = t := htrim t (by simp) [] (by simp)
  have hrest : ts.map (trim ∘ (' ' :: ·)) = ts.map id :=
    List.map_congr_left fun u hu => htrim u (by simp [hu]) [' '] (by decide)
  rw [intercalate_pair, List.splitOn_intercalate ',' hpieces (List.cons_ne_nil _ _), List.map_cons,
    List.map_map, hfirst, hrest, List.map_id]

theorem listedNames_nameList {names : List Word} (hne : names ≠ []) :
    listedNames (nameList names) = (names.map (·.chars)).eraseDups := by
  have htrim : ((nameList names).splitOn ',').map trim =
      names.map (fun name => backquoted name.chars) := by
    apply map_trim_splitOn
    · simpa using hne
    · intro t ht
      obtain ⟨w, -, rfl⟩ := List.mem_map.1 ht
      exact comma_not_mem_backquoted w
    · intro t ht
      obtain ⟨w, -, rfl⟩ := List.mem_map.1 ht
      exact backquoted_not_blank w
  have hnames : ((nameList names).splitOn ',').map (fun part => trimBy isQuote (trim part)) =
      names.map (·.chars) := by
    rw [← Function.comp_def, ← List.map_map, htrim, List.map_map]
    exact List.map_congr_left fun w _ => trimBy_backquoted w
  rw [listedNames, hnames, List.filter_eq_self.2]
  intro n hn
  obtain ⟨v, -, rfl⟩ := List.mem_map.1 hn
  simp [v.ne_nil]

end TableAtlas.Dump
