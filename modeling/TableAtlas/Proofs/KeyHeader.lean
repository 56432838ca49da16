import TableAtlas.Proofs.DeclaredKey
import TableAtlas.Proofs.QuotedName

/-!
# Lines that declare a key or a constraint

A key, an index or a constraint is declared behind a header of one or two words. The line declares
no column if the first of them is reserved, in whatever case it is written. The headers of full-text
and of spatial indexes begin with words that are not reserved. Lines behind these are read as
columns that have the first word for a name and the second for a type.
-/

namespace TableAtlas.Dump

open Text

variable {b h k t v w : List Char} {d : Char} {keys : List String}

/-- Headers whose first word is reserved. -/
def reservedHeaders : List (List Char) :=
  ["PRIMARY KEY", "KEY", "INDEX", "UNIQUE", "UNIQUE KEY", "UNIQUE INDEX", "CONSTRAINT",
    "FOREIGN KEY", "CHECK"].map String.toList

/-- Headers of indexes that are called by their kind. -/
def kindHeaders : List (List Char) :=
  ["FULLTEXT KEY", "FULLTEXT INDEX", "SPATIAL KEY", "SPATIAL INDEX"].map String.toList

/-- The first words of these headers. -/
def kindWords : List (List Char) :=
  ["FULLTEXT", "SPATIAL"].map String.toList

/-- The words that may come second in them. -/
def listWords : List (List Char) :=
  ["KEY", "INDEX"].map String.toList

theorem columnOfLine?_append_blanks (hb : ∀ x ∈ b, isBlank x = true) (l : List Char) :
    columnOfLine? keys (b ++ l) = columnOfLine? keys l := by
  have htrim : trim (b ++ l) = trim l := trimBy_append_left hb
  simp only [columnOfLine?, htrim]

/-- The type at the front of a text begins with the first word of the text. -/
theorem prefix_declaredType (hk : IsWordRun k) (ht : ∀ x ∈ t.head?, isWord x = false) :
    k <+: declaredType (trim (k ++ t)) := by
  obtain ⟨r, ⟨z, hz⟩, htrim⟩ := exists_trimBy_append (u := []) (by simp) hk.ne_nil
    (fun x hx => hk.not_blank (List.mem_of_head? hx))
    (fun x hx => hk.not_blank (List.mem_of_getLast? hx)) t
  have hrest : ∀ x ∈ r.head?, isWord x = false := fun x hx =>
    ht x (by simp [← hz, Option.mem_def.1 hx])
  rw [List.nil_append] at htrim
  rw [trim, htrim, declaredType_word hk hrest]
  cases enclosed? '(' ')' r with
  | none => exact List.prefix_refl k
  | some x => simp

/-- The two words of a header that begins with the kind of an index. -/
theorem exists_words_of_kindHeaders (hk : k ∈ kindHeaders) (hh : h.map Char.toUpper = k) :
    ∃ w v, h = w ++ ' ' :: v ∧ w.map Char.toUpper ∈ kindWords ∧
      v.map Char.toUpper ∈ listWords := by
  have hwords : ∀ k ∈ kindHeaders, k.takeWhile (· ≠ ' ') ∈ kindWords ∧
      ∃ v ∈ listWords, k.dropWhile (· ≠ ' ') = ' ' :: v := by decide
  obtain ⟨hfirst, v, hv, hrest⟩ := hwords k hk
  obtain ⟨w, s, rfl, hw, hs, hspace⟩ := exists_first_word hh
  rw [hrest] at hs
  obtain ⟨c, s, rfl, -, hsv⟩ := List.map_eq_cons_iff.1 hs
  obtain rfl := hspace c rfl
  exact ⟨w, s, rfl, hw ▸ hfirst, hsv ▸ hv⟩

/-- The kind of an index is a free name, and no line is left out for it. -/
theorem free_of_kindWords (hw : w.map Char.toUpper ∈ kindWords) :
    IsWordRun w ∧ isReserved w = false ∧ ¬ ∃ o ∈ structuralWords, o <+: w := by
  have hkinds : ∀ k ∈ kindWords, IsCapitalWord k ∧ k ∉ reservedNames ∧
      ∀ o ∈ structuralWords, ¬ o.map Char.toUpper <+: k := by decide
  obtain ⟨hcapital, hfree, hopen⟩ := hkinds _ hw
  refine ⟨hcapital.isWordRun rfl, ?_, ?_⟩
  · rw [isReserved, hcapital.upper_eq rfl]
    simpa using hfree
  · rintro ⟨o, ho, hfront⟩
    exact hopen o ho (hfront.map Char.toUpper)

/-- The second word of a header is a word other than `NULL`. -/
theorem not_null_of_listWords (hv : v.map Char.toUpper ∈ listWords) (s : List Char) :
    IsWordRun v ∧ hasKeyword "NULL".toList (v ++ s) = false := by
  have hlists : ∀ k ∈ listWords, IsCapitalWord k ∧ 'N' ∉ k.head? := by decide
  obtain ⟨hcapital, hnull⟩ := hlists _ hv
  refine ⟨hcapital.isWordRun rfl, ?_⟩
  rw [← Bool.not_eq_true, hasKeyword_iff (by decide), fold_append,
    fold_of_toUpper rfl hcapital.2.1]
  rintro ⟨z, hz⟩
  apply hnull
  rw [← List.head?_append_of_ne_nil _ hcapital.1, ← hz]
  rfl

/-- Behind the kind of an index a line declares a column, whatever follows the header. -/
theorem columnOfLine?_of_kindHeaders (hb : ∀ x ∈ b, isBlank x = true) (hk : k ∈ kindHeaders)
    (hh : h.map Char.toUpper = k) (hd : isWord d = false) (t : List Char) (keys : List String) :
    ∃ column, columnOfLine? keys (b ++ (h ++ d :: t)) = some column ∧
      ∃ v, h = column.name.toList ++ ' ' :: v ∧ v <+: column.type.toList := by
  obtain ⟨w, v, rfl, hw, hv⟩ := exists_words_of_kindHeaders hk hh
  obtain ⟨hname, hfree, hopen⟩ := free_of_kindWords hw
  obtain ⟨htype, hnull⟩ := not_null_of_listWords hv (d :: t)
  obtain ⟨c, v, rfl⟩ := List.exists_cons_of_ne_nil htype.ne_nil
  refine ⟨columnOfParts keys w (c :: (v ++ d :: t)), ?_, c :: v, ?_, ?_⟩
  · rw [columnOfLine?_append_blanks hb, List.append_assoc]
    exact columnOfLine?_bare hname hfree (htype.isWord c (by simp)) hnull hopen
  · rw [columnOfParts, String.toList_ofList]
  · rw [columnOfParts, String.toList_ofList]
    exact prefix_declaredType htype (forall_mem_head?_cons hd)

/-- Whatever the case of a header, the blanks in front of it and the text behind it, its line
declares no column exactly if the first word of the header is reserved. Behind the other headers
there is a column with the name of the first word and the second word at the front of its type. -/
theorem header_line_declares_nothing_iff (hb : ∀ x ∈ b, isBlank x = true)
    (hk : k ∈ reservedHeaders ++ kindHeaders) (hh : h.map Char.toUpper = k)
    (hd : d = ' ' ∨ d = '(') (t : List Char) (keys : List String) :
    (columnOfLine? keys (b ++ (h ++ d :: t)) = none ↔ k ∈ reservedHeaders) ∧
    ∀ column, columnOfLine? keys (b ++ (h ++ d :: t)) = some column →
      ∃ v, h = column.name.toList ++ ' ' :: v ∧ v <+: column.type.toList := by
  have hend : isWord d = false := by
    rcases hd with rfl | rfl
    · decide
    · decide
  have hreserved : ∀ k ∈ reservedHeaders,
      k.takeWhile (· ≠ ' ') ∈ reservedNames ∧ k ∉ kindHeaders := by decide
  rcases List.mem_append.1 hk with hk | hk
  · have hnone : columnOfLine? keys (b ++ (h ++ d :: t)) = none :=
      columnOfLine?_eq_none hb hh (hreserved k hk).1 (forall_mem_head?_cons hend) keys
    refine ⟨iff_of_true hnone hk, fun column hcolumn => ?_⟩
    rw [hnone] at hcolumn
    cases hcolumn
  · obtain ⟨column, hcolumn, hparts⟩ := columnOfLine?_of_kindHeaders hb hk hh hend t keys
    rw [hcolumn]
    refine ⟨iff_of_false (by simp) fun h => (hreserved k h).2 hk, fun found hfound => ?_⟩
    rwa [← Option.some.inj hfound]

/-- A header in mixed case behind blanks of several kinds, in front of a parenthesis. -/
theorem header_line_declares_nothing_unique :
    "unIQue indEX".toList.map Char.toUpper ∈ reservedHeaders ∧
      columnOfLine? ["index"] ("\t\u3000 ".toList ++
        ("unIQue indEX".toList ++ '(' :: "`a`) comment 'x'".toList)) = none := by
  have hk : "unIQue indEX".toList.map Char.toUpper ∈ reservedHeaders := by decide
  have hheader := List.mem_append_left kindHeaders hk
  exact ⟨hk, (header_line_declares_nothing_iff (by decide) hheader rfl (.inr rfl) _ _).1.2 hk⟩

/-- A full-text index is read as a column. -/
theorem fulltext_line_declares_column :
    columnOfLine? [] "FULLTEXT KEY `idx_a` (`a`)".toList =
      some ⟨"FULLTEXT", "KEY", "", false, true⟩ := by
  decide +kernel

end TableAtlas.Dump
