import TableAtlas.Proofs.LineReading

/-!
# Column names with and without quotes

A line that begins with a name, a space and a word declares the same column whether the name stands
between quotes or not. The exceptions are names that begin like a line that declares a key, a
constraint or a partition. A line with such a bare name declares no column, even though the name is
not reserved.
-/

namespace TableAtlas.Dump

open Text

variable {f n r s x : List Char} {c : Char} {keys : List String}

/-! ## In front of a space -/

/-- A comment keyword in front of a space has no quotation behind it if a word follows the space. -/
theorem not_commentsWith_space (hf : ∀ c ∈ f, isBlank c = false)
    (hs : ∀ c ∈ s.head?, isWord c = true) : ¬ CommentsWith (f ++ ' ' :: s) x := by
  rintro ⟨k, b, t, h, hk, hne, hb, -, -⟩
  have hkeyword := not_blank_of_mem_fold hk (by decide)
  have hgap : ∀ c ∈ (b ++ '\'' :: (x ++ '\'' :: t)).head?, isBlank c = true := by
    cases b with
    | nil => exact absurd rfl hne
    | cons c b => exact forall_mem_head?_cons (hb c (by simp))
  obtain ⟨-, hrest⟩ := run_unique (p := (!isBlank ·)) (by simpa using hf)
    (forall_mem_head?_cons (by decide)) (by simpa using hkeyword) (by simpa using hgap) h
  cases b with
  | nil => exact hne rfl
  | cons c b =>
    obtain ⟨rfl, rfl⟩ := List.cons.inj hrest
    cases b with
    | nil => exact absurd (hs '\'' rfl) (by decide)
    | cons d b =>
      have hword := hs d rfl
      rw [isWord_of_isBlank (hb d (by simp))] at hword
      cases hword

theorem search?_commentClause?_space (hf : ∀ c ∈ f, isBlank c = false)
    (hs : ∀ c ∈ s.head?, isWord c = true) :
    search? commentClause? (f ++ ' ' :: s) = search? commentClause? s := by
  have hnone : ∀ g, (∀ c ∈ g, isBlank c = false) → commentClause? (g ++ ' ' :: s) = none :=
    fun g hg => Option.eq_none_iff_forall_ne_some.2 fun x hx =>
      not_commentsWith_space hg hs (commentClause?_eq_some_iff.1 hx)
  induction f with
  | nil =>
    have hspace := hnone [] hf
    rw [List.nil_append] at hspace ⊢
    rw [search?, hspace, Option.none_or]
  | cons c f ih =>
    have hfront := hnone (c :: f) hf
    rw [List.cons_append] at hfront ⊢
    rw [search?, hfront, Option.none_or, ih fun d hd => hf d (by simp [hd])]

theorem occurs_notNull_space (hf : ∀ c ∈ f, isBlank c = false)
    (hs : ∀ c ∈ s.head?, isBlank c = false) (hnull : hasKeyword "NULL".toList s = false) :
    occurs (hasKeyword "NOT NULL".toList) (f ++ ' ' :: s) =
      occurs (hasKeyword "NOT NULL".toList) s := by
  have hsecond : ¬ notNullPhrase.second <+: fold s := by
    intro h
    rw [(hasKeyword_iff (k := "NULL".toList) (by decide)).2 h] at hnull
    cases hnull
  rw [Bool.eq_iff_iff, occurs_notNull_iff, occurs_notNull_iff,
    Phrase.contains_append_blank_cons hf (by decide) hs hsecond]

/-- Trimming a line that begins with a text without blanks, a space and a word takes something from
the end only. -/
theorem trim_space (hf : ∀ c ∈ f, isBlank c = false) (hne : f ≠ []) (hc : isBlank c = false)
    (r : List Char) : trim (f ++ ' ' :: c :: r) = f ++ ' ' :: trim (c :: r) := by
  have hhead : ∀ c ∈ (f ++ [' ']).head?, isBlank c = false := by
    rw [List.head?_append_of_ne_nil _ hne]
    exact fun c hc => hf c (List.mem_of_head? hc)
  have hfront : (f ++ [' ']).dropWhile isBlank = f ++ [' '] := by
    simpa using dropWhile_run (u := []) (by simp) hhead
  have hline := trimBy_append_cons (p := isBlank) hc (f ++ [' ']) r
  have hword := trimBy_append_cons (p := isBlank) hc [] r
  rw [hfront] at hline
  simp only [List.append_assoc, List.cons_append, List.nil_append, List.dropWhile_nil]
    at hline hword
  rw [trim, trim, hline, hword]

theorem exists_trim_cons (hc : isBlank c = false) (r : List Char) :
    ∃ t, t <+: r ∧ trim (c :: r) = c :: t := by
  simpa [trim] using exists_trimBy_append (u := []) (v := [c]) (by simp) (by simp)
    (by simpa using hc) (by simpa using hc) r

theorem trim_space_trim (hc : isBlank c = false) (r : List Char) :
    trim (' ' :: trim (c :: r)) = trim (c :: r) := by
  obtain ⟨t, -, ht⟩ := exists_trim_cons hc r
  obtain ⟨-, -, -, -, -, hhead, hlast⟩ := trimsTo_trimBy isBlank (c :: r)
  have hne : trimBy isBlank (c :: r) ≠ [] := by
    rw [← trim, ht]
    exact List.cons_ne_nil c t
  have htrim := trimBy_run (u := [' ']) (t := []) (by decide) (by simp) hhead hlast hne
  rwa [List.append_nil] at htrim

theorem hasKeyword_mono {k : List Char} (hk : fold k = k) (h : s <+: r)
    (hs : hasKeyword k s = true) : hasKeyword k r = true :=
  (hasKeyword_iff hk).2 (((hasKeyword_iff hk).1 hs).trans (h.map foldCase))

/-! ## Lines that begin with a name -/

/-- The column of a name with the text behind it. -/
def columnOfParts (keys : List String) (n r : List Char) : Column where
  name := String.ofList n
  type := String.ofList (declaredType (trim r))
  comment := String.ofList ((search? commentClause? (trim r)).getD [])
  isPrimaryKey := keys.contains (String.ofList n)
  isNullable := !occurs (hasKeyword "NOT NULL".toList) (trim r)

/-- However a name is written, a line with the name, a space and a word at its front declares the
column of the name with the text behind it, unless the line is left out. -/
theorem columnOfLine?_named (hf : ∀ c ∈ f, isBlank c = false) (hne : f ≠ [])
    (hname : ∀ s, leadingName? (f ++ ' ' :: s) = some (n, ' ' :: s)) (hfree : isReserved n = false)
    (hc : isWord c = true) (hnull : hasKeyword "NULL".toList (c :: r) = false)
    (hstructural : ∀ s, isStructural (f ++ ' ' :: s) = false) :
    columnOfLine? keys (f ++ ' ' :: c :: r) = some (columnOfParts keys n (c :: r)) := by
  have hblank := not_blank_of_isWord hc
  have hline := trim_space hf hne hblank r
  obtain ⟨t, hfront, ht⟩ := exists_trim_cons hblank r
  have hword : ∀ d ∈ (trim (c :: r)).head?, isWord d = true := by
    rw [ht]
    exact forall_mem_head?_cons hc
  have hend : hasKeyword "NULL".toList (trim (c :: r)) = false := by
    by_contra h
    rw [Bool.not_eq_false, ht] at h
    rw [hasKeyword_mono (by decide) (List.cons_prefix_cons.2 ⟨rfl, hfront⟩) h] at hnull
    cases hnull
  have hstructural' : isStructural (trim (f ++ ' ' :: c :: r)) = false := by
    rw [hline]
    exact hstructural _
  have hname' : leadingName? (trim (f ++ ' ' :: c :: r)) = some (n, ' ' :: trim (c :: r)) := by
    rw [hline]
    exact hname _
  rw [columnOfLine?_of_name hstructural' hname' hfree, hline, trim_space_trim hblank,
    search?_commentClause?_space hf hword,
    occurs_notNull_space hf (fun d hd => not_blank_of_isWord (hword d hd)) hend]
  rfl

/-! ## Lines that are left out -/

/-- The words with which lines of keys, constraints and partitions begin, as far as no other word
has to follow them. -/
def structuralWords : List (List Char) :=
  ["KEY", "INDEX", "UNIQUE", "CONSTRAINT", "PARTITION"].map String.toList

theorem mem_head?_of_append {o t : List Char} (hne : o ≠ []) (h : o ++ t = c :: s) :
    c ∈ o.head? := by
  rw [← List.head?_append_of_ne_nil o hne, h]
  rfl

theorem isStructural_quote (hc : isQuote c = true) (s : List Char) :
    isStructural (c :: s) = false := by
  have hopenings : ∀ o ∈ structuralOpenings, o ≠ [] ∧ ∀ d ∈ o.head?, isQuote d = false := by
    decide
  rw [← Bool.not_eq_true, isStructural_iff]
  rintro ⟨o, ho, t, ht⟩
  obtain ⟨hne, hfree⟩ := hopenings o ho
  rw [hfree c (mem_head?_of_append hne ht)] at hc
  cases hc

/-- A bare name that is not reserved is left out exactly if it begins with such a word. -/
theorem isStructural_bare (hn : IsWordRun n) (hfree : isReserved n = false) (s : List Char) :
    isStructural (n ++ ' ' :: s) = true ↔ ∃ w ∈ structuralWords, w <+: n := by
  have hwords : ∀ w ∈ structuralWords, w ∈ structuralOpenings ∧ ' ' ∉ w := by decide
  -- The first word of an opening with two words is reserved, and that of a comment is no word.
  have hcases : ∀ o ∈ structuralOpenings, o ∈ structuralWords ∨
      (' ' ∈ o ∧ isReserved (o.takeWhile (· ≠ ' ')) = true) ∨
      (o ≠ [] ∧ ∀ c ∈ o.head?, isWord c = false) := by decide
  rw [isStructural_iff]
  constructor
  · rintro ⟨o, ho, h⟩
    rcases hcases o ho with hw | ⟨hmem, hreserved⟩ | ⟨hne, hcomment⟩
    · exact ⟨o, hw, (prefix_append_cons_iff (hwords o hw).2).1 h⟩
    · have hspace : ' ' ∉ n := fun h => absurd (hn.not_blank h) (by decide)
      obtain ⟨t, ht⟩ := h
      obtain ⟨a, rfl⟩ := exists_cut_of_append hmem hspace ht
      have hfirst : (n ++ ' ' :: a).takeWhile (· ≠ ' ') = n :=
        takeWhile_run (fun c hc => by simpa using ne_of_mem_of_not_mem hc hspace)
          (forall_mem_head?_cons (by decide))
      rw [hfirst, hfree] at hreserved
      cases hreserved
    · obtain ⟨t, ht⟩ := h
      obtain ⟨c, w, rfl⟩ := List.exists_cons_of_ne_nil hn.ne_nil
      have hword := hn.isWord c (by simp)
      rw [hcomment c (mem_head?_of_append hne ht)] at hword
      cases hword
  · rintro ⟨w, hw, h⟩
    exact ⟨w, (hwords w hw).1, h.trans (List.prefix_append n _)⟩

theorem columnOfLine?_quoted {a b : Char} (ha : isQuote a = true) (hb : isQuote b = true)
    (hn : IsWordRun n) (hfree : isReserved n = false) (hc : isWord c = true)
    (hnull : hasKeyword "NULL".toList (c :: r) = false) :
    columnOfLine? keys (a :: (n ++ b :: ' ' :: c :: r)) = some (columnOfParts keys n (c :: r)) := by
  have hpieces : ∀ s, a :: (n ++ b :: ' ' :: s) = a :: (n ++ [b]) ++ ' ' :: s := by simp
  have hblank : ∀ d ∈ a :: (n ++ [b]), isBlank d = false := by
    intro d hd
    simp only [List.mem_cons, List.mem_append, List.not_mem_nil, or_false] at hd
    rcases hd with rfl | hd | rfl
    · exact isBlank_of_isQuote ha
    · exact hn.not_blank hd
    · exact isBlank_of_isQuote hb
  rw [hpieces]
  refine columnOfLine?_named hblank (List.cons_ne_nil _ _) (fun s => ?_) hfree hc hnull
    fun s => isStructural_quote ha _
  rw [← hpieces, leadingName?_quoted ha hb hn]

theorem columnOfLine?_bare (hn : IsWordRun n) (hfree : isReserved n = false)
    (hc : isWord c = true) (hnull : hasKeyword "NULL".toList (c :: r) = false)
    (hopen : ¬ ∃ w ∈ structuralWords, w <+: n) :
    columnOfLine? keys (n ++ ' ' :: c :: r) = some (columnOfParts keys n (c :: r)) := by
  refine columnOfLine?_named (fun d hd => hn.not_blank hd) hn.ne_nil (fun s => ?_) hfree hc hnull
    fun s => ?_
  · rw [leadingName?_bare hn (forall_mem_head?_cons (by decide))]
    rfl
  · rw [← Bool.not_eq_true, isStructural_bare hn hfree]
    exact hopen

/-- A line with a name that begins like that of a key declares no column, if the name is bare. -/
theorem columnOfLine?_bare_eq_none (hn : IsWordRun n) (hfree : isReserved n = false)
    (hc : isBlank c = false) (hopen : ∃ w ∈ structuralWords, w <+: n) :
    columnOfLine? keys (n ++ ' ' :: c :: r) = none := by
  have hline := trim_space (fun d hd => hn.not_blank hd) hn.ne_nil hc r
  have hstructural := (isStructural_bare hn hfree (trim (c :: r))).2 hopen
  simp [columnOfLine?, hline, hstructural]

/-- A name that is not reserved, with a space and a word other than `NULL` behind it, declares the
same column between any two quotes, and without quotes too unless it begins like a line that
declares no column. Then the bare name declares nothing. -/
theorem bare_name_declares_as_quoted (hn : IsWordRun n) (hfree : isReserved n = false)
    (hc : isWord c = true) (hnull : hasKeyword "NULL".toList (c :: r) = false)
    (keys : List String) :
    ∃ column : Column, column.name = String.ofList n ∧
      (∀ a b, isQuote a = true → isQuote b = true →
        columnOfLine? keys (a :: (n ++ b :: ' ' :: c :: r)) = some column) ∧
      columnOfLine? keys (n ++ ' ' :: c :: r) =
        if ∃ w ∈ structuralWords, w <+: n then none else some column := by
  refine ⟨columnOfParts keys n (c :: r), rfl, fun a b ha hb => ?_, ?_⟩
  · exact columnOfLine?_quoted ha hb hn hfree hc hnull
  · split
    case isTrue hopen =>
      exact columnOfLine?_bare_eq_none hn hfree (not_blank_of_isWord hc) hopen
    case isFalse hopen => exact columnOfLine?_bare hn hfree hc hnull hopen

/-- A column may be called `comment` and carry a comment, with quotes around its name or without. -/
theorem bare_name_declares_as_quoted_comment :
    let n := "comment".toList
    let r := "ext Comment 'x y' not null,".toList
    let column : Column := ⟨"comment", "text", "x y", true, false⟩
    columnOfLine? ["comment"] (n ++ ' ' :: 't' :: r) = some column ∧
      columnOfLine? ["comment"] ('\x60' :: (n ++ '\x60' :: ' ' :: 't' :: r)) = some column ∧
      columnOfLine? ["comment"] ('"' :: (n ++ '"' :: ' ' :: 't' :: r)) = some column := by
  intro n r column
  have hn : IsWordRun n := ⟨by decide, by decide⟩
  obtain ⟨found, -, hquoted, hbare⟩ :=
    bare_name_declares_as_quoted (c := 't') (r := r) hn (by decide) (by decide) (by decide)
      ["comment"]
  have hopen : ¬ ∃ w ∈ structuralWords, w <+: n := by decide
  rw [if_neg hopen] at hbare
  have hread : columnOfLine? ["comment"] (n ++ ' ' :: 't' :: r) = some column := by decide +kernel
  obtain rfl : found = column := Option.some.inj (hbare.symm.trans hread)
  exact ⟨hbare, hquoted _ _ (by decide) (by decide), hquoted _ _ (by decide) (by decide)⟩

/-- A column called `KEY_NO` is declared by its quoted name only. -/
theorem bare_key_no_declares_nothing :
    columnOfLine? [] "KEY_NO varchar(10)".toList = none ∧
      columnOfLine? [] "`KEY_NO` varchar(10)".toList =
        some ⟨"KEY_NO", "varchar(10)", "", false, true⟩ := by
  decide +kernel

end TableAtlas.Dump
