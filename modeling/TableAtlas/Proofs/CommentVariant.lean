import TableAtlas.Proofs.RoundTrip

/-!
# Dumps that differ in comments

Two dumps are compared that are the same but for the texts between the quotes of column comments.
A comment stands in a column list behind the word `COMMENT` and blanks on the same line, and not
within parentheses that open behind a word, such as the arguments of a type or a key list. What is
asked of its two texts is left open here. Wherever a column list is cut, at its closing
parenthesis or at a line break, the two dumps are cut at the same place, and the pieces differ
again in nothing but comments.
-/

namespace TableAtlas.Dump

open Text

/-! ## Variants -/

/-- What may stand between the quotes of a comment. -/
@[mk_iff]
structure IsCommentText (t : List Char) : Prop where
  ne_nil : t ≠ []
  no_quote : '\'' ∉ t
  no_break : ∀ x ∈ t, isLineBreak x = false

/-- Whether a text ends in the word `COMMENT` and blanks that stay on its line. -/
def EndsInComment (u : List Char) : Prop :=
  ∃ v k b, u = v ++ (k ++ b) ∧ fold k = "COMMENT".toList ∧ b ≠ [] ∧
    ∀ x ∈ b, isBlank x = true ∧ isLineBreak x = false

/-- Whether every parenthesis that a text opens behind a word has a closing one behind it. -/
def ClosesLists (u : List Char) : Prop :=
  ∀ v c b w, u = v ++ c :: (b ++ '(' :: w) → isWord c = true → (∀ x ∈ b, isBlank x = true) →
    ')' ∈ w

/-- What may stand in front of a comment, from the last one or from the beginning of the list. -/
structure IsCommentFront (u : List Char) : Prop where
  ends : EndsInComment u
  closes_lists : ClosesLists u
  no_heading : occurs startsHeading u = false

/-- Column lists with the table options behind them that differ in the texts of comments. What
stands in front of a comment and its two texts are as `ok` asks. -/
inductive ListVariant (ok : List Char → List Char → List Char → Prop) :
    List Char → List Char → Prop
  | same {s : List Char} (h : occurs startsHeading s = false) : ListVariant ok s s
  | comment {u x y s t : List Char} (hu : IsCommentFront u) (hx : IsCommentText x)
      (hy : IsCommentText y) (hok : ok u x y) (h : ListVariant ok s t) :
      ListVariant ok (u ++ (quotation x ++ s)) (u ++ (quotation y ++ t))

/-- Statements that differ in the texts of comments behind their first parenthesis. -/
inductive StatementVariant (ok : List Char → List Char → List Char → Prop) :
    List Char → List Char → Prop
  | same {s : List Char} (h : occurs startsHeading s = false) : StatementVariant ok s s
  | list {front s t : List Char} (hparen : '(' ∉ front)
      (hfront : occurs startsHeading front = false) (h : ListVariant ok s t) :
      StatementVariant ok (front ++ '(' :: s) (front ++ '(' :: t)

/-- Dumps that differ in the texts of column comments. -/
inductive DumpVariant (ok : List Char → List Char → List Char → Prop) :
    List Char → List Char → Prop
  | preamble {p : List Char} (h : occurs startsHeading p = false) : DumpVariant ok p p
  | statement {a b w s t : List Char} (hab : DumpVariant ok a b) (hw : IsHeading w)
      (h : StatementVariant ok s t) : DumpVariant ok (a ++ (w ++ s)) (b ++ (w ++ t))

/-- What stands behind the last line break. -/
def lastLine (u : List Char) : List Char := (u.reverse.takeWhile (!isLineBreak ·)).reverse

/-- Two texts of a comment in which nothing is found that is searched for elsewhere, or the same
in both: they begin no statement and no key list, they leave the same number of parentheses open
and close none but their own, and the words `NOT NULL` stand in both or in none of them, unless
they stand before the comment on its line. -/
@[mk_iff]
structure Harmless (u x y : List Char) : Prop where
  no_heading : ∀ t ∈ [x, y], occurs startsHeading t = false
  no_keyList : ∀ t ∈ [x, y], occurs opensKeyList t = false
  parens : (depth? 0 x).isSome ∧ depth? 0 x = depth? 0 y
  notNull : occurs (hasKeyword "NOT NULL".toList) (lastLine u) = true ∨
    occurs (hasKeyword "NOT NULL".toList) x = occurs (hasKeyword "NOT NULL".toList) y

instance (t : List Char) : Decidable (IsCommentText t) :=
  decidable_of_iff' _ (isCommentText_iff t)

instance (u x y : List Char) : Decidable (Harmless u x y) :=
  decidable_of_iff' _ (harmless_iff u x y)

variable {ok : List Char → List Char → List Char → Prop} {u v x y s t : List Char}

theorem append_quotation (u x s : List Char) :
    u ++ (quotation x ++ s) = u ++ '\'' :: (x ++ '\'' :: s) := by
  simp [quotation]

theorem no_heading_of_infix (h : occurs startsHeading s = false) (hv : v <:+: s) :
    occurs startsHeading v = false := by
  rw [← Bool.not_eq_true, occurs_startsHeading_iff]
  exact fun hcontains => not_contains_heading_of_occurs h (hcontains.mono hv)

/-! ## What stands in front of a comment -/

theorem ClosesLists.of_suffix (h : ClosesLists u) (hv : v <:+ u) : ClosesLists v := by
  obtain ⟨z, rfl⟩ := hv
  rintro a c b w rfl
  exact h (z ++ a) c b w (by simp)

theorem not_lineBreak_of_not_blank {c : Char} (h : isBlank c = false) : isLineBreak c = false := by
  by_contra hbreak
  rw [Bool.not_eq_false] at hbreak
  rw [isBlank_of_isLineBreak hbreak] at h
  cases h

/-- A comment stands in front of its text on one line. -/
theorem EndsInComment.of_break {c : Char} (h : EndsInComment (u ++ c :: v))
    (hc : isLineBreak c = true) : EndsInComment v := by
  obtain ⟨z, k, b, hz, hk, hne, hb⟩ := h
  have hnotblank := not_blank_of_mem_fold hk (by decide)
  have hbehind : c ∉ k ++ b := by
    intro hmem
    rcases List.mem_append.1 hmem with hmem | hmem
    · rw [not_lineBreak_of_not_blank (hnotblank c hmem)] at hc
      cases hc
    · rw [(hb c hmem).2] at hc
      cases hc
  obtain ⟨a, -, hv⟩ := exists_front_of_not_mem hbehind hz
  exact ⟨a, k, b, hv, hk, hne, hb⟩

theorem IsCommentFront.of_break {c : Char} (h : IsCommentFront (u ++ c :: v))
    (hc : isLineBreak c = true) : IsCommentFront v where
  ends := h.ends.of_break hc
  closes_lists := h.closes_lists.of_suffix ((List.suffix_cons c v).trans (List.suffix_append u _))
  no_heading := no_heading_of_infix h.no_heading
    ((List.suffix_cons c v).trans (List.suffix_append u _)).isInfix

theorem lastLine_append_break {c : Char} (hc : isLineBreak c = true) (u v : List Char) :
    lastLine (u ++ c :: v) = lastLine v := by
  have hreverse : (u ++ c :: v).reverse = v.reverse ++ c :: u.reverse := by simp
  rw [lastLine, hreverse, takeWhile_append_cons (by simp [hc]), lastLine]

theorem Harmless.of_break {c : Char} (h : Harmless (u ++ c :: v) x y)
    (hc : isLineBreak c = true) : Harmless v x y where
  no_heading := h.no_heading
  no_keyList := h.no_keyList
  parens := h.parens
  notNull := by
    have hline := h.notNull
    rwa [lastLine_append_break hc] at hline

theorem Harmless.symm (h : Harmless u x y) : Harmless u y x where
  no_heading t ht := h.no_heading t (by simpa [or_comm] using ht)
  no_keyList t ht := h.no_keyList t (by simpa [or_comm] using ht)
  parens := ⟨h.parens.2 ▸ h.parens.1, h.parens.2.symm⟩
  notNull := h.notNull.imp_right Eq.symm

theorem ListVariant.symm (h : ListVariant Harmless s t) : ListVariant Harmless t s := by
  induction h with
  | same h => exact .same h
  | comment hu hx hy hok _ ih => exact .comment hu hy hx hok.symm ih

/-! ## Cuts -/

theorem depth?_quotation {n : Nat} (hx : depth? 0 x = some n) (d : Nat) (s : List Char) :
    depth? d (quotation x ++ s) = depth? (d + n) s := by
  have hpieces : quotation x ++ s = '\'' :: (x ++ '\'' :: s) := append_quotation [] x s
  have hdeeper : depth? d x = some (n + d) := by simpa using depth?_add hx d
  rw [hpieces, depth?_cons (by decide) (by decide), depth?_append, hdeeper, Option.bind_some,
    depth?_cons (by decide) (by decide), Nat.add_comm]

/-- Variants close a depth in the same place or neither does. -/
theorem ListVariant.cut_close (h : ListVariant Harmless s t) (d : Nat) :
    (∃ e, depth? d s = some e ∧ depth? d t = some e) ∨
      ∃ p q p' q', s = p ++ ')' :: q ∧ t = p' ++ ')' :: q' ∧ depth? d p = some 0 ∧
        depth? d p' = some 0 ∧ ListVariant Harmless p p' := by
  induction h generalizing d with
  | @same s h =>
    cases hs : depth? d s with
    | some e => exact .inl ⟨e, rfl, rfl⟩
    | none =>
      obtain ⟨p, q, rfl, hp⟩ := exists_close_of_depth?_eq_none hs
      have hsame := no_heading_of_infix h (List.prefix_append p _).isInfix
      exact .inr ⟨p, q, p, q, rfl, rfl, hp, hp, .same hsame⟩
  | @comment u x y s t hu hx hy hok _ ih =>
    cases hdepth : depth? d u with
    | none =>
      obtain ⟨p, q, rfl, hp⟩ := exists_close_of_depth?_eq_none hdepth
      have hsame := no_heading_of_infix hu.no_heading (List.prefix_append p _).isInfix
      exact .inr ⟨p, q ++ (quotation x ++ s), p, q ++ (quotation y ++ t), by simp, by simp, hp, hp,
        .same hsame⟩
    | some e =>
      -- Both texts lead on from the same depth, which is why only the number left open counts.
      obtain ⟨n, hxn⟩ := Option.isSome_iff_exists.1 hok.parens.1
      have hyn : depth? 0 y = some n := hok.parens.2 ▸ hxn
      have hthrough : ∀ {z : List Char}, depth? 0 z = some n → ∀ r,
          depth? d (u ++ (quotation z ++ r)) = depth? (e + n) r := by
        intro z hz r
        rw [depth?_append, hdepth, Option.bind_some, depth?_quotation hz]
      rcases ih (e + n) with ⟨m, hs, ht⟩ | ⟨p, q, p', q', rfl, rfl, hp, hp', hvariant⟩
      · exact .inl ⟨m, by rw [hthrough hxn, hs], by rw [hthrough hyn, ht]⟩
      · exact .inr ⟨u ++ (quotation x ++ p), q, u ++ (quotation y ++ p'), q', by simp, by simp,
          by rw [hthrough hxn, hp], by rw [hthrough hyn, hp'], .comment hu hx hy hok hvariant⟩

theorem exists_break (s : List Char) :
    (∀ x ∈ s, isLineBreak x = false) ∨
      ∃ l c r, isLineBreak c = true ∧ s = l ++ c :: r ∧ ∀ x ∈ l, isLineBreak x = false := by
  obtain ⟨l, v, rfl, hl, hv⟩ := exists_run (!isLineBreak ·) s
  have hline : ∀ x ∈ l, isLineBreak x = false := by simpa using hl
  cases v with
  | nil => exact .inl (by simpa using hline)
  | cons c r => exact .inr ⟨l, c, r, by simpa using hv, rfl, hline⟩

/-- Variants break their first lines in the same place or neither does. -/
theorem ListVariant.cut_break (h : ListVariant Harmless s t) :
    ((∀ x ∈ s, isLineBreak x = false) ∧ ∀ x ∈ t, isLineBreak x = false) ∨
      ∃ l c r l' r', isLineBreak c = true ∧ s = l ++ c :: r ∧ t = l' ++ c :: r' ∧
        (∀ x ∈ l, isLineBreak x = false) ∧ (∀ x ∈ l', isLineBreak x = false) ∧
        ListVariant Harmless l l' ∧ ListVariant Harmless r r' := by
  induction h with
  | @same s h =>
    rcases exists_break s with hs | ⟨l, c, r, hc, rfl, hl⟩
    · exact .inl ⟨hs, hs⟩
    · have hfront := no_heading_of_infix h (List.prefix_append l _).isInfix
      have hback := no_heading_of_infix h
        ((List.suffix_cons c r).trans (List.suffix_append l _)).isInfix
      exact .inr ⟨l, c, r, l, r, hc, rfl, rfl, hl, hl, .same hfront, .same hback⟩
  | @comment u x y s t hu hx hy hok hvariant ih =>
    -- A break in front of the comment leaves the comment in the rest, with its word.
    rcases exists_break u with hbreak | ⟨l, c, r, hc, rfl, hl⟩
    · have hline : ∀ {z : List Char}, IsCommentText z → ∀ {r : List Char},
          (∀ c ∈ r, isLineBreak c = false) →
          ∀ c ∈ u ++ (quotation z ++ r), isLineBreak c = false := by
        intro z hz r hr c hc
        simp only [quotation, List.mem_append, List.mem_cons, List.not_mem_nil, or_false] at hc
        rcases hc with hc | (rfl | hc | rfl) | hc
        · exact hbreak c hc
        · decide
        · exact hz.no_break c hc
        · decide
        · exact hr c hc
      rcases ih with ⟨hs, ht⟩ | ⟨l, c, r, l', r', hc, rfl, rfl, hl, hl', hfront, hback⟩
      · exact .inl ⟨hline hx hs, hline hy ht⟩
      · exact .inr ⟨u ++ (quotation x ++ l), c, r, u ++ (quotation y ++ l'), r', hc, by simp,
          by simp, hline hx hl, hline hy hl', .comment hu hx hy hok hfront, hback⟩
    · have hfront := no_heading_of_infix hu.no_heading (List.prefix_append l _).isInfix
      exact .inr ⟨l, c, r ++ (quotation x ++ s), l, r ++ (quotation y ++ t), hc, by simp, by simp,
        hl, hl, .same hfront, .comment (hu.of_break hc) hx hy (hok.of_break hc) hvariant⟩

/-! ## What is found in variants -/

theorem ListVariant.not_contains_heading (h : ListVariant Harmless s t) :
    ¬ Contains headingPhrase.Covers s := by
  induction h with
  | same h => exact not_contains_heading_of_occurs h
  | @comment u x y s t hu hx hy hok _ ih =>
    have hquote : headingPhrase.IsDivider '\'' := by decide
    rw [append_quotation, Phrase.contains_append_cons hquote, Phrase.contains_append_cons hquote]
    rintro (h | h | h)
    · exact not_contains_heading_of_occurs hu.no_heading h
    · exact not_contains_heading_of_occurs (hok.no_heading x (by simp)) h
    · exact ih h

theorem lastLine_suffix (u : List Char) : lastLine u <:+ u := by
  rw [lastLine, ← List.reverse_prefix, List.reverse_reverse]
  exact List.takeWhile_prefix _

theorem Harmless.contains_notNull_iff (h : Harmless u x y) :
    Contains notNullPhrase.Covers u ∨ Contains notNullPhrase.Covers x ↔
      Contains notNullPhrase.Covers u ∨ Contains notNullPhrase.Covers y := by
  rcases h.notNull with hfront | hsame
  · have hu := (occurs_notNull_iff.1 hfront).mono (lastLine_suffix u).isInfix
    simp [hu]
  · rw [← occurs_notNull_iff (s := x), hsame, occurs_notNull_iff]

/-- The words `NOT NULL` are found in both variants or in none. -/
theorem ListVariant.contains_notNull_iff (h : ListVariant Harmless s t) :
    Contains notNullPhrase.Covers s ↔ Contains notNullPhrase.Covers t := by
  induction h with
  | same => exact Iff.rfl
  | @comment u x y s t hu hx hy hok _ ih =>
    have hquote : notNullPhrase.IsDivider '\'' := by decide
    rw [append_quotation, append_quotation, Phrase.contains_append_cons hquote,
      Phrase.contains_append_cons hquote, Phrase.contains_append_cons hquote,
      Phrase.contains_append_cons hquote, ← or_assoc, ← or_assoc, hok.contains_notNull_iff, ih]

/-! ## Key lists -/

theorem quote_not_mem_keyOpening : ∀ w, IsKeyOpening w → '\'' ∉ w := by
  apply not_mem_keyOpening
  all_goals decide

/-- The parenthesis of a key list opens behind a word. -/
theorem ClosesLists.of_keyOpening {k b w : List Char} (hu : ClosesLists u)
    (h : u = k ++ b ++ '(' :: w) (hk : fold k = "PRIMARY KEY".toList)
    (hb : ∀ x ∈ b, isBlank x = true) : ')' ∈ w := by
  have hsplit : "PRIMARY KEY".toList = "PRIMARY KE".toList ++ ['Y'] := by decide
  rw [hsplit] at hk
  obtain ⟨v, r, rfl, -, hr⟩ := fold_eq_append_iff.1 hk
  obtain ⟨c, rfl, hc⟩ := List.map_eq_singleton_iff.1 hr
  have hword : isWord c = true := by
    have hletter := (sameLetter_iff (k := 'Y') (by decide)).2 hc
    simp only [sameLetter, Bool.or_eq_true, decide_eq_true_eq] at hletter
    rcases hletter with (rfl | rfl) | h
    · decide
    · decide
    · cases h
  exact hu v c b w (by simpa using h) hword hb

/-- A key list is read to its end before a comment, or not at all. -/
theorem keyList?_append_quote (hu : ClosesLists u) (v : List Char) :
    keyList? (u ++ '\'' :: v) = keyList? u := by
  ext list
  rw [keyList?_eq_some_iff, keyList?_eq_some_iff]
  constructor
  · rintro ⟨w, r, hw, h, hne, hlist⟩
    have hquote := quote_not_mem_keyOpening w hw
    obtain ⟨k, b, rfl, hk, hb⟩ := hw
    rcases List.append_eq_append_iff.1 h with ⟨a, ha, hrest⟩ | ⟨a, rfl, hrest⟩
    · cases a with
      | nil =>
        have hopen := hu.of_keyOpening (w := []) (by simpa using ha.symm) hk hb
        simp at hopen
      | cons d a =>
        obtain ⟨rfl, -⟩ := List.cons.inj hrest
        simp [ha] at hquote
    · have hclose := hu.of_keyOpening (w := a) (by simp) hk hb
      obtain ⟨r', rfl⟩ := exists_cut_of_append hclose hlist hrest.symm
      exact ⟨_, r', ⟨k, b, rfl, hk, hb⟩, rfl, hne, hlist⟩
  · rintro ⟨w, r, hw, rfl, hne, hlist⟩
    exact ⟨w, r ++ '\'' :: v, hw, by simp, hne, hlist⟩

theorem search?_keyList?_append_quote (hu : ClosesLists u) (v : List Char) :
    search? keyList? (u ++ '\'' :: v) = (search? keyList? u).or (search? keyList? v) := by
  induction u with
  | nil => exact search?_keyList?_cons (by decide) v
  | cons c u ih =>
    have hrest := ih (hu.of_suffix (List.suffix_cons c u))
    have hfront := keyList?_append_quote hu v
    rw [List.cons_append] at hfront
    rw [List.cons_append, search?, search?, hfront, hrest, Option.or_assoc]

theorem Harmless.not_contains_keyOpening (h : Harmless u x y) : ¬ Contains IsKeyOpening x := by
  rw [← occurs_opensKeyList_iff, h.no_keyList x (by simp)]
  simp

/-- No key list is read from the text of a comment. -/
theorem search?_keyList?_comment (hu : ClosesLists u) (hx : ¬ Contains IsKeyOpening x)
    (s : List Char) :
    search? keyList? (u ++ (quotation x ++ s)) = (search? keyList? u).or (search? keyList? s) := by
  rw [append_quotation, search?_keyList?_append_quote hu,
    search?_keyList?_append hx quote_not_mem_keyOpening, search?_keyList?_cons (by decide)]

theorem ListVariant.keyNames_eq (h : ListVariant Harmless s t) : keyNames s = keyNames t := by
  have hsearch : search? keyList? s = search? keyList? t := by
    induction h with
    | same => rfl
    | @comment u x y s t hu hx hy hok _ ih =>
      rw [search?_keyList?_comment hu.closes_lists hok.not_contains_keyOpening,
        search?_keyList?_comment hu.closes_lists hok.symm.not_contains_keyOpening, ih]
  rw [keyNames, hsearch, keyNames]

end TableAtlas.Dump
