import TableAtlas.Proofs.DeclaredTable

/-!
# How the table comment is read

The comment of a table is the one that is set first among the options behind the column list. The
word `COMMENT` with no equals sign behind it, or with no text between quotes behind that, sets none
and is passed over, and what follows the first comment is not looked at.
-/

namespace TableAtlas.Dump

open Text

variable {k r s u v x : List Char}

/-- Whether the word `COMMENT` stands at the front, in any case, and sets the comment `x`. -/
def SetsComment (s x : List Char) : Prop :=
  ∃ k b b' r, s = k ++ (b ++ '=' :: (b' ++ (quotation x ++ r))) ∧ fold k = "COMMENT".toList ∧
    (∀ c ∈ b, isBlank c = true) ∧ (∀ c ∈ b', isBlank c = true) ∧ x ≠ [] ∧ '\'' ∉ x

/-- Why the word `COMMENT` sets no comment, by the text `r` behind it. -/
inductive LacksComment (r : List Char) : Prop
  | unset (h : ∀ b t, (∀ c ∈ b, isBlank c = true) → r ≠ b ++ '=' :: t)
  | unquoted {b t : List Char} (hb : ∀ c ∈ b, isBlank c = true) (hr : r = b ++ '=' :: t)
    (ht : LacksEnclosed '\'' '\'' t)

theorem commentOption?_iff_setsComment (s x : List Char) :
    commentOption? s = some x ↔ SetsComment s x := by
  rw [readsQuotation_commentOption?.eq_some_iff]
  constructor
  · rintro ⟨_, r, ⟨k, b, b', rfl, hk, hb, hb'⟩, rfl, hne, hx⟩
    exact ⟨k, b, b', r, by simp [quotation], hk, hb, hb', hne, hx⟩
  · rintro ⟨k, b, b', r, rfl, hk, hb, hb', hne, hx⟩
    exact ⟨_, r, ⟨k, b, b', rfl, hk, hb, hb'⟩, by simp [quotation], hne, hx⟩

/-! ## Words that set no comment -/

theorem commentOption?_append (hk : fold k = "COMMENT".toList) (r : List Char) :
    commentOption? (k ++ r) = (afterChar? '=' (r.dropWhile isBlank)).bind fun t =>
      enclosed? '\'' '\'' (t.dropWhile isBlank) := by
  simp only [commentOption?, afterKeyword?_of_fold hk (by decide), bind, Option.bind_some]

theorem lacksComment_iff (hk : fold k = "COMMENT".toList) :
    LacksComment r ↔ ∀ x, ¬ SetsComment (k ++ r) x := by
  have hreads : (∀ x, ¬ SetsComment (k ++ r) x) ↔
      ∀ t, (∃ b, (∀ c ∈ b, isBlank c = true) ∧ r = b ++ '=' :: t) → LacksEnclosed '\'' '\'' t := by
    simp only [← commentOption?_iff_setsComment, ← ne_eq, ← Option.eq_none_iff_forall_ne_some,
      commentOption?_append hk, Option.bind_eq_none_iff, afterChar?_eq_some_iff,
      dropWhile_blank_eq_cons_iff (d := '=') (by decide),
      lacksEnclosed_iff (o := '\'') (c := '\'') (by decide)]
  rw [hreads]
  constructor
  · rintro h t ⟨b, hb, rfl⟩
    cases h with
    | unset h => exact absurd rfl (h b t hb)
    | unquoted hb' hr ht =>
      have hend : ∀ t, ∀ c ∈ ('=' :: t).head?, isBlank c = false := fun t =>
        forall_mem_head?_cons (by decide)
      obtain ⟨-, hrest⟩ := run_unique hb (hend _) hb' (hend _) hr
      rwa [(List.cons.inj hrest).2]
  · intro h
    by_cases hset : ∃ b t, (∀ c ∈ b, isBlank c = true) ∧ r = b ++ '=' :: t
    · obtain ⟨b, t, hb, hr⟩ := hset
      exact .unquoted hb hr (h t ⟨b, hb, hr⟩)
    · exact .unset fun b t hb hr => hset ⟨b, t, hb, hr⟩

/-- A comment is the leftmost one if all the words `COMMENT` before it set none. -/
theorem leftmost_of_lacksComment (h : SetsComment v x)
    (hlack : ∀ a k r, u ++ v = a ++ (k ++ r) → fold k = "COMMENT".toList →
      a.length < u.length → LacksComment r) : Leftmost SetsComment (u ++ v) x := by
  refine ⟨u, v, rfl, h, ?_⟩
  rintro a s hs hlength y ⟨k, b, b', t, rfl, hk, hrest⟩
  exact (lacksComment_iff hk).1 (hlack a k _ hs hk hlength) y ⟨k, b, b', t, rfl, hk, hrest⟩

/-! ## The comment -/

theorem ne_nil_of_leftmost (h : Leftmost SetsComment s x) : x ≠ [] := by
  obtain ⟨u, v, -, ⟨k, b, b', r, -, -, -, -, hne, -⟩, -⟩ := h
  exact hne

theorem tableComment_eq_iff (hx : x ≠ []) : tableComment s = x ↔ Leftmost SetsComment s x := by
  rw [← search?_eq_some_iff_leftmost commentOption?_iff_setsComment, tableComment]
  cases search? commentOption? s with
  | none => simpa using hx.symm
  | some y => simp

theorem tableComment_eq_nil_iff :
    tableComment s = [] ↔ ∀ u v x, s = u ++ v → ¬ SetsComment v x := by
  rw [← search?_eq_none_iff_forall commentOption?_iff_setsComment, tableComment]
  cases hsearch : search? commentOption? s with
  | none => simp
  | some y =>
    have hleftmost := (search?_eq_some_iff_leftmost commentOption?_iff_setsComment).1 hsearch
    simpa using ne_nil_of_leftmost hleftmost

/-- The comment of a table is the leftmost one that is set, so there is one at most, and it is empty
if none is set. Earlier words `COMMENT` that set none do not hide one. -/
theorem tableComment_reads_leftmost_comment (trailing : List Char) :
    (∀ x, Leftmost SetsComment trailing x ↔ tableComment trailing = x ∧ x ≠ []) ∧
      (tableComment trailing = [] ↔ ∀ u v x, trailing = u ++ v → ¬ SetsComment v x) ∧
      ∀ u v x, trailing = u ++ v → SetsComment v x →
        (∀ a k r, trailing = a ++ (k ++ r) → fold k = "COMMENT".toList → a.length < u.length →
          LacksComment r) →
        tableComment trailing = x := by
  refine ⟨fun x => ?_, tableComment_eq_nil_iff, ?_⟩
  · constructor
    · intro h
      have hne := ne_nil_of_leftmost h
      exact ⟨(tableComment_eq_iff hne).2 h, hne⟩
    · rintro ⟨h, hne⟩
      exact (tableComment_eq_iff hne).1 h
  · rintro u v x rfl h hlack
    have hleftmost := leftmost_of_lacksComment h hlack
    exact (tableComment_eq_iff (ne_nil_of_leftmost hleftmost)).2 hleftmost

/-- Words that set nothing, an empty text or none in quotes, and a second comment behind the
first. -/
theorem tableComment_passes_over_unset_words :
    let u := " COMMENT 'a', comment = '', COMMENT=b, ".toList
    let v := "Comment\n=\t'it (s)\n'; COMMENT = 'c'".toList
    let x := "it (s)\n".toList
    SetsComment v x ∧
      (∀ a k r, u ++ v = a ++ (k ++ r) → fold k = "COMMENT".toList → a.length < u.length →
        LacksComment r) ∧
      tableComment (u ++ v) = x := by
  intro u v x
  have hset : SetsComment v x := (commentOption?_iff_setsComment v x).1 (by decide +kernel)
  have hearlier : ∀ i < u.length, commentOption? ((u ++ v).drop i) = none := by decide +kernel
  have hlack : ∀ a k r, u ++ v = a ++ (k ++ r) → fold k = "COMMENT".toList →
      a.length < u.length → LacksComment r := by
    intro a k r h hk hlength
    refine (lacksComment_iff hk).2 fun y hy => ?_
    have hnone := hearlier a.length hlength
    rw [h, List.drop_left, (commentOption?_iff_setsComment _ y).2 hy] at hnone
    cases hnone
  exact ⟨hset, hlack, (tableComment_reads_leftmost_comment (u ++ v)).2.2 u v x rfl hset hlack⟩

end TableAtlas.Dump
