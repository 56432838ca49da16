import TableAtlas.Dump.Name
import TableAtlas.Proofs.Boundary

/-!
# Leading names

A name at the front of a text is a word, and what stands behind it is an end of the text. It is
the same in every text that goes on differently behind a character of another class.
-/

namespace TableAtlas

open Text

/-- A run of word characters. -/
structure IsWordRun (w : List Char) : Prop where
  ne_nil : w ≠ []
  isWord : ∀ c ∈ w, Text.isWord c = true

/-- A run begins with no character of a class that has no word characters. -/
theorem IsWordRun.head_not {w : List Char} (h : IsWordRun w) {p : Char → Bool}
    (hp : ∀ c, p c = true → Text.isWord c = false) (s : List Char) :
    ∀ c ∈ (w ++ s).head?, p c = false := by
  obtain ⟨c, cs, rfl⟩ := List.exists_cons_of_ne_nil h.ne_nil
  refine forall_mem_head?_cons ?_
  cases hc : p c with
  | false => rfl
  | true => simpa [hp c hc] using h.isWord c (by simp)

theorem IsWordRun.not_mem {w : List Char} (h : IsWordRun w) {c : Char}
    (hc : Text.isWord c = false) : c ∉ w := by
  intro hmem
  rw [h.isWord c hmem] at hc
  cases hc

theorem Dump.isWord_of_isBlank {c : Char} (h : isBlank c = true) : isWord c = false := by
  have htable : ∀ r ∈ blankRanges, ∀ i ∈ List.range (r.2 - r.1 + 1),
      inRanges (r.1 + i) wordRanges = false := by
    decide +kernel
  obtain ⟨r, hr, hlo, hhi⟩ := exists_range_of_inRanges h
  have hi := htable r hr (c.toNat - r.1) (by rw [List.mem_range]; omega)
  rwa [Nat.add_sub_cancel' hlo] at hi

theorem Dump.not_blank_of_isWord {c : Char} (h : isWord c = true) : isBlank c = false := by
  cases hblank : isBlank c with
  | false => rfl
  | true => simpa [h] using Dump.isWord_of_isBlank hblank

theorem IsWordRun.not_blank {w : List Char} (h : IsWordRun w) {c : Char} (hc : c ∈ w) :
    isBlank c = false :=
  Dump.not_blank_of_isWord (h.isWord c hc)

theorem isWordRun_takeWhile {s : List Char} (h : (s.takeWhile isWord).isEmpty = false) :
    IsWordRun (s.takeWhile isWord) where
  ne_nil := by simpa using h
  isWord := fun c hc => List.all_eq_true.1 List.all_takeWhile c hc

namespace Dump

variable {s : List Char} {d : Char}

theorem isWord_of_isQuote {c : Char} (h : isQuote c = true) : isWord c = false := by
  have hquotes : ∀ x ∈ ['\x60', '"', '\''], isWord x = false := by decide
  exact hquotes c (by simpa [isQuote, or_assoc] using h)

theorem isBlank_of_isQuote {c : Char} (h : isQuote c = true) : isBlank c = false := by
  have hquotes : ∀ x ∈ ['\x60', '"', '\''], isBlank x = false := by decide
  exact hquotes c (by simpa [isQuote, or_assoc] using h)

theorem dropQuote_append_cons (hd : isQuote d = false) (u v : List Char) :
    dropQuote (u ++ d :: v) = dropQuote u ++ d :: v := by
  cases u with
  | nil => simp [dropQuote, hd]
  | cons c u => cases hc : isQuote c <;> simp [dropQuote, hc]

theorem dropQuote_suffix (s : List Char) : dropQuote s <:+ s := by
  cases s with
  | nil => exact List.suffix_refl []
  | cons c s =>
    rw [dropQuote]
    split
    · exact List.suffix_cons c s
    · exact List.suffix_refl _

/-- A name ends before a character that is neither of a word nor a quote. -/
theorem leadingName?_append_cons (hw : isWord d = false) (hq : isQuote d = false)
    (u v : List Char) :
    leadingName? (u ++ d :: v) = (leadingName? u).map fun r => (r.1, r.2 ++ d :: v) := by
  simp only [leadingName?, dropQuote_append_cons hq, takeWhile_append_cons hw,
    dropWhile_append_cons hw]
  split <;> rfl

theorem leadingName?_suffix {n r : List Char} (h : leadingName? s = some (n, r)) : r <:+ s := by
  simp only [leadingName?] at h
  split at h
  · cases h
  · obtain ⟨-, rfl⟩ := Prod.mk.inj (Option.some.inj h)
    exact (dropQuote_suffix _).trans ((List.dropWhile_suffix _).trans (dropQuote_suffix s))

theorem isWordRun_of_leadingName? {n r : List Char} (h : leadingName? s = some (n, r)) :
    IsWordRun n := by
  simp only [leadingName?] at h
  split at h
  case isTrue => cases h
  case isFalse hne =>
    obtain ⟨rfl, -⟩ := Prod.mk.inj (Option.some.inj h)
    exact isWordRun_takeWhile (by simpa using hne)

theorem exists_dropQuote (s : List Char) :
    ∃ q, s = q ++ dropQuote s ∧ q.length ≤ 1 ∧ ∀ c ∈ q, isQuote c = true := by
  cases s with
  | nil => exact ⟨[], by simp [dropQuote]⟩
  | cons c s =>
    cases hc : isQuote c with
    | true => exact ⟨[c], by simp [dropQuote, hc]⟩
    | false => exact ⟨[], by simp [dropQuote, hc]⟩

theorem dropQuote_append {q t : List Char} (hlength : q.length ≤ 1)
    (hquote : ∀ c ∈ q, isQuote c = true) (ht : ∀ c ∈ t.head?, isQuote c = false) :
    dropQuote (q ++ t) = t := by
  match q, hlength with
  | [], _ =>
    cases t with
    | nil => rfl
    | cons c t => simp [dropQuote, ht c rfl]
  | [c], _ => simp [dropQuote, hquote c (by simp)]

/-- A name is read up to the end of its word, and its closing quote is left out of the rest. -/
theorem leadingName?_eq_some_iff {n r : List Char} :
    leadingName? s = some (n, r) ↔ ∃ q t, s = q ++ (n ++ t) ∧ q.length ≤ 1 ∧
      (∀ c ∈ q, isQuote c = true) ∧ IsWordRun n ∧ (∀ c ∈ t.head?, isWord c = false) ∧
      dropQuote t = r := by
  constructor
  · intro hname
    obtain ⟨q, hs, hlength, hquote⟩ := exists_dropQuote s
    obtain ⟨u, v, hrun, hu, hv⟩ := exists_run isWord (dropQuote s)
    have hn : n = u ∧ dropQuote v = r := by
      simp only [leadingName?, hrun, takeWhile_run hu hv, dropWhile_run hu hv] at hname
      split at hname
      · cases hname
      · obtain ⟨hn, hr⟩ := Prod.mk.inj (Option.some.inj hname)
        exact ⟨hn.symm, hr⟩
    exact ⟨q, v, by rw [hn.1, ← hrun, ← hs], hlength, hquote, isWordRun_of_leadingName? hname, hv,
      hn.2⟩
  · rintro ⟨q, t, rfl, hlength, hquote, hn, ht, rfl⟩
    have hdrop : dropQuote (q ++ (n ++ t)) = n ++ t :=
      dropQuote_append hlength hquote (hn.head_not (fun _ => isWord_of_isQuote) t)
    have hne : n.isEmpty = false := by simpa using hn.ne_nil
    simp [leadingName?, hdrop, takeWhile_run hn.isWord ht, dropWhile_run hn.isWord ht, hne]

/-- A bare word is read as a name. -/
theorem leadingName?_bare {w : List Char} (hw : IsWordRun w)
    (hs : ∀ c ∈ s.head?, isWord c = false) :
    leadingName? (w ++ s) = some (w, dropQuote s) :=
  leadingName?_eq_some_iff.2 ⟨[], s, rfl, by simp, by simp, hw, hs, rfl⟩

/-- A word between quotes, which need not match, is read as a name. -/
theorem leadingName?_quoted {a b : Char} (ha : isQuote a = true) (hb : isQuote b = true)
    {w : List Char} (hw : IsWordRun w) (s : List Char) :
    leadingName? (a :: (w ++ b :: s)) = some (w, s) :=
  leadingName?_eq_some_iff.2 ⟨[a], b :: s, rfl, by simp, by simpa using ha, hw,
    forall_mem_head?_cons (isWord_of_isQuote hb), by simp [dropQuote, hb]⟩

theorem isWordRun_of_tableName? {n : List Char} (h : tableName? s = some n) : IsWordRun n := by
  obtain ⟨⟨n, r⟩, hname, rfl⟩ := Option.map_eq_some_iff.1 h
  rcases Option.or_eq_some_iff.1 hname with hguarded | ⟨-, hplain⟩
  · obtain ⟨t, -, ht⟩ := Option.bind_eq_some_iff.1 hguarded
    exact isWordRun_of_leadingName? ht
  · exact isWordRun_of_leadingName? hplain

end Dump

end TableAtlas
