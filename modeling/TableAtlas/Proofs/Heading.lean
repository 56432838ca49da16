import Mathlib.Data.List.Infix
import TableAtlas.Dump.Statement
import TableAtlas.Proofs.Boundary
import TableAtlas.Proofs.Folding

/-!
# Headings

The letter C stands at the front of a heading and nowhere else in it. So no heading begins
inside another, no heading reaches over a place at which one begins, and a dump has one
statement for every place at which a heading stands.
-/

namespace TableAtlas.Dump

open Text

/-- The word `CREATE`, blanks and the word `TABLE`, in any case. -/
def IsHeading (w : List Char) : Prop :=
  ∃ c b t, w = c ++ b ++ t ∧ fold c = "CREATE".toList ∧ b ≠ [] ∧ (∀ x ∈ b, isBlank x = true) ∧
    fold t = "TABLE".toList

/-- Whether a heading stands at the front. -/
def startsHeading (s : List Char) : Bool := (afterHeading? s).isSome

/-- The texts behind headings, one for every place at which a heading stands. -/
def headings (s : List Char) : List (List Char) := s.tails.filterMap afterHeading?

/-- The text before the first heading. -/
def untilHeading : List Char → List Char
  | [] => []
  | c :: cs => if startsHeading (c :: cs) then [] else c :: untilHeading cs

theorem afterBlanks?_eq_some_iff {s r : List Char} :
    afterBlanks? s = some r ↔
      ∃ b, b ≠ [] ∧ (∀ x ∈ b, isBlank x = true) ∧ s = b ++ r ∧
        ∀ x ∈ r.head?, isBlank x = false := by
  constructor
  · intro h
    obtain ⟨b, t, rfl, hb, ht⟩ := exists_run isBlank s
    cases b with
    | nil =>
      cases t with
      | nil => simp [afterBlanks?] at h
      | cons c cs => simp [afterBlanks?, ht c rfl] at h
    | cons c cs =>
      have hcs : ∀ x ∈ cs, isBlank x = true := fun x hx => hb x (by simp [hx])
      rw [List.cons_append, afterBlanks?, if_pos (hb c (by simp)), dropWhile_run hcs ht] at h
      obtain rfl := Option.some.inj h
      exact ⟨c :: cs, by simp, hb, rfl, ht⟩
  · rintro ⟨_ | ⟨c, cs⟩, hne, hb, rfl, hr⟩
    · exact absurd rfl hne
    · have hcs : ∀ x ∈ cs, isBlank x = true := fun x hx => hb x (by simp [hx])
      rw [List.cons_append, afterBlanks?, if_pos (hb c (by simp)), dropWhile_run hcs hr]

theorem afterHeading?_eq_some_iff {s r : List Char} :
    afterHeading? s = some r ↔ ∃ w, IsHeading w ∧ s = w ++ r := by
  have hC : fold "CREATE".toList = "CREATE".toList := by decide
  have hT : fold "TABLE".toList = "TABLE".toList := by decide
  simp only [afterHeading?, bind, Option.bind_eq_some_iff, afterKeyword?_eq_some_iff_fold hC,
    afterKeyword?_eq_some_iff_fold hT, afterBlanks?_eq_some_iff]
  constructor
  · rintro ⟨_, ⟨c, hc, rfl⟩, _, ⟨b, hb, hblank, rfl, -⟩, t, ht, rfl⟩
    exact ⟨c ++ b ++ t, ⟨c, b, t, rfl, hc, hb, hblank, ht⟩, by simp⟩
  · rintro ⟨_, ⟨c, b, t, rfl, hc, hb, hblank, ht⟩, rfl⟩
    refine ⟨b ++ (t ++ r), ⟨c, hc, by simp⟩, t ++ r, ⟨b, hb, hblank, rfl, ?_⟩, t, ht, rfl⟩
    cases t with
    | nil => simp at ht
    | cons x xs =>
      intro y hy
      obtain rfl : x = y := by simpa using hy
      have hx : foldCase x = 'T' := (List.cons.inj ht).1
      rw [← isBlank_foldCase, hx]
      decide

/-- A heading begins with the only C in it. -/
theorem IsHeading.eq_cons {w : List Char} (h : IsHeading w) :
    ∃ x xs, w = x :: xs ∧ foldCase x = 'C' ∧ ∀ y ∈ xs, foldCase y ≠ 'C' := by
  obtain ⟨c, b, t, rfl, hc, -, hblank, ht⟩ := h
  cases c with
  | nil => simp at hc
  | cons x xs =>
    obtain ⟨hx, hxs⟩ := List.cons.inj hc
    refine ⟨x, xs ++ b ++ t, by simp, hx, ?_⟩
    intro y hy hyC
    rcases List.mem_append.1 hy with hy | hy
    · rcases List.mem_append.1 hy with hy | hy
      · have hmem : 'C' ∈ fold xs := hyC ▸ List.mem_map_of_mem hy
        rw [fold, hxs] at hmem
        exact absurd hmem (by decide)
      · have hb := hblank y hy
        rw [← isBlank_foldCase, hyC] at hb
        exact absurd hb (by decide)
    · have hmem : 'C' ∈ fold t := hyC ▸ List.mem_map_of_mem hy
      rw [ht] at hmem
      exact absurd hmem (by decide)

theorem startsHeading_iff {s : List Char} :
    startsHeading s = true ↔ ∃ w r, IsHeading w ∧ s = w ++ r := by
  rw [startsHeading, Option.isSome_iff_exists]
  simp only [afterHeading?_eq_some_iff]
  exact exists_comm

theorem foldCase_head_of_startsHeading {c : Char} {cs : List Char}
    (h : startsHeading (c :: cs) = true) : foldCase c = 'C' := by
  obtain ⟨w, r, hw, hs⟩ := startsHeading_iff.1 h
  obtain ⟨x, xs, rfl, hx, -⟩ := hw.eq_cons
  obtain ⟨rfl, -⟩ := List.cons.inj hs
  exact hx

theorem untilHeading_isPrefix (s : List Char) : untilHeading s <+: s := by
  induction s with
  | nil => exact List.prefix_refl []
  | cons c s ih =>
    rw [untilHeading]
    split
    · exact List.nil_prefix
    · exact (List.prefix_cons_inj c).2 ih

theorem untilHeading_cons_of_ne {c : Char} (h : foldCase c ≠ 'C') (s : List Char) :
    untilHeading (c :: s) = c :: untilHeading s := by
  rw [untilHeading, if_neg fun hfront => h (foldCase_head_of_startsHeading hfront)]

theorem afterHeading?_append {s r : List Char} (h : afterHeading? s = some r) (t : List Char) :
    afterHeading? (s ++ t) = some (r ++ t) := by
  obtain ⟨w, hw, rfl⟩ := afterHeading?_eq_some_iff.1 h
  exact afterHeading?_eq_some_iff.2 ⟨w, hw, by simp⟩

/-- No heading reaches over a place at which one begins. -/
theorem afterHeading?_of_append {a b r : List Char} (hb : startsHeading b = true) (ha : a ≠ [])
    (h : afterHeading? (a ++ b) = some r) : ∃ r', afterHeading? a = some r' ∧ r = r' ++ b := by
  obtain ⟨w, hw, hs⟩ := afterHeading?_eq_some_iff.1 h
  rcases List.append_eq_append_iff.1 hs with ⟨x, rfl, rfl⟩ | ⟨x, rfl, rfl⟩
  · cases x with
    | nil => exact ⟨[], afterHeading?_eq_some_iff.2 ⟨a, by simpa using hw, by simp⟩, by simp⟩
    | cons c cs =>
      obtain ⟨y, ys, hy, -, hys⟩ := hw.eq_cons
      obtain ⟨d, ds, rfl⟩ := List.exists_cons_of_ne_nil ha
      obtain ⟨-, rfl⟩ := List.cons.inj hy
      exact absurd (foldCase_head_of_startsHeading hb) (hys c (by simp))
  · exact ⟨x, afterHeading?_eq_some_iff.2 ⟨w, hw, rfl⟩, rfl⟩

theorem afterHeading?_nil : afterHeading? [] = none := rfl

theorem headings_cons (c : Char) (cs : List Char) :
    headings (c :: cs) = (afterHeading? (c :: cs)).toList ++ headings cs := by
  rw [headings, List.tails_cons, List.filterMap_cons]
  cases afterHeading? (c :: cs) <;> rfl

/-- What holds no C holds no front of a heading. -/
theorem headings_append_of_forall_ne {u : List Char} (hu : ∀ x ∈ u, foldCase x ≠ 'C')
    (t : List Char) : headings (u ++ t) = headings t := by
  induction u with
  | nil => rfl
  | cons c cs ih =>
    have hnone : afterHeading? (c :: (cs ++ t)) = none := by
      rw [← Option.not_isSome_iff_eq_none]
      exact fun h => hu c (by simp) (foldCase_head_of_startsHeading h)
    rw [List.cons_append, headings_cons, hnone]
    exact ih fun x hx => hu x (by simp [hx])

theorem segmentsFrom_of_heading {s rest : List Char} (h : afterHeading? s = some rest)
    (pending : List Char) : segmentsFrom 0 pending s = pending.reverse :: segments rest := by
  obtain ⟨w, hw, rfl⟩ := afterHeading?_eq_some_iff.1 h
  obtain ⟨x, xs, rfl, -, -⟩ := hw.eq_cons
  have hskip : (xs ++ rest).length - rest.length = xs.length := by simp
  rw [List.cons_append] at h ⊢
  rw [segmentsFrom, h]
  simp only [hskip]
  rw [segmentsFrom_eq_drop, List.drop_left, segments]

theorem segmentsFrom_of_none {c : Char} {cs : List Char} (h : afterHeading? (c :: cs) = none)
    (pending : List Char) :
    segmentsFrom 0 pending (c :: cs) = segmentsFrom 0 (c :: pending) cs := by
  rw [segmentsFrom, h]

theorem length_of_afterHeading? {s rest : List Char} (h : afterHeading? s = some rest) :
    rest.length < s.length := by
  obtain ⟨w, hw, rfl⟩ := afterHeading?_eq_some_iff.1 h
  obtain ⟨x, xs, rfl, -, -⟩ := hw.eq_cons
  simp only [List.cons_append, List.length_cons, List.length_append]
  omega

/-- A text at whose front a heading stands begins a statement wherever it is put. -/
theorem segmentsFrom_append {b : List Char} (hb : startsHeading b = true) (pending a : List Char) :
    segmentsFrom 0 pending (a ++ b) = segmentsFrom 0 pending a ++ statements b := by
  induction hn : a.length using Nat.strong_induction_on generalizing a pending with
  | _ n ih =>
    subst hn
    cases a with
    | nil =>
      obtain ⟨rest, hrest⟩ := Option.isSome_iff_exists.1 hb
      rw [List.nil_append, statements, segments, segmentsFrom_of_heading hrest,
        segmentsFrom_of_heading hrest]
      rfl
    | cons c cs =>
      cases h : afterHeading? (c :: cs) with
      | some rest =>
        rw [segmentsFrom_of_heading (afterHeading?_append h b), segmentsFrom_of_heading h, segments,
          ih rest.length (length_of_afterHeading? h) [] rest rfl]
        rfl
      | none =>
        have hnone : afterHeading? (c :: (cs ++ b)) = none := by
          by_contra hsome
          obtain ⟨r, hr⟩ := Option.ne_none_iff_exists'.1 hsome
          obtain ⟨r', hr', -⟩ := afterHeading?_of_append hb (List.cons_ne_nil c cs) hr
          rw [h] at hr'
          cases hr'
        rw [List.cons_append, segmentsFrom_of_none hnone, segmentsFrom_of_none h]
        exact ih cs.length (by simp) (c :: pending) cs rfl

theorem statements_append {b : List Char} (hb : startsHeading b = true) (a : List Char) :
    statements (a ++ b) = statements a ++ statements b := by
  rw [statements, segments, segmentsFrom_append hb, List.tail_append_of_ne_nil]
  · rfl
  · exact segmentsFrom_ne_nil 0 [] a

theorem segmentsFrom_eq (pending s : List Char) :
    segmentsFrom 0 pending s =
      (pending.reverse ++ untilHeading s) :: (headings s).map untilHeading := by
  induction hn : s.length using Nat.strong_induction_on generalizing s pending with
  | _ n ih =>
    subst hn
    cases s with
    | nil => simp [segmentsFrom, untilHeading, headings, afterHeading?_nil]
    | cons c cs =>
      rw [headings_cons, untilHeading, startsHeading]
      cases h : afterHeading? (c :: cs) with
      | some rest =>
        obtain ⟨w, hw, hs⟩ := afterHeading?_eq_some_iff.1 h
        obtain ⟨x, xs, rfl, -, hxs⟩ := hw.eq_cons
        obtain ⟨-, hcs⟩ := List.cons.inj hs
        have hinside : headings cs = headings rest := by
          rw [hcs]
          exact headings_append_of_forall_ne hxs rest
        rw [segmentsFrom_of_heading h, segments, ih _ (length_of_afterHeading? h) [] rest rfl,
          hinside]
        simp
      | none =>
        rw [segmentsFrom_of_none h, ih cs.length (by simp) (c :: pending) cs rfl]
        simp

/-- A dump has one statement for every heading in it: the text behind the heading up to the
next one. -/
theorem statements_eq (s : List Char) : statements s = (headings s).map untilHeading := by
  rw [statements, segments, segmentsFrom_eq]
  rfl

end TableAtlas.Dump
