import TableAtlas.Proofs.Heading
import TableAtlas.Proofs.Phrase

/-!
# Divisions of a dump

A dump is divided into a preamble and pieces, each of them a heading with a text behind it, so that
no heading is left inside a part. There is one division of every dump. Its headings are all that
stand anywhere in the dump, and the texts behind them are the statements.
-/

namespace TableAtlas.Dump

open Text

variable {s t u v w r p : List Char}

/-- A heading with a text behind it in which no other heading stands. -/
structure Piece where
  heading : List Char
  statement : List Char
  isHeading : IsHeading heading
  no_heading : ¬ Contains IsHeading statement

namespace Piece

def text (k : Piece) : List Char := k.heading ++ k.statement

/-- The text of pieces that stand one behind the other. -/
def joined (ks : List Piece) : List Char := ks.flatMap text

theorem joined_cons (k : Piece) (ks : List Piece) :
    joined (k :: ks) = k.heading ++ (k.statement ++ joined ks) := by
  simp [joined, text]

theorem joined_append (ks ls : List Piece) : joined (ks ++ ls) = joined ks ++ joined ls :=
  List.flatMap_append

theorem startsHeading_joined (k : Piece) (ks : List Piece) :
    startsHeading (joined (k :: ks)) = true :=
  startsHeading_iff.2 ⟨k.heading, k.statement ++ joined ks, k.isHeading, joined_cons k ks⟩

end Piece

/-- A way to cut a dump at headings so that none is left inside a part. -/
structure Division (s : List Char) where
  preamble : List Char
  pieces : List Piece
  text : s = preamble ++ Piece.joined pieces
  no_heading : ¬ Contains IsHeading preamble

/-- Whether a division has a piece with the heading `w` between the texts `u` and `v`. -/
def Division.CutsAt (d : Division s) (u w v : List Char) : Prop :=
  ∃ front k back, d.pieces = front ++ k :: back ∧ k.heading = w ∧
    u = d.preamble ++ Piece.joined front ∧ v = k.statement ++ Piece.joined back

/-! ## There is a division -/

theorem not_contains_heading_nil : ¬ Contains IsHeading [] := by
  rintro ⟨w, hw, hinfix⟩
  obtain ⟨x, xs, rfl, -, -⟩ := hw.eq_cons
  simp at hinfix

theorem contains_heading_of_startsHeading (h : startsHeading s = true) : Contains IsHeading s := by
  obtain ⟨w, r, hw, rfl⟩ := startsHeading_iff.1 h
  exact ⟨w, hw, (List.prefix_append w r).isInfix⟩

theorem contains_heading_cons {c : Char} (h : Contains IsHeading (c :: s)) :
    startsHeading (c :: s) = true ∨ Contains IsHeading s := by
  obtain ⟨w, hw, hinfix⟩ := h
  rcases List.infix_cons_iff.1 hinfix with ⟨r, hr⟩ | hs
  · exact .inl (startsHeading_iff.2 ⟨w, r, hw, hr.symm⟩)
  · exact .inr ⟨w, hw, hs⟩

theorem exists_division (s : List Char) : Nonempty (Division s) := by
  induction hn : s.length using Nat.strong_induction_on generalizing s with
  | _ n ih =>
    subst hn
    cases s with
    | nil => exact ⟨⟨[], [], rfl, not_contains_heading_nil⟩⟩
    | cons c cs =>
      cases h : afterHeading? (c :: cs) with
      | some rest =>
        -- what is preamble in the division of the rest stands behind this heading
        obtain ⟨w, hw, hs⟩ := afterHeading?_eq_some_iff.1 h
        obtain ⟨d⟩ := ih rest.length (length_of_afterHeading? h) rest rfl
        have htext : c :: cs =
            [] ++ Piece.joined (⟨w, d.preamble, hw, d.no_heading⟩ :: d.pieces) := by
          rw [List.nil_append, Piece.joined_cons, ← d.text, hs]
        exact ⟨⟨[], _, htext, not_contains_heading_nil⟩⟩
      | none =>
        obtain ⟨d⟩ := ih cs.length (by simp) cs rfl
        have htext : c :: cs = (c :: d.preamble) ++ Piece.joined d.pieces := by
          rw [List.cons_append, ← d.text]
        have hfree : ¬ Contains IsHeading (c :: d.preamble) := by
          intro hcontains
          rcases contains_heading_cons hcontains with hstarts | hinside
          · obtain ⟨r, hr⟩ := Option.isSome_iff_exists.1 hstarts
            rw [htext, afterHeading?_append hr] at h
            cases h
          · exact d.no_heading hinside
        exact ⟨⟨c :: d.preamble, d.pieces, htext, hfree⟩⟩

/-! ## The statements -/

theorem segmentsFrom_of_free (h : ¬ Contains IsHeading s) (pending : List Char) :
    segmentsFrom 0 pending s = [pending.reverse ++ s] := by
  induction s generalizing pending with
  | nil => simp [segmentsFrom]
  | cons c s ih =>
    have hrest : ¬ Contains IsHeading s := fun hs => h (hs.mono (List.suffix_cons c s).isInfix)
    have hnone : afterHeading? (c :: s) = none := by
      rw [← Option.not_isSome_iff_eq_none]
      exact fun hstarts => h (contains_heading_of_startsHeading hstarts)
    rw [segmentsFrom_of_none hnone, ih hrest]
    simp

theorem segments_of_free (h : ¬ Contains IsHeading s) : segments s = [s] :=
  segmentsFrom_of_free h []

/-- Behind a heading, what would be a preamble is the first statement. -/
theorem statements_append_heading (hw : IsHeading w) (s : List Char) :
    statements (w ++ s) = segments s := by
  have hhead : afterHeading? (w ++ s) = some s := afterHeading?_eq_some_iff.2 ⟨w, hw, rfl⟩
  rw [statements, segments, segmentsFrom_of_heading hhead, List.tail_cons]

theorem segments_append_joined (hp : ¬ Contains IsHeading p) (ks : List Piece) :
    segments (p ++ Piece.joined ks) = p :: ks.map Piece.statement := by
  induction ks generalizing p with
  | nil => simpa [Piece.joined] using segments_of_free hp
  | cons k ks ih =>
    calc segments (p ++ Piece.joined (k :: ks))
        = segments p ++ statements (Piece.joined (k :: ks)) :=
          segmentsFrom_append (Piece.startsHeading_joined k ks) [] p
      _ = [p] ++ segments (k.statement ++ Piece.joined ks) := by
          rw [segments_of_free hp, Piece.joined_cons, statements_append_heading k.isHeading]
      _ = p :: (k :: ks).map Piece.statement := by rw [ih k.no_heading]; rfl

theorem Division.segments_eq (d : Division s) :
    segments s = d.preamble :: d.pieces.map Piece.statement :=
  (congrArg segments d.text).trans (segments_append_joined d.no_heading d.pieces)

/-! ## There is one division -/

theorem IsHeading.append_unique {w' r' : List Char} (hw : IsHeading w) (hw' : IsHeading w')
    (h : w ++ r = w' ++ r') : w = w' ∧ r = r' := by
  have hr : afterHeading? (w ++ r) = some r := afterHeading?_eq_some_iff.2 ⟨w, hw, rfl⟩
  have hr' : afterHeading? (w ++ r) = some r' := afterHeading?_eq_some_iff.2 ⟨w', hw', h⟩
  obtain rfl : r = r' := Option.some.inj (hr.symm.trans hr')
  exact ⟨List.append_cancel_right h, rfl⟩

theorem Piece.joined_injective {ks ls : List Piece}
    (hstatements : ks.map Piece.statement = ls.map Piece.statement)
    (h : joined ks = joined ls) : ks = ls := by
  induction ks generalizing ls with
  | nil =>
    rw [List.map_nil, eq_comm, List.map_eq_nil_iff] at hstatements
    exact hstatements.symm
  | cons k ks ih =>
    cases ls with
    | nil => cases hstatements
    | cons l ls =>
      obtain ⟨hstatement, hrest⟩ := List.cons.inj hstatements
      rw [joined_cons, joined_cons] at h
      obtain ⟨hheading, hjoined⟩ := k.isHeading.append_unique l.isHeading h
      rw [hstatement] at hjoined
      have hkl : k = l := by
        cases k
        cases l
        simp_all
      rw [hkl, ih hrest (List.append_cancel_left hjoined)]

theorem subsingleton_division (s : List Char) : Subsingleton (Division s) := by
  refine ⟨fun d e => ?_⟩
  obtain ⟨hpreamble, hstatements⟩ := List.cons.inj (d.segments_eq.symm.trans e.segments_eq)
  have hjoined : d.preamble ++ Piece.joined d.pieces = e.preamble ++ Piece.joined e.pieces :=
    d.text.symm.trans e.text
  rw [hpreamble] at hjoined
  have hpieces := Piece.joined_injective hstatements (List.append_cancel_left hjoined)
  cases d
  cases e
  simp_all

/-! ## The headings -/

/-- No heading begins in a text without headings that ends where one begins. -/
theorem exists_behind_of_free (hp : ¬ Contains IsHeading p) (hs : startsHeading s = true)
    (hw : IsHeading w) (h : p ++ s = u ++ (w ++ v)) : ∃ z, u = p ++ z ∧ s = z ++ (w ++ v) := by
  rcases List.append_eq_append_iff.1 h with ⟨z, rfl, hz⟩ | ⟨z, rfl, hz⟩
  · exact ⟨z, rfl, hz⟩
  · cases z with
    | nil => exact ⟨[], by simp, by simpa using hz.symm⟩
    | cons c z =>
      have hhead : afterHeading? ((c :: z) ++ s) = some v :=
        afterHeading?_eq_some_iff.2 ⟨w, hw, hz.symm⟩
      obtain ⟨r, hr, -⟩ := afterHeading?_of_append hs (List.cons_ne_nil c z) hhead
      have hstarts : startsHeading (c :: z) = true := by rw [startsHeading, hr]; rfl
      have hcontains := contains_heading_of_startsHeading hstarts
      exact absurd (hcontains.mono (List.suffix_append u (c :: z)).isInfix) hp

/-- Of two headings in a text the one stands behind the other, unless they are the same. -/
theorem IsHeading.eq_or_behind {k : List Char} (hk : IsHeading k) (hw : IsHeading w)
    (h : k ++ s = u ++ (w ++ v)) :
    (u = [] ∧ k = w ∧ s = v) ∨ ∃ z, u = k ++ z ∧ s = z ++ (w ++ v) := by
  rcases List.append_eq_append_iff.1 h with ⟨z, rfl, hz⟩ | ⟨z, hkz, hz⟩
  · exact .inr ⟨z, rfl, hz⟩
  · cases u with
    | nil =>
      obtain ⟨hkw, hsv⟩ := hk.append_unique hw (by simpa using h)
      exact .inl ⟨rfl, hkw, hsv⟩
    | cons c u =>
      cases z with
      | nil => exact .inr ⟨[], by simpa using hkz.symm, by simpa using hz.symm⟩
      | cons d z =>
        -- the first letter of the one heading would stand inside the other
        obtain ⟨x, xs, rfl, hx, -⟩ := hw.eq_cons
        obtain ⟨y, ys, hy, -, hys⟩ := hk.eq_cons
        rw [hkz] at hy
        obtain ⟨-, rfl⟩ := List.cons.inj hy
        obtain ⟨rfl, -⟩ := List.cons.inj hz
        exact absurd hx (hys x (by simp))

theorem exists_piece_of_heading (hw : IsHeading w) (hp : ¬ Contains IsHeading p) {ks : List Piece}
    (h : p ++ Piece.joined ks = u ++ (w ++ v)) :
    ∃ front k back, ks = front ++ k :: back ∧ k.heading = w ∧ u = p ++ Piece.joined front ∧
      v = k.statement ++ Piece.joined back := by
  induction ks generalizing p u with
  | nil => exact absurd ⟨w, hw, u, v, by simpa [Piece.joined] using h.symm⟩ hp
  | cons k ks ih =>
    obtain ⟨z, rfl, hz⟩ := exists_behind_of_free hp (Piece.startsHeading_joined k ks) hw h
    rw [Piece.joined_cons] at hz
    rcases k.isHeading.eq_or_behind hw hz with ⟨rfl, hkw, hv⟩ | ⟨y, rfl, hy⟩
    · exact ⟨[], k, ks, rfl, hkw, rfl, hv.symm⟩
    · obtain ⟨front, l, back, rfl, hl, rfl, hv⟩ := ih k.no_heading hy
      exact ⟨k :: front, l, back, rfl, hl, by simp [Piece.joined_cons], hv⟩

theorem Division.cutsAt_iff (d : Division s) :
    s = u ++ (w ++ v) ∧ IsHeading w ↔ d.CutsAt u w v := by
  constructor
  · rintro ⟨hs, hw⟩
    exact exists_piece_of_heading hw d.no_heading (d.text.symm.trans hs)
  · rintro ⟨front, k, back, hpieces, rfl, rfl, rfl⟩
    refine ⟨?_, k.isHeading⟩
    calc s = d.preamble ++ Piece.joined (front ++ k :: back) := by rw [← hpieces, ← d.text]
      _ = _ := by simp [Piece.joined_append, Piece.joined_cons]

/-- Every dump has exactly one division. The texts behind its headings are the statements, and its
headings are those that stand in the dump. -/
theorem statements_divide_dump (s : List Char) :
    ∃ d : Division s, (∀ e : Division s, e = d) ∧ statements s = d.pieces.map Piece.statement ∧
      ∀ u w v, s = u ++ (w ++ v) ∧ IsHeading w ↔ d.CutsAt u w v := by
  obtain ⟨d⟩ := exists_division s
  have hunique := subsingleton_division s
  refine ⟨d, fun e => Subsingleton.elim e d, ?_, fun u w v => d.cutsAt_iff⟩
  rw [statements, d.segments_eq, List.tail_cons]

/-- Words of a heading that stand apart from it are left in the statements. -/
example : statements "CREATE create\u3000TABLE TABLE t (a int) Create\nTable".toList =
    [" TABLE t (a int) ".toList, []] := by
  decide

end TableAtlas.Dump
