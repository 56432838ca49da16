import Mathlib.Data.List.Infix
import TableAtlas.Text.Blank

/-!
# Runs and their boundaries

A run of characters of one class ends where a character of another class begins. Here is what
the cutting functions do at such boundaries.
-/

namespace TableAtlas.Text

/-- Statements about the characters of a list are decided by going through that list, and not
through all characters there are. -/
instance (priority := high) decidableForallMem (q : Char → Prop) [DecidablePred q] (l : List Char) :
    Decidable (∀ x ∈ l, q x) :=
  List.decidableBAll q l

instance (priority := high) decidableForallMemOption (q : Char → Prop) [DecidablePred q]
    (o : Option Char) : Decidable (∀ x ∈ o, q x) :=
  match o with
  | none => isTrue fun x hx => by cases hx
  | some c => decidable_of_iff (q c) (by simp)

variable {p : Char → Bool} {u v : List Char}

theorem forall_mem_head?_cons {q : Char → Prop} {c : Char} {s : List Char} (h : q c) :
    ∀ x ∈ (c :: s).head?, q x := by
  intro x hx
  obtain rfl : c = x := by simpa using hx
  exact h

theorem dropWhile_run (hu : ∀ x ∈ u, p x = true) (hv : ∀ x ∈ v.head?, p x = false) :
    (u ++ v).dropWhile p = v := by
  rw [List.dropWhile_append_of_pos hu]
  cases v with
  | nil => rfl
  | cons c cs => rw [List.dropWhile_cons_of_neg (by simpa using hv c rfl)]

theorem takeWhile_run (hu : ∀ x ∈ u, p x = true) (hv : ∀ x ∈ v.head?, p x = false) :
    (u ++ v).takeWhile p = u := by
  rw [List.takeWhile_append_of_pos hu]
  cases v with
  | nil => simp
  | cons c cs => rw [List.takeWhile_cons_of_neg (by simpa using hv c rfl), List.append_nil]

/-- There is one way to cut a text behind its front run. -/
theorem run_unique {u' v' : List Char} (hu : ∀ x ∈ u, p x = true) (hv : ∀ x ∈ v.head?, p x = false)
    (hu' : ∀ x ∈ u', p x = true) (hv' : ∀ x ∈ v'.head?, p x = false) (h : u ++ v = u' ++ v') :
    u = u' ∧ v = v' := by
  constructor
  · rw [← takeWhile_run hu hv, h, takeWhile_run hu' hv']
  · rw [← dropWhile_run hu hv, h, dropWhile_run hu' hv']

/-- There is one way to cut a text at the first place of a character. -/
theorem append_cons_unique {d : Char} {u' v' : List Char} (hu : d ∉ u) (hu' : d ∉ u')
    (h : u ++ d :: v = u' ++ d :: v') : u = u' ∧ v = v' := by
  have hrun : ∀ {w : List Char}, d ∉ w → ∀ x ∈ w, (x != d) = true := by
    intro w hw x hx
    simpa using ne_of_mem_of_not_mem hx hw
  have hend : ∀ {w : List Char}, ∀ x ∈ (d :: w).head?, (x != d) = false := by simp
  obtain ⟨hfront, hback⟩ := run_unique (p := (· != d)) (hrun hu) hend (hrun hu') hend h
  exact ⟨hfront, (List.cons.inj hback).2⟩

/-- Every text is a run of a class and a rest that does not go on with it. -/
theorem exists_run (p : Char → Bool) (s : List Char) :
    ∃ u v, s = u ++ v ∧ (∀ x ∈ u, p x = true) ∧ ∀ x ∈ v.head?, p x = false := by
  refine ⟨s.takeWhile p, s.dropWhile p, List.takeWhile_append_dropWhile.symm, ?_, ?_⟩
  · intro x hx
    exact (List.all_eq_true.1 (List.all_takeWhile (p := p))) x hx
  · intro x hx
    have h := List.head?_dropWhile_not p s
    rw [Option.mem_def.1 hx] at h
    simpa using h

theorem dropWhile_blank_eq_cons_iff {s r : List Char} {d : Char} (hd : isBlank d = false) :
    s.dropWhile isBlank = d :: r ↔ ∃ b, (∀ x ∈ b, isBlank x = true) ∧ s = b ++ d :: r := by
  constructor
  · intro h
    refine ⟨s.takeWhile isBlank, fun x hx => List.all_eq_true.1 List.all_takeWhile x hx, ?_⟩
    rw [← h, List.takeWhile_append_dropWhile]
  · rintro ⟨b, hb, rfl⟩
    exact dropWhile_run hb (by simpa using hd)

theorem trimBy_append_left (hu : ∀ x ∈ u, p x = true) : trimBy p (u ++ v) = trimBy p v := by
  rw [trimBy, trimBy, List.dropWhile_append_of_pos hu]

/-- Trimming cuts off the runs at both ends. -/
theorem trimBy_run {t : List Char} (hu : ∀ x ∈ u, p x = true) (ht : ∀ x ∈ t, p x = true)
    (hhead : ∀ x ∈ v.head?, p x = false) (hlast : ∀ x ∈ v.getLast?, p x = false) (hne : v ≠ []) :
    trimBy p (u ++ (v ++ t)) = v := by
  have hfront : ∀ x ∈ (v ++ t).head?, p x = false := by
    rwa [List.head?_append_of_ne_nil v hne]
  rw [trimBy, dropWhile_run hu hfront, List.reverse_append, dropWhile_run, List.reverse_reverse]
  · simpa using ht
  · simpa using hlast

/-- A run never goes on behind a character of another class. -/
theorem takeWhile_append_cons {d : Char} (hd : p d = false) (u v : List Char) :
    (u ++ d :: v).takeWhile p = u.takeWhile p := by
  induction u with
  | nil => simp [hd]
  | cons c u ih => cases hc : p c <;> simp [hc, ih]

theorem dropWhile_append_cons {d : Char} (hd : p d = false) (u v : List Char) :
    (u ++ d :: v).dropWhile p = u.dropWhile p ++ d :: v := by
  induction u with
  | nil => simp [hd]
  | cons c u ih => cases hc : p c <;> simp [hc, ih]

/-- A character that a text lacks ends the comparison with it. -/
theorem prefix_append_cons_iff {o : List Char} {d : Char} (hd : d ∉ o) :
    o <+: u ++ d :: v ↔ o <+: u := by
  constructor
  · rintro ⟨z, hz⟩
    rcases List.append_eq_append_iff.1 hz with ⟨a, rfl, -⟩ | ⟨a, rfl, ha⟩
    · exact List.prefix_append o a
    · cases a with
      | nil => simp
      | cons e a =>
        obtain ⟨rfl, -⟩ := List.cons.inj ha
        simp at hd
  · exact fun h => h.trans (List.prefix_append u _)

/-- Trimming cuts on either side of a character that is not cut off. -/
theorem trimBy_append_cons {d : Char} (hd : p d = false) (u v : List Char) :
    trimBy p (u ++ d :: v) = u.dropWhile p ++ d :: (v.reverse.dropWhile p).reverse := by
  have hreverse : (u.dropWhile p ++ d :: v).reverse =
      v.reverse ++ d :: (u.dropWhile p).reverse := by
    simp
  rw [trimBy, dropWhile_append_cons hd, hreverse, dropWhile_append_cons hd]
  simp

/-- Trimming cuts nothing off between the ends of a text, and behind it leaves a beginning of what
stands there. -/
theorem exists_trimBy_append (hu : ∀ x ∈ u, p x = true) (hne : v ≠ [])
    (hhead : ∀ x ∈ v.head?, p x = false) (hlast : ∀ x ∈ v.getLast?, p x = false) (s : List Char) :
    ∃ t, t <+: s ∧ trimBy p (u ++ (v ++ s)) = v ++ t := by
  obtain ⟨w, d, rfl⟩ := (List.eq_nil_or_concat v).resolve_left hne
  have hd : p d = false := hlast d (by simp)
  have hfront : ∀ x ∈ w.head?, p x = false := fun x hx => hhead x (by simp [Option.mem_def.1 hx])
  have hpieces : u ++ (w.concat d ++ s) = (u ++ w) ++ d :: s := by simp
  refine ⟨(s.reverse.dropWhile p).reverse, ?_, ?_⟩
  · rw [← List.reverse_suffix, List.reverse_reverse]
    exact List.dropWhile_suffix p
  · rw [hpieces, trimBy_append_cons hd, dropWhile_run hu hfront]
    simp

/-- Whether a text is another one without the characters of a class at its ends. -/
def TrimsTo (p : Char → Bool) (s t : List Char) : Prop :=
  ∃ u v, s = u ++ (t ++ v) ∧ (∀ x ∈ u, p x = true) ∧ (∀ x ∈ v, p x = true) ∧
    (∀ x ∈ t.head?, p x = false) ∧ ∀ x ∈ t.getLast?, p x = false

theorem trimsTo_trimBy (p : Char → Bool) (s : List Char) : TrimsTo p s (trimBy p s) := by
  obtain ⟨u, v, rfl, hu, hv⟩ := exists_run p s
  obtain ⟨e, m, he, hrun, hm⟩ := exists_run p v.reverse
  obtain rfl : v = m.reverse ++ e.reverse := by
    rw [← List.reverse_append, ← he, List.reverse_reverse]
  have htrim : trimBy p (u ++ (m.reverse ++ e.reverse)) = m.reverse := by
    rw [trimBy, dropWhile_run hu hv, he, dropWhile_run hrun hm]
  rw [htrim]
  refine ⟨u, e.reverse, rfl, hu, by simpa using hrun, ?_, by simpa using hm⟩
  intro x hx
  apply hv
  rw [List.head?_append, Option.mem_def.1 hx]
  rfl

theorem trimBy_eq_iff {s t : List Char} : trimBy p s = t ↔ TrimsTo p s t := by
  constructor
  · rintro rfl
    exact trimsTo_trimBy p s
  · rintro ⟨u, v, rfl, hu, hv, hhead, hlast⟩
    cases t with
    | nil =>
      have hall : ∀ x ∈ u ++ v, p x = true := List.forall_mem_append.2 ⟨hu, hv⟩
      have hdrop : (u ++ v).dropWhile p = [] := by
        simpa using dropWhile_run (v := []) hall (by simp)
      rw [List.nil_append, trimBy, hdrop]
      rfl
    | cons c t => exact trimBy_run hu hv hhead hlast (List.cons_ne_nil c t)

theorem trimBy_append (hu : ∀ x ∈ u, p x = true) (hv : ∀ x ∈ v, p x = true) {t : List Char}
    (ht : ∀ x ∈ t, p x = false) : trimBy p (u ++ (t ++ v)) = t :=
  trimBy_eq_iff.2 ⟨u, v, rfl, hu, hv, fun x hx => ht x (List.mem_of_head? hx),
    fun x hx => ht x (List.mem_of_getLast? hx)⟩

theorem trimBy_isInfix (p : Char → Bool) (s : List Char) : trimBy p s <:+: s := by
  have hback : trimBy p s <+: s.dropWhile p := by
    rw [← List.reverse_suffix, trimBy, List.reverse_reverse]
    exact List.dropWhile_suffix p
  exact hback.isInfix.trans (List.dropWhile_suffix p).isInfix

theorem mem_intercalate {sep : List Char} {ls : List (List Char)} {x : Char}
    (h : x ∈ sep.intercalate ls) : (∃ l ∈ ls, x ∈ l) ∨ x ∈ sep := by
  induction ls with
  | nil => simp at h
  | cons l ls ih =>
    cases ls with
    | nil => exact .inl ⟨l, by simp, by simpa using h⟩
    | cons m ms =>
      rw [List.intercalate_cons_cons, List.mem_append, List.mem_append] at h
      rcases h with (h | h) | h
      · exact .inl ⟨l, by simp, h⟩
      · exact .inr h
      · exact (ih h).imp_left fun ⟨k, hk, hx⟩ => ⟨k, by simp [hk], hx⟩

/-- A character that is not in the back of a text stands in its front. -/
theorem exists_front_of_not_mem {c : Char} {w z : List Char} (hc : c ∉ w)
    (h : u ++ c :: v = z ++ w) : ∃ a, z = u ++ c :: a ∧ v = a ++ w := by
  rcases List.append_eq_append_iff.1 h with ⟨a, rfl, ha⟩ | ⟨a, rfl, ha⟩
  · cases a with
    | nil =>
      rw [List.nil_append] at ha
      simp [← ha] at hc
    | cons d a =>
      obtain ⟨rfl, hv⟩ := List.cons.inj ha
      exact ⟨a, rfl, hv⟩
  · simp [ha] at hc

/-- A text is cut at the first place of a character in it, whatever follows the text. -/
theorem exists_cut_of_append {c : Char} {w z : List Char} (hw : c ∈ w) (hu : c ∉ u)
    (h : w ++ z = u ++ c :: v) : ∃ a, w = u ++ c :: a := by
  rcases List.append_eq_append_iff.1 h with ⟨b, rfl, -⟩ | ⟨b, rfl, hb⟩
  · simp [hw] at hu
  · cases b with
    | nil => simp [hu] at hw
    | cons d b =>
      obtain ⟨rfl, -⟩ := List.cons.inj hb
      exact ⟨b, rfl⟩

end TableAtlas.Text
