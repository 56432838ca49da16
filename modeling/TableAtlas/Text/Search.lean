/-!
# Leftmost search

A recogniser looks at the front of a text. The search tries it at every place from left to
right, the empty rest included, and keeps its first answer. An earlier place at which the
recogniser refuses never hides a later one.
-/

namespace TableAtlas.Text

variable {α : Type}

def search? (p : List Char → Option α) : List Char → Option α
  | [] => p []
  | c :: cs => (p (c :: cs)).or (search? p cs)

/-- Whether a text that the predicate accepts begins somewhere. -/
def occurs (p : List Char → Bool) : List Char → Bool
  | [] => p []
  | c :: cs => p (c :: cs) || occurs p cs

theorem search?_eq_some_iff {p : List Char → Option α} {s : List Char} {a : α} :
    search? p s = some a ↔
      ∃ u v, s = u ++ v ∧ p v = some a ∧
        ∀ u' v', s = u' ++ v' → u'.length < u.length → p v' = none := by
  induction s with
  | nil =>
    constructor
    · intro h
      exact ⟨[], [], rfl, h, by simp⟩
    · rintro ⟨u, v, huv, hv, -⟩
      obtain ⟨rfl, rfl⟩ := List.append_eq_nil_iff.1 huv.symm
      exact hv
  | cons c cs ih =>
    cases hp : p (c :: cs) with
    | some b =>
      simp only [search?, hp, Option.some_or, Option.some.injEq]
      constructor
      · rintro rfl
        exact ⟨[], c :: cs, rfl, hp, by simp⟩
      · rintro ⟨u, v, huv, hv, hmin⟩
        cases u with
        | nil => simp_all
        | cons d ds => exact absurd (hmin [] (c :: cs) rfl (by simp)) (by simp [hp])
    | none =>
      simp only [search?, hp, Option.none_or, ih]
      constructor
      · rintro ⟨u, v, rfl, hv, hmin⟩
        refine ⟨c :: u, v, rfl, hv, ?_⟩
        rintro (_ | ⟨d, ds⟩) v' h hlt
        · simp_all
        · obtain ⟨rfl, h'⟩ := List.cons.inj h
          exact hmin ds v' h' (by simpa using hlt)
      · rintro ⟨u, v, huv, hv, hmin⟩
        cases u with
        | nil => simp_all
        | cons d ds =>
          obtain ⟨rfl, huv'⟩ := List.cons.inj huv
          refine ⟨ds, v, huv', hv, ?_⟩
          intro u' v' h hlt
          exact hmin (c :: u') v' (by simp [h]) (by simpa using hlt)

theorem search?_of_eq_some {p : List Char → Option α} {s : List Char} {a : α}
    (h : p s = some a) : search? p s = some a :=
  search?_eq_some_iff.2 ⟨[], s, rfl, h, by simp⟩

theorem search?_eq_none_iff {p : List Char → Option α} {s : List Char} :
    search? p s = none ↔ ∀ u v, s = u ++ v → p v = none := by
  induction s with
  | nil =>
    constructor
    · intro h u v huv
      obtain ⟨rfl, rfl⟩ := List.append_eq_nil_iff.1 huv.symm
      exact h
    · intro h
      exact h [] [] rfl
  | cons c cs ih =>
    simp only [search?, Option.or_eq_none_iff, ih]
    constructor
    · rintro ⟨hp, h⟩ (_ | ⟨d, ds⟩) v huv
      · simp_all
      · exact h ds v (List.cons.inj huv).2
    · intro h
      exact ⟨h [] _ rfl, fun u v huv => h (c :: u) v (by simp [huv])⟩

theorem occurs_eq_true_iff {p : List Char → Bool} {s : List Char} :
    occurs p s = true ↔ ∃ u v, s = u ++ v ∧ p v = true := by
  induction s with
  | nil =>
    constructor
    · intro h
      exact ⟨[], [], rfl, h⟩
    · rintro ⟨u, v, huv, hv⟩
      obtain ⟨rfl, rfl⟩ := List.append_eq_nil_iff.1 huv.symm
      exact hv
  | cons c cs ih =>
    simp only [occurs, Bool.or_eq_true, ih]
    constructor
    · rintro (hp | ⟨u, v, rfl, hv⟩)
      · exact ⟨[], _, rfl, hp⟩
      · exact ⟨c :: u, v, rfl, hv⟩
    · rintro ⟨u, v, huv, hv⟩
      cases u with
      | nil => simp_all
      | cons d ds => exact .inr ⟨ds, v, (List.cons.inj huv).2, hv⟩

end TableAtlas.Text
