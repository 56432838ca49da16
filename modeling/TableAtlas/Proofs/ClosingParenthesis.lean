import Mathlib.Data.Nat.Find
import Mathlib.Order.Bounds.Defs
import TableAtlas.Dump.Block

/-!
# The first balancing parenthesis

The scan for the end of a column list keeps the number of parentheses that are open. It may begin
anywhere, so this number may be negative, and it may come back to zero at an opening parenthesis,
where nothing ends. The scan stops at the first closing parenthesis at which, from the place where
it began, as many are closed as are opened.
-/

namespace TableAtlas.Dump

variable {d : Int} {c : Char} {s : List Char} {k n i start : Nat}

/-- Whether a closing parenthesis stands at `i`, and from `start` up to it as many parentheses are
opened as closed. -/
def ClosesAt (s : List Char) (start i : Nat) : Prop :=
  start ≤ i ∧ s[i]? = some ')' ∧
    (s.extract start (i + 1)).count '(' = (s.extract start (i + 1)).count ')'

/-- What a character adds to the number of open parentheses. -/
def weight (c : Char) : Int := if c = '(' then 1 else if c = ')' then -1 else 0

/-- The number of parentheses opened in a text less that of those closed. -/
def balance (s : List Char) : Int := s.count '(' - s.count ')'

/-- Whether a text that is begun at the depth `d` comes to depth zero with a closing parenthesis at
`n`. -/
def SettlesAt (d : Int) (s : List Char) (n : Nat) : Prop :=
  s[n]? = some ')' ∧ d + balance (s.take (n + 1)) = 0

theorem balance_nil : balance [] = 0 := rfl

theorem balance_cons (c : Char) (s : List Char) : balance (c :: s) = weight c + balance s := by
  have hne : '(' ≠ ')' := by decide
  unfold balance weight
  by_cases hopen : c = '('
  · rw [if_pos hopen, hopen, List.count_cons_self, List.count_cons_of_ne hne]
    omega
  · rw [if_neg hopen, List.count_cons_of_ne hopen]
    by_cases hclose : c = ')'
    · rw [if_pos hclose, hclose, List.count_cons_self]
      omega
    · rw [if_neg hclose, List.count_cons_of_ne hclose]
      omega

theorem weight_eq_neg_one_iff : weight c = -1 ↔ c = ')' := by
  unfold weight
  split <;> simp_all

theorem neg_one_le_weight (c : Char) : -1 ≤ weight c := by
  unfold weight
  split
  · omega
  · split <;> omega

/-! ## One step of the scan -/

theorem closingFrom?_cons (d : Int) (k : Nat) (c : Char) (s : List Char) :
    closingFrom? d k (c :: s) =
      if c = ')' ∧ d = 1 then some k else closingFrom? (d + weight c) (k + 1) s := by
  rw [closingFrom?, weight]
  by_cases hopen : c = '('
  · simp [hopen]
  · by_cases hclose : c = ')'
    · simp [hclose, Int.sub_eq_add_neg]
    · simp [hopen, hclose]

theorem not_settlesAt_nil : ¬ SettlesAt d [] n := by
  rintro ⟨hclose, -⟩
  cases hclose

theorem settlesAt_cons_zero : SettlesAt d (c :: s) 0 ↔ c = ')' ∧ d = 1 := by
  have hbalance : balance [c] = weight c := by simp [balance_cons, balance_nil]
  simp only [SettlesAt, List.getElem?_cons_zero, Option.some.injEq, Nat.zero_add,
    List.take_succ_cons, List.take_zero, hbalance]
  refine and_congr_right fun hclose => ?_
  rw [weight_eq_neg_one_iff.2 hclose]
  omega

theorem settlesAt_cons_succ : SettlesAt d (c :: s) (n + 1) ↔ SettlesAt (d + weight c) s n := by
  simp only [SettlesAt, List.getElem?_cons_succ, List.take_succ_cons, balance_cons, Int.add_assoc]

/-- Where the first character does not settle the text, the rest does so. -/
theorem settlesAt_cons_iff (h : ¬ (c = ')' ∧ d = 1)) :
    SettlesAt d (c :: s) n ↔ ∃ m, n = 1 + m ∧ SettlesAt (d + weight c) s m := by
  cases n with
  | zero =>
    refine iff_of_false (fun hsettles => h (settlesAt_cons_zero.1 hsettles)) ?_
    rintro ⟨m, hm, -⟩
    omega
  | succ n =>
    rw [settlesAt_cons_succ]
    constructor
    · exact fun hn => ⟨n, Nat.add_comm n 1, hn⟩
    · rintro ⟨m, hm, hsettles⟩
      obtain rfl : n = m := by omega
      exact hsettles

/-- Where all places with a property are moved by one distance, the first of them is. -/
theorem isLeast_shift {P Q : Nat → Prop} (h : ∀ i, P i ↔ ∃ n, i = k + n ∧ Q n) :
    IsLeast {i | P i} i ↔ ∃ n, i = k + n ∧ IsLeast {n | Q n} n := by
  constructor
  · rintro ⟨hi, hleast⟩
    obtain ⟨n, rfl, hn⟩ := (h i).1 hi
    refine ⟨n, rfl, hn, fun m hm => ?_⟩
    exact Nat.le_of_add_le_add_left (hleast ((h (k + m)).2 ⟨m, rfl, hm⟩))
  · rintro ⟨n, rfl, hn, hleast⟩
    refine ⟨(h (k + n)).2 ⟨n, rfl, hn⟩, fun j hj => ?_⟩
    obtain ⟨m, rfl, hm⟩ := (h j).1 hj
    exact Nat.add_le_add_left (hleast hm) k

/-! ## The whole scan -/

/-- A scan that goes on at the depth `d` stops where the rest of the text settles first. -/
theorem closingFrom?_eq_some_iff :
    closingFrom? d k s = some i ↔ ∃ n, i = k + n ∧ IsLeast {n | SettlesAt d s n} n := by
  induction s generalizing d k with
  | nil =>
    refine iff_of_false (by simp [closingFrom?]) ?_
    rintro ⟨n, -, hn, -⟩
    exact not_settlesAt_nil hn
  | cons c s ih =>
    rw [closingFrom?_cons]
    by_cases hfirst : c = ')' ∧ d = 1
    · have hsettles : SettlesAt d (c :: s) 0 := settlesAt_cons_zero.2 hfirst
      rw [if_pos hfirst, Option.some.injEq]
      constructor
      · rintro rfl
        exact ⟨0, rfl, hsettles, fun _ _ => Nat.zero_le _⟩
      · rintro ⟨n, rfl, -, hleast⟩
        have hn : n ≤ 0 := hleast hsettles
        omega
    · rw [if_neg hfirst, ih]
      simp only [isLeast_shift fun n => settlesAt_cons_iff hfirst]
      constructor
      · rintro ⟨n, rfl, hn⟩
        exact ⟨1 + n, by omega, n, rfl, hn⟩
      · rintro ⟨_, rfl, n, rfl, hn⟩
        exact ⟨n, by omega, hn⟩

/-- A text that is begun with parentheses open keeps some open until it settles. -/
theorem balance_take_pos (hd : 0 < d) (h : ∀ m < n, ¬ SettlesAt d s m) :
    0 < d + balance (s.take n) := by
  induction s generalizing d n with
  | nil => simpa [balance_nil] using hd
  | cons c s ih =>
    cases n with
    | zero => simpa [balance_nil] using hd
    | succ n =>
      have hfirst : ¬ (c = ')' ∧ d = 1) := fun hc => h 0 (by omega) (settlesAt_cons_zero.2 hc)
      have hopen : 0 < d + weight c := by
        -- only a closing parenthesis lowers the depth, and at depth one it settles the text
        have hweight := neg_one_le_weight c
        by_cases hclose : c = ')'
        · have hdepth : d ≠ 1 := fun hd => hfirst ⟨hclose, hd⟩
          omega
        · have hdrop : weight c ≠ -1 := fun hw => hclose (weight_eq_neg_one_iff.1 hw)
          omega
      have hrest := ih (n := n) hopen fun m hm hsettles =>
        h (m + 1) (by omega) (settlesAt_cons_succ.2 hsettles)
      rw [List.take_succ_cons, balance_cons]
      omega

/-! ## From a place in a text -/

theorem extract_eq_take (s : List Char) (start n : Nat) :
    s.extract start (start + n + 1) = (s.drop start).take (n + 1) := by
  rw [List.extract_eq_take_drop, Nat.add_assoc, Nat.add_sub_cancel_left]

theorem closesAt_iff :
    ClosesAt s start i ↔ ∃ n, i = start + n ∧ SettlesAt 0 (s.drop start) n := by
  constructor
  · rintro ⟨hle, hclose, hcount⟩
    obtain ⟨n, rfl⟩ := Nat.exists_eq_add_of_le hle
    rw [extract_eq_take] at hcount
    refine ⟨n, rfl, by rwa [List.getElem?_drop], ?_⟩
    rw [balance, hcount]
    omega
  · rintro ⟨n, rfl, hclose, hcount⟩
    rw [List.getElem?_drop] at hclose
    refine ⟨by omega, hclose, ?_⟩
    rw [balance] at hcount
    rw [extract_eq_take]
    omega

theorem isLeast_closesAt_iff :
    IsLeast {i | ClosesAt s start i} i ↔
      ∃ n, i = start + n ∧ IsLeast {n | SettlesAt 0 (s.drop start) n} n :=
  isLeast_shift fun _ => closesAt_iff

theorem closing?_eq_some_iff : closing? s start = some i ↔ IsLeast {i | ClosesAt s start i} i := by
  rw [closing?, closingFrom?_eq_some_iff, isLeast_closesAt_iff]

theorem closing?_eq_none_iff : closing? s start = none ↔ ∀ i, ¬ ClosesAt s start i := by
  simp only [Option.eq_none_iff_forall_ne_some, ne_eq, closing?_eq_some_iff]
  constructor
  · intro h i hi
    classical
    have hexists : ∃ i, ClosesAt s start i := ⟨i, hi⟩
    exact h _ ⟨Nat.find_spec hexists, fun j hj => Nat.find_min' hexists hj⟩
  · exact fun h i hi => h i hi.1

/-- From an opening parenthesis on, more are opened than closed before the one that closes it. -/
theorem count_lt_of_prefix {p : List Char} (hopen : s[start]? = some '(')
    (hstop : closing? s start = some i) (hp : p <+: s.extract start (i + 1)) (hne : p ≠ [])
    (hproper : p ≠ s.extract start (i + 1)) : p.count ')' < p.count '(' := by
  obtain ⟨n, rfl, -, hleast⟩ := isLeast_closesAt_iff.1 (closing?_eq_some_iff.1 hstop)
  obtain ⟨rest, hrest⟩ : ∃ rest, s.drop start = '(' :: rest := by
    rw [← List.head?_eq_some_iff, List.head?_drop, hopen]
  rw [extract_eq_take, hrest, List.take_succ_cons] at hp hproper
  rcases List.prefix_cons_iff.1 hp with hnil | ⟨q, rfl, hq⟩
  · exact absurd hnil hne
  · obtain ⟨hfront, hle⟩ := List.prefix_take_iff.1 hq
    have htake : q = rest.take q.length := List.prefix_iff_eq_take.1 hfront
    have hlength : q.length ≠ n := by
      intro heq
      rw [htake, heq] at hproper
      exact hproper rfl
    have hkept : ∀ m < q.length, ¬ SettlesAt 1 rest m := by
      intro m hm hsettles
      have hearlier : n ≤ m + 1 := by
        apply hleast
        rw [hrest]
        exact settlesAt_cons_succ.2 hsettles
      omega
    have hbalance : 0 < 1 + balance (rest.take q.length) := balance_take_pos (by decide) hkept
    rw [← htake, balance] at hbalance
    rw [List.count_cons_self, List.count_cons_of_ne (by decide)]
    omega

/-- The scan finds the first closing parenthesis up to which, from any place on, as many parentheses
are closed as opened, and nothing if there is none. If an opening parenthesis stands at that place,
more are opened than closed all the way up to the one found. -/
theorem closing?_finds_first_balance (s : List Char) (start : Nat) :
    (∀ i, closing? s start = some i ↔ IsLeast {j | ClosesAt s start j} i) ∧
      (closing? s start = none ↔ ∀ i, ¬ ClosesAt s start i) ∧
      (s[start]? = some '(' → ∀ i, closing? s start = some i →
        ∀ p, p <+: s.extract start (i + 1) → p ≠ [] → p ≠ s.extract start (i + 1) →
          p.count ')' < p.count '(') := by
  refine ⟨fun i => closing?_eq_some_iff, closing?_eq_none_iff, ?_⟩
  intro hopen i hstop p hp hne hproper
  exact count_lt_of_prefix hopen hstop hp hne hproper

/-- The groups inside a list and what is closed around it do not end it. -/
theorem closing?_finds_first_balance_of_nested :
    let s := ") t (a(1), b()) )".toList
    s[4]? = some '(' ∧ closing? s 4 = some 14 ∧
      ∀ p, p <+: s.extract 4 15 → p ≠ [] → p ≠ s.extract 4 15 → p.count ')' < p.count '(' := by
  intro s
  have hopen : s[4]? = some '(' := by decide
  have hstop : closing? s 4 = some 14 := by decide
  exact ⟨hopen, hstop, (closing?_finds_first_balance s 4).2.2 hopen 14 hstop⟩

/-- What is closed too often has to be opened again, and the depth zero at the second opening
parenthesis ends nothing. -/
example : closing? "))((()".toList 0 = some 5 := by decide

end TableAtlas.Dump
