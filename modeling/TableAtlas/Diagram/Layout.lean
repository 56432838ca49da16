/-!
# Grid layout

The tables of a diagram stand row by row on a grid. A row has two places more than the least
number whose square holds all tables, so that the grid is wider than it is tall.
-/

namespace TableAtlas

structure Position where
  x : Int
  y : Int
  deriving DecidableEq

namespace Layout

def spacing : Nat := 400

def extraColumns : Nat := 2

/-- The least root from `k` on whose square is not below `n`, sought for `steps` steps. -/
def rootFrom (n : Nat) : (steps k : Nat) → Nat
  | 0, k => k
  | steps + 1, k => if n ≤ k * k then k else rootFrom n steps (k + 1)

/-- The least number whose square is not below `n`. -/
def ceilRoot (n : Nat) : Nat := rootFrom n n 0

def gridColumns (count : Nat) : Nat := ceilRoot count + extraColumns

def position (columns index : Nat) : Position where
  x := (index % columns * spacing : Nat)
  y := (index / columns * spacing : Nat)

def positions (count : Nat) : List Position :=
  (List.range count).map (position (gridColumns count))

@[simp] theorem length_positions (count : Nat) : (positions count).length = count := by
  simp [positions]

theorem le_rootFrom_mul_self {n steps k : Nat} (h : n ≤ (k + steps) * (k + steps)) :
    n ≤ rootFrom n steps k * rootFrom n steps k := by
  induction steps generalizing k with
  | zero => simpa [rootFrom] using h
  | succ steps ih =>
    simp only [rootFrom]
    split
    · assumption
    · exact ih (by rwa [Nat.add_right_comm, Nat.add_assoc])

theorem mul_self_lt_of_lt_rootFrom {n steps k j : Nat} (hk : k ≤ j)
    (h : j < rootFrom n steps k) : j * j < n := by
  induction steps generalizing k with
  | zero => simp only [rootFrom] at h; omega
  | succ steps ih =>
    simp only [rootFrom] at h
    split at h
    · omega
    · rcases Nat.eq_or_lt_of_le hk with rfl | hk
      · omega
      · exact ih hk h

theorem le_ceilRoot_mul_self (n : Nat) : n ≤ ceilRoot n * ceilRoot n :=
  le_rootFrom_mul_self (by simpa using Nat.le_mul_self n)

/-- With `le_ceilRoot_mul_self` this says that the root is the least one. -/
theorem mul_self_lt_of_lt_ceilRoot {n j : Nat} (h : j < ceilRoot n) : j * j < n :=
  mul_self_lt_of_lt_rootFrom (Nat.zero_le j) h

end Layout

end TableAtlas
