import Mathlib.Data.Finset.Card
import Mathlib.Data.Finset.Image
import Mathlib.Data.List.Nodup
import Mathlib.Order.Bounds.Basic
import TableAtlas.Diagram.Layout

/-!
# The form of the grid

The places on the grid come from quotients and remainders, one for each number. Together they are
rows of one length, one below the other: all of them are full except the last, which may end early.
As many rows as the root of the number of tables would hold all of them even if each were two places
shorter, so no more rows are needed, and the grid is wider than it is tall.
-/

namespace TableAtlas.Layout

variable {columns i j : Nat}

/-! ## Places -/

theorem position_inj (h : position columns i = position columns j) : i = j := by
  simp only [position, Position.mk.injEq, Int.natCast_inj] at h
  have hmod := Nat.eq_of_mul_eq_mul_right (by decide : 0 < spacing) h.1
  have hdiv := Nat.eq_of_mul_eq_mul_right (by decide : 0 < spacing) h.2
  rw [← Nat.div_add_mod i columns, ← Nat.div_add_mod j columns, hmod, hdiv]

theorem nodup_positions (count : Nat) : (positions count).Nodup :=
  List.nodup_range.map fun _ _ => position_inj

/-- The place in a column and a row. -/
def place (column row : Nat) : Position where
  x := (column * spacing : Nat)
  y := (row * spacing : Nat)

theorem place_x (column row : Nat) : (place column row).x = 400 * column := by
  simp [place, spacing, Int.mul_comm]

theorem place_y (column row : Nat) : (place column row).y = 400 * row := by
  simp [place, spacing, Int.mul_comm]

theorem position_eq_place (columns i : Nat) :
    position columns i = place (i % columns) (i / columns) := rfl

theorem position_row_add {c : Nat} (h : c < columns) (r : Nat) :
    position columns (r * columns + c) = place c r := by
  have hmod : (r * columns + c) % columns = c := by
    rw [Nat.mul_comm, Nat.mul_add_mod, Nat.mod_eq_of_lt h]
  have hdiv : (r * columns + c) / columns = r := by
    rw [Nat.mul_comm, Nat.mul_add_div (by omega), Nat.div_eq_of_lt h, Nat.add_zero]
  rw [position_eq_place, hmod, hdiv]

/-! ## Rows -/

/-- The places of a row, from left to right. -/
def row (columns r : Nat) : List Position := (List.range columns).map fun c => place c r

/-- The front of a row. -/
theorem map_position_row {n : Nat} (h : n ≤ columns) (r : Nat) :
    (List.range n).map (fun c => position columns (r * columns + c)) = (row columns r).take n := by
  rw [row, ← List.map_take, List.take_range, Nat.min_eq_left h]
  refine List.map_congr_left fun c hc => position_row_add ?_ r
  have := List.mem_range.1 hc
  omega

theorem map_position_rows (columns r : Nat) :
    (List.range (r * columns)).map (position columns) = (List.range r).flatMap (row columns) := by
  induction r with
  | zero => simp
  | succ r ih =>
    have hrow := map_position_row (Nat.le_refl columns) r
    rw [List.take_of_length_le (by simp [row])] at hrow
    rw [Nat.succ_mul, List.range_add, List.map_append, ih, List.map_map, List.range_succ,
      List.flatMap_append, List.flatMap_singleton, ← hrow]
    rfl

/-- Places fill row after row. -/
theorem map_position_range (h : 0 < columns) (n : Nat) :
    (List.range n).map (position columns) =
      (List.range (n / columns)).flatMap (row columns) ++
        (row columns (n / columns)).take (n % columns) := by
  have hn : n = n / columns * columns + n % columns := by
    rw [Nat.mul_comm, Nat.div_add_mod]
  have hrest := map_position_row (Nat.le_of_lt (Nat.mod_lt n h)) (n / columns)
  conv_lhs => rw [hn, List.range_add, List.map_append, map_position_rows, List.map_map]
  rw [← hrest]
  rfl

/-! ## The extent of the grid -/

theorem isLeast_ceilRoot (count : Nat) : IsLeast {k | count ≤ k * k} (ceilRoot count) := by
  refine ⟨le_ceilRoot_mul_self count, fun k hk => ?_⟩
  by_contra hlt
  have hsquare := mul_self_lt_of_lt_ceilRoot (Nat.lt_of_not_le hlt)
  exact absurd hk (Nat.not_le.2 hsquare)

theorem mem_positions_iff {count : Nat} {p : Position} : p ∈ positions count ↔
    ∃ i < count, place (i % gridColumns count) (i / gridColumns count) = p := by
  simp [positions, position_eq_place]

/-- The rows of the root's number hold all places. -/
theorem div_gridColumns_lt {count : Nat} (h : i < count) :
    i / gridColumns count < ceilRoot count := by
  apply Nat.div_lt_of_lt_mul
  calc
    i < count := h
    _ ≤ ceilRoot count * ceilRoot count := le_ceilRoot_mul_self count
    _ ≤ gridColumns count * ceilRoot count :=
      Nat.mul_le_mul_right _ (Nat.le_add_right _ extraColumns)

/-- The heights at which there are places, one for each row. -/
def heights (count : Nat) : Finset Int := ((positions count).map (·.y)).toFinset

theorem card_heights_le (count : Nat) : (heights count).card ≤ ceilRoot count := by
  have hrows : heights count ⊆
      (Finset.range (ceilRoot count)).image fun r => ((r * spacing : Nat) : Int) := by
    intro y hy
    obtain ⟨p, hp, rfl⟩ := List.mem_map.1 (List.mem_toFinset.1 hy)
    obtain ⟨i, hi, rfl⟩ := mem_positions_iff.1 hp
    exact Finset.mem_image.2 ⟨_, Finset.mem_range.2 (div_gridColumns_lt hi), rfl⟩
  calc
    (heights count).card
      ≤ ((Finset.range (ceilRoot count)).image fun r => ((r * spacing : Nat) : Int)).card :=
        Finset.card_le_card hrows
    _ ≤ (Finset.range (ceilRoot count)).card := Finset.card_image_le
    _ = ceilRoot count := Finset.card_range _

/-- The grid of any number of tables, where `k` is the least number whose square is not below it:
there is one place for each table and no place twice, full rows of `k + 2` places come first and
the front of one more row last, all coordinates are multiples of 400 from zero on, and at most `k`
rows are used, fewer than there are places in a row. -/
theorem positions_fill_wide_grid (count k : Nat) (hk : IsLeast {j | count ≤ j * j} k) :
    (positions count).length = count ∧ (positions count).Nodup ∧
    positions count = (List.range (count / (k + 2))).flatMap (row (k + 2)) ++
      (row (k + 2) (count / (k + 2))).take (count % (k + 2)) ∧
    (∀ p ∈ positions count,
      (∃ c r : Nat, p.x = 400 * c ∧ p.y = 400 * r) ∧ p.x ≤ 400 * (k + 1)) ∧
    (heights count).card ≤ k ∧ (heights count).card < k + 2 := by
  obtain rfl : k = ceilRoot count := hk.unique (isLeast_ceilRoot count)
  have hcard : (heights count).card ≤ ceilRoot count := card_heights_le count
  refine ⟨length_positions count, nodup_positions count, ?_, ?_, hcard, by omega⟩
  · exact map_position_range (Nat.zero_lt_succ _) count
  · intro p hp
    obtain ⟨i, -, rfl⟩ := mem_positions_iff.1 hp
    have hcolumn : i % gridColumns count < ceilRoot count + 2 := Nat.mod_lt i (Nat.zero_lt_succ _)
    refine ⟨⟨_, _, place_x _ _, place_y _ _⟩, ?_⟩
    rw [place_x]
    omega

/-- The last of two rows ends early. -/
theorem positions_fill_wide_grid_of_ten :
    IsLeast {j | 10 ≤ j * j} 4 ∧ (positions 10).length = 10 ∧ (positions 10).Nodup ∧
      positions 10 = row 6 0 ++ (row 6 1).take 4 ∧
        ⟨2000, 0⟩ ∈ positions 10 ∧ (2000 : Int) ≤ 400 * ((4 : Nat) + 1) ∧
          (heights 10).card ≤ 4 ∧ (heights 10).card < 6 := by
  have hleast : IsLeast {j | 10 ≤ j * j} 4 := by
    refine ⟨by decide, fun j hj => ?_⟩
    by_contra hlt
    have hsquare : j * j ≤ 3 * 3 := Nat.mul_self_le_mul_self (by omega)
    exact absurd (Nat.le_trans hj hsquare) (by decide)
  obtain ⟨hlength, hnodup, hrows, hplaces, hheights⟩ := positions_fill_wide_grid 10 4 hleast
  have hplace : ⟨2000, 0⟩ ∈ positions 10 := by decide
  exact ⟨hleast, hlength, hnodup, hrows, hplace, (hplaces _ hplace).2, hheights⟩

end TableAtlas.Layout
