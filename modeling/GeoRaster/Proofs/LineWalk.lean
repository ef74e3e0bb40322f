import GeoRaster.LineWalk
import Mathlib.Tactic.Linarith
import Mathlib.Tactic.Ring

/-! Where walks through the grid lead. After some steps along the longer axis, a walk is at the whole
number nearest to the straight line, halves rounded towards the end; the running error is what
rounding has left over. -/
namespace GeoRaster.LineWalk

/-- How far a walk has come along the shorter axis after some steps along the longer one. -/
def offset (long short i : Int) : Int :=
  (2 * short * i + long) / (2 * long)

/-- The running error after some steps along the longer axis. -/
def errorAfter (long short i : Int) : Int :=
  2 * short * (i + 1) - long - 2 * long * offset long short i

variable {long short : Int}

theorem offset_zero (nonneg : 0 ≤ long) : offset long short 0 = 0 := by
  unfold offset
  rcases nonneg.eq_or_lt with rfl | positive
  · simp
  · exact Int.ediv_eq_zero_of_lt (by omega) (by omega)

theorem offset_long (nonneg : 0 ≤ short) (le : short ≤ long) : offset long short long = short := by
  unfold offset
  rcases (nonneg.trans le).eq_or_lt with rfl | positive
  · rw [le_antisymm le nonneg]
    rfl
  · rw [show 2 * short * long + long = long + short * (2 * long) by ring,
      Int.add_mul_ediv_right _ _ (by omega), Int.ediv_eq_zero_of_lt (by omega) (by omega), zero_add]

theorem offset_mono (longNonneg : 0 ≤ long) (nonneg : 0 ≤ short) {i j : Int} (le : i ≤ j) :
    offset long short i ≤ offset long short j := by
  unfold offset
  rcases longNonneg.eq_or_lt with rfl | positive
  · simp
  · apply Int.ediv_le_ediv (by omega)
    have := mul_le_mul_of_nonneg_left le (show 0 ≤ 2 * short by omega)
    omega

/-- On the way to the end, a walk does not leave the extent of the shorter axis. -/
theorem offset_between (nonneg : 0 ≤ short) (le : short ≤ long) {i : Int} (started : 0 ≤ i)
    (reached : i ≤ long) : 0 ≤ offset long short i ∧ offset long short i ≤ short := by
  have longNonneg := nonneg.trans le
  have first := offset_mono longNonneg nonneg started
  have last := offset_mono longNonneg nonneg reached
  rw [offset_zero longNonneg] at first
  rw [offset_long nonneg le] at last
  exact ⟨first, last⟩

theorem neg_two_mul_long_le_errorAfter (positive : 0 < long) (nonneg : 0 ≤ short) (i : Int) :
    -(2 * long) ≤ errorAfter long short i := by
  have below : offset long short i * (2 * long) ≤ 2 * short * i + long :=
    Int.ediv_mul_le _ (by omega)
  unfold errorAfter
  linarith

/-- A step along the longer axis is followed by as many along the shorter one as make the error
negative. -/
theorem offset_succ (positive : 0 < long) (nonneg : 0 ≤ short) (i : Int) :
    offset long short (i + 1) = offset long short i +
      if 0 ≤ errorAfter long short i then errorAfter long short i / (2 * long) + 1 else 0 := by
  have bound := neg_two_mul_long_le_errorAfter positive nonneg i
  have next : offset long short (i + 1) =
      errorAfter long short i / (2 * long) + 1 + offset long short i := by
    have numerator : 2 * short * (i + 1) + long =
        errorAfter long short i + (1 + offset long short i) * (2 * long) := by
      unfold errorAfter
      ring
    rw [offset, numerator, Int.add_mul_ediv_right _ _ (by omega), add_assoc]
  rw [next]
  split
  · ring
  · rename_i negative
    have shifted : errorAfter long short i / (2 * long) = -1 := by
      rw [show errorAfter long short i = errorAfter long short i + 2 * long + -1 * (2 * long) by ring,
        Int.add_mul_ediv_right _ _ (by omega), Int.ediv_eq_zero_of_lt (by omega) (by omega), zero_add]
    rw [shifted]
    ring

theorem errorAfter_succ (i : Int) : errorAfter long short (i + 1) =
    errorAfter long short i - 2 * long * (offset long short (i + 1) - offset long short i) +
      2 * short := by
  unfold errorAfter
  ring

/-- A walk goes on from a state on the line as the line does. -/
theorem walk_eq (positive : 0 < long) (nonneg : 0 ≤ short) (stepLong stepShort x y : Int)
    (steps i : Nat) :
    walk long short stepLong stepShort steps (x + stepLong * i)
        (y + stepShort * offset long short i) (errorAfter long short i) =
      (List.range' i steps).map fun (j : Nat) =>
        (x + stepLong * j, y + stepShort * offset long short j) := by
  induction steps generalizing i with
  | zero => rfl
  | succ steps ih =>
    have moves := eq_sub_of_add_eq' (offset_succ positive nonneg i).symm
    have atLong : x + stepLong * i + stepLong = x + stepLong * ((i + 1 : Nat) : Int) := by
      push_cast
      ring
    have atShort : y + stepShort * offset long short i + stepShort *
        (offset long short (i + 1) - offset long short i) =
          y + stepShort * offset long short ((i + 1 : Nat) : Int) := by
      push_cast
      ring
    simp only [walk, List.range'_succ, List.map_cons]
    rw [moves, ← errorAfter_succ, atLong, atShort]
    exact congrArg _ (ih (i + 1))

/-- A whole walk along a line, its last point left out. -/
theorem walk_line (positive : 0 < long) (nonneg : 0 ≤ short) (stepLong stepShort x y : Int)
    (steps : Nat) :
    walk long short stepLong stepShort steps x y (2 * short - long) =
      (List.range steps).map fun (j : Nat) =>
        (x + stepLong * j, y + stepShort * offset long short j) := by
  have start := walk_eq positive nonneg stepLong stepShort x y steps 0
  rw [← List.range_eq_range'] at start
  simpa [offset_zero positive.le, errorAfter] using start

/-! ### Lines -/

theorem add_unitStep_mul (start stop : Int) :
    start + unitStep start stop * ((stop - start).natAbs : Int) = stop := by
  unfold unitStep
  split <;> omega

/-- The number of steps from one end of a line to the other. -/
def extent (start stop : Int × Int) : Nat :=
  max (stop.1 - start.1).natAbs (stop.2 - start.2).natAbs

/-- The point of a line after some steps along its longer axis. -/
def pointAt (start stop : Int × Int) (i : Int) : Int × Int :=
  let d₁ := (stop.1 - start.1).natAbs
  let d₂ := (stop.2 - start.2).natAbs
  if d₂ < d₁ then
    (start.1 + unitStep start.1 stop.1 * i, start.2 + unitStep start.2 stop.2 * offset d₁ d₂ i)
  else
    (start.1 + unitStep start.1 stop.1 * offset d₂ d₁ i, start.2 + unitStep start.2 stop.2 * i)

theorem pointAt_zero (start stop : Int × Int) : pointAt start stop 0 = start := by
  simp only [pointAt]
  split <;> rw [offset_zero (by omega)] <;> simp

theorem pointAt_extent (start stop : Int × Int) : pointAt start stop (extent start stop) = stop := by
  have first := add_unitStep_mul start.1 stop.1
  have second := add_unitStep_mul start.2 stop.2
  unfold extent
  simp only [pointAt]
  split
  · rename_i wider
    rw [max_eq_left wider.le, offset_long (by omega) (by omega), first, second]
  · rename_i notWider
    rw [max_eq_right (Nat.not_lt.mp notWider), offset_long (by omega) (by omega), first, second]

/-- A line takes the walk to its end. -/
theorem line_eq (start stop : Int × Int) :
    line start stop =
      (List.range (extent start stop + 1)).map fun (i : Nat) => pointAt start stop i := by
  rw [List.range_succ, List.map_append, List.map_singleton, pointAt_extent]
  unfold extent
  by_cases wider : (stop.2 - start.2).natAbs < (stop.1 - start.1).natAbs
  · simp only [line, pointAt, if_pos wider]
    rw [max_eq_left wider.le, walk_line (by omega) (by omega)]
  · simp only [line, pointAt, if_neg wider]
    rw [max_eq_right (Nat.not_lt.mp wider)]
    rcases Nat.eq_zero_or_pos (stop.2 - start.2).natAbs with none | some
    · rw [none]
      rfl
    · rw [walk_line (by omega) (by omega), List.map_map]
      rfl

/-! ### Lengths -/

theorem length_line (start stop : Int × Int) : (line start stop).length = extent start stop + 1 := by
  rw [line_eq, List.length_map, List.length_range]

theorem length_diagonals (x₀ y₀ x₁ y₁ : Int) :
    (diagonals x₀ y₀ x₁ y₁).length = 2 * (extent (x₀, y₀) (x₁, y₁) + 1) := by
  have swapped : extent (x₁, y₀) (x₀, y₁) = extent (x₀, y₀) (x₁, y₁) := by
    unfold extent
    omega
  rw [diagonals, List.length_append, length_line, length_line, swapped]
  omega

/-! ### Squares -/

/-- Where the extents are the same, every step is one along both axes. -/
theorem offset_self {i : Int} (positive : 0 < long) : offset long long i = i := by
  unfold offset
  rw [show 2 * long * i + long = long + i * (2 * long) by ring, Int.add_mul_ediv_right _ _ (by omega),
    Int.ediv_eq_zero_of_lt (by omega) (by omega), zero_add]

/-- A line whose extents are the same goes straight along the diagonal. -/
theorem mem_line_square {start stop p : Int × Int} {n : Nat} (wide : (stop.1 - start.1).natAbs = n)
    (high : (stop.2 - start.2).natAbs = n) :
    p ∈ line start stop ↔ ∃ i : Nat, i ≤ n ∧
      p = (start.1 + unitStep start.1 stop.1 * i, start.2 + unitStep start.2 stop.2 * i) := by
  have straight : ∀ i : Nat, i ≤ n → pointAt start stop i =
      (start.1 + unitStep start.1 stop.1 * i, start.2 + unitStep start.2 stop.2 * i) := by
    intro i le
    simp only [pointAt, wide, high, lt_irrefl, if_false]
    rcases Nat.eq_zero_or_pos n with rfl | positive
    · obtain rfl := Nat.le_zero.mp le
      rw [Nat.cast_zero, offset_zero (le_refl 0)]
    · rw [offset_self (Int.natCast_pos.mpr positive)]
  have length : extent start stop = n := by
    unfold extent
    rw [wide, high, max_self]
  rw [line_eq, length]
  simp only [List.mem_map, List.mem_range, Nat.lt_succ_iff]
  constructor
  · rintro ⟨i, le, rfl⟩
    exact ⟨i, le, straight i le⟩
  · rintro ⟨i, le, rfl⟩
    exact ⟨i, le, straight i le⟩

theorem length_diagonals_square {n : Int} (nonneg : 0 ≤ n) :
    ((diagonals 0 0 n n).length : Int) = 2 * (n + 1) := by
  rw [length_diagonals]
  unfold extent
  omega

/-- The diagonals of a square grid meet the places that they meet in the plane. -/
theorem mem_diagonals_square {n i j : Int} (nonneg : 0 ≤ n) :
    (i, j) ∈ diagonals 0 0 n n ↔ (0 ≤ i ∧ i ≤ n) ∧ (i = j ∨ i + j = n) := by
  rw [diagonals, List.mem_append, mem_line_square (n := n.natAbs) (by simp) (by simp),
    mem_line_square (n := n.natAbs) (by simp) (by simp)]
  simp only [Prod.mk.injEq]
  rcases nonneg.eq_or_lt with rfl | positive
  · constructor
    · rintro (⟨k, le, rfl, rfl⟩ | ⟨k, le, rfl, rfl⟩)
      · obtain rfl : k = 0 := Nat.le_zero.mp le
        simp
      · obtain rfl : k = 0 := Nat.le_zero.mp le
        simp
    · rintro ⟨⟨start, stop⟩, _⟩
      exact .inl ⟨0, le_refl 0, by omega, by omega⟩
  · have ahead : unitStep 0 n = 1 := if_pos positive
    have back : unitStep n 0 = -1 := if_neg positive.le.not_gt
    rw [ahead, back]
    constructor
    · rintro (⟨k, le, rfl, rfl⟩ | ⟨k, le, rfl, rfl⟩)
      · exact ⟨by omega, .inl rfl⟩
      · exact ⟨by omega, .inr (by ring)⟩
    · rintro ⟨⟨start, stop⟩, rising | falling⟩
      · exact .inl ⟨i.natAbs, by omega, by omega, by omega⟩
      · exact .inr ⟨j.natAbs, by omega, by omega, by omega⟩

end GeoRaster.LineWalk
