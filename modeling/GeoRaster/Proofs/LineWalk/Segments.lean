import Mathlib.Algebra.Order.Round
import Mathlib.Data.List.Chain
import Mathlib.Data.List.Range
import Mathlib.Data.Rat.Floor
import GeoRaster.Proofs.LineWalk.Loops

/-! Lines follow straight segments. Seen from either axis alone, a line takes its steps evenly: after some of
them it is at the whole number nearest to where the segment is after that part of its length. Along
an axis of greatest extent that is exact, and every step counts one. So a line keeps between its ends. -/
namespace GeoRaster.LineWalk

/-- Rounding to the nearest whole number, halves upwards. -/
theorem offset_eq_round (steps : Nat) (extent i : Int) :
    offset steps extent i = round (extent * i / steps : ℚ) := by
  rcases Nat.eq_zero_or_pos steps with rfl | positive
  · simp [offset]
  · have nonzero : (steps : ℚ) ≠ 0 := by positivity
    have quotient : ((extent * i / steps : ℚ) + 1 / 2) =
        ((2 * extent * i + steps : ℤ) : ℚ) / ((2 * steps : ℕ) : ℚ) := by
      push_cast
      field_simp
    rw [round_eq, quotient, Rat.floor_intCast_div_natCast, offset]
    push_cast
    rfl

theorem offset_whole {steps i : Nat} (le : i ≤ steps) : offset steps steps i = i := by
  rcases Nat.eq_zero_or_pos steps with rfl | positive
  · obtain rfl := Nat.le_zero.mp le
    rfl
  · exact offset_self (Int.natCast_pos.mpr positive)

theorem offset_of_zero (steps : Nat) (i : Int) : offset steps 0 i = 0 := by
  rw [offset_eq_round]
  simp

/-- With each step along the longer axis comes one along the shorter axis, or none. -/
theorem offset_succ_between {long short : Int} (nonneg : 0 ≤ short) (le : short ≤ long) (i : Int) :
    offset long short i ≤ offset long short (i + 1) ∧
      offset long short (i + 1) ≤ offset long short i + 1 := by
  rcases (nonneg.trans le).eq_or_lt with rfl | positive
  · simp [offset]
  · constructor
    · exact offset_mono positive.le nonneg (by omega)
    · have carried : 2 * short * i + long + 2 * long = 2 * short * i + long + 1 * (2 * long) := by ring
      unfold offset
      rw [← Int.add_mul_ediv_right _ 1 (show 2 * long ≠ 0 by omega), ← carried]
      apply Int.ediv_le_ediv (by omega)
      rw [mul_add]
      omega

/-! ### One axis -/

/-- The coordinate along one axis after some of a line's steps. -/
def coordinateAt (start stop : Int) (steps : Nat) (i : Int) : Int :=
  start + (stop - start).sign * offset steps |stop - start| i

/-- The coordinate of the straight segment after the same part of its length. -/
def straightAt (start stop : Int) (steps : Nat) (i : Int) : ℚ :=
  start + (stop - start) * i / steps

/-- How a line's coordinates along one axis lead from one end to the other: evenly, and never past an end. -/
structure Leads (start stop : Int) (steps : Nat) (coordinates : List Int) : Prop where
  length : coordinates.length = steps + 1
  between : ∀ c ∈ coordinates, min start stop ≤ c ∧ c ≤ max start stop
  /-- Each coordinate is as many steps towards the end as the formula says. -/
  place : ∀ (i : Nat) (c : Int), coordinates[i]? = some c →
    c = start + (stop - start).sign * ((2 * |stop - start| * i + steps) / (2 * steps))
  near : ∀ (i : Nat) (c : Int), coordinates[i]? = some c → |c - straightAt start stop steps i| ≤ 1 / 2
  adjacent : coordinates.IsChain fun c d => |d - c| ≤ 1
  /-- Along an axis of greatest extent, no step is left out and nothing is rounded. -/
  longest : |stop - start| = steps → coordinates.IsChain (fun c d => |d - c| = 1) ∧
    ∀ (i : Nat) (c : Int), coordinates[i]? = some c → (c : ℚ) = straightAt start stop steps i

variable {start stop : Int} {steps : Nat}

/-- In either direction, a coordinate is as far from the segment as rounding takes it. -/
theorem coordinateAt_sub_straightAt (start stop : Int) (steps : Nat) (i : Int) :
    (coordinateAt start stop steps i : ℚ) - straightAt start stop steps i =
      (stop - start).sign *
        (offset steps |stop - start| i - (|stop - start| : ℤ) * i / steps) := by
  have extent : ((stop : ℚ) - start) = (stop - start).sign * (|stop - start| : ℤ) := by
    rw [← Int.cast_mul, Int.sign_mul_abs, Int.cast_sub]
  rw [coordinateAt, straightAt, extent]
  push_cast
  ring

theorem abs_sign_le_one (n : Int) : |n.sign| ≤ 1 := by
  rcases eq_or_ne n 0 with rfl | nonzero
  · decide
  · exact (Int.abs_sign_of_ne_zero nonzero).le

theorem coordinateAt_near (start stop : Int) (steps : Nat) (i : Int) :
    |(coordinateAt start stop steps i : ℚ) - straightAt start stop steps i| ≤ 1 / 2 := by
  have sign : |((stop - start).sign : ℚ)| ≤ 1 := by
    exact_mod_cast abs_sign_le_one (stop - start)
  have rounded : |(offset steps |stop - start| i - (|stop - start| : ℤ) * i / steps : ℚ)| ≤ 1 / 2 := by
    rw [offset_eq_round, abs_sub_comm]
    exact abs_sub_round _
  rw [coordinateAt_sub_straightAt, abs_mul]
  exact (mul_le_of_le_one_left (abs_nonneg _) sign).trans rounded

theorem coordinateAt_of_longest (longest : |stop - start| = steps) {i : Nat} (le : i ≤ steps) :
    (coordinateAt start stop steps i : ℚ) = straightAt start stop steps i := by
  rw [← sub_eq_zero, coordinateAt_sub_straightAt, longest, offset_whole le]
  rcases Nat.eq_zero_or_pos steps with rfl | positive
  · obtain rfl := Nat.le_zero.mp le
    simp
  · have nonzero : (steps : ℚ) ≠ 0 := by positivity
    push_cast
    rw [mul_div_cancel_left₀ _ nonzero, sub_self, mul_zero]

theorem coordinateAt_between (le : |stop - start| ≤ steps) {i : Nat} (reached : i ≤ steps) :
    min start stop ≤ coordinateAt start stop steps i ∧
      coordinateAt start stop steps i ≤ max start stop := by
  obtain ⟨nonneg, most⟩ := offset_between (abs_nonneg (stop - start)) le (Int.natCast_nonneg i)
    (Int.ofNat_le.mpr reached)
  unfold coordinateAt
  rcases lt_trichotomy start stop with forwards | rfl | backwards
  · rw [Int.sign_eq_one_of_pos (by omega)]
    rw [abs_of_pos (by omega)] at *
    omega
  · simp
  · rw [Int.sign_eq_neg_one_of_neg (by omega)]
    rw [abs_of_neg (by omega)] at *
    omega

/-- Steps along an axis are at most one, and exactly one where the extent along it is greatest. -/
theorem coordinateAt_succ (le : |stop - start| ≤ steps) {i : Nat} (more : i < steps) :
    |coordinateAt start stop steps (i + 1) - coordinateAt start stop steps i| ≤ 1 ∧
      (|stop - start| = steps →
        |coordinateAt start stop steps (i + 1) - coordinateAt start stop steps i| = 1) := by
  have moved : coordinateAt start stop steps (i + 1) - coordinateAt start stop steps i =
      (stop - start).sign *
        (offset steps |stop - start| (i + 1) - offset steps |stop - start| i) := by
    unfold coordinateAt
    ring
  obtain ⟨least, most⟩ := offset_succ_between (abs_nonneg (stop - start)) le i
  rw [moved, abs_mul]
  constructor
  · have once : |offset steps |stop - start| (i + 1) - offset steps |stop - start| i| ≤ 1 := by
      rw [abs_of_nonneg (by omega)]
      omega
    exact mul_le_one₀ (abs_sign_le_one _) (abs_nonneg _) once
  · intro longest
    have extended : 0 < |stop - start| := by omega
    have once : offset steps |stop - start| (i + 1) - offset steps |stop - start| i = 1 := by
      have reached : offset steps steps ((i : Int) + 1) = i + 1 := by
        exact_mod_cast offset_whole (Nat.succ_le_of_lt more)
      rw [longest, reached, offset_whole more.le]
      ring
    rw [once, abs_one, mul_one, Int.abs_sign_of_ne_zero (abs_pos.mp extended)]

theorem getElem?_map_range {β : Type} {f : Nat → β} {n i : Nat} {c : β}
    (found : ((List.range n).map f)[i]? = some c) : i < n ∧ f i = c := by
  rcases Nat.lt_or_ge i n with less | notLess
  · rw [List.getElem?_map, List.getElem?_range less, Option.map_some, Option.some.injEq] at found
    exact ⟨less, found⟩
  · rw [List.getElem?_eq_none (by simpa using notLess)] at found
    cases found

theorem leads (le : |stop - start| ≤ steps) :
    Leads start stop steps
      ((List.range (steps + 1)).map fun (i : Nat) => coordinateAt start stop steps i) where
  length := by simp
  between := by
    intro c member
    obtain ⟨i, reached, rfl⟩ := List.mem_map.mp member
    exact coordinateAt_between le (Nat.le_of_lt_succ (List.mem_range.mp reached))
  place := by
    intro i c found
    obtain ⟨_, rfl⟩ := getElem?_map_range found
    rfl
  near := by
    intro i c found
    obtain ⟨_, rfl⟩ := getElem?_map_range found
    exact coordinateAt_near start stop steps i
  adjacent := by
    rw [List.isChain_map, List.isChain_range_succ]
    intro i more
    exact (coordinateAt_succ le more).1
  longest := by
    intro longest
    constructor
    · rw [List.isChain_map, List.isChain_range_succ]
      intro i more
      exact (coordinateAt_succ le more).2 longest
    · intro i c found
      obtain ⟨reached, rfl⟩ := getElem?_map_range found
      exact coordinateAt_of_longest longest (Nat.le_of_lt_succ reached)

/-! ### Both axes -/

theorem unitStep_mul_offset (start stop : Int) (steps : Nat) (i : Int) :
    unitStep start stop * offset steps |stop - start| i =
      (stop - start).sign * offset steps |stop - start| i := by
  rcases lt_trichotomy start stop with forwards | rfl | backwards
  · rw [unitStep, if_pos forwards, Int.sign_eq_one_of_pos (by omega)]
  · rw [sub_self, abs_zero, offset_of_zero, mul_zero, mul_zero]
  · rw [unitStep, if_neg backwards.le.not_gt, Int.sign_eq_neg_one_of_neg (by omega)]

/-- A line goes along both axes by the same rule: along the longer one, the rule rounds nothing. -/
theorem pointAt_eq (start stop : Int × Int) {i : Nat} (reached : i ≤ extent start stop) :
    pointAt start stop i = (coordinateAt start.1 stop.1 (extent start stop) i,
      coordinateAt start.2 stop.2 (extent start stop) i) := by
  unfold extent at *
  simp only [pointAt, coordinateAt, ← unitStep_mul_offset]
  split
  · rename_i wider
    rw [max_eq_left wider.le] at *
    rw [← Int.natCast_natAbs, ← Int.natCast_natAbs, offset_whole reached]
  · rename_i notWider
    rw [max_eq_right (Nat.not_lt.mp notWider)] at *
    rw [← Int.natCast_natAbs, ← Int.natCast_natAbs, offset_whole reached]

theorem line_eq_coordinates (start stop : Int × Int) :
    line start stop = (List.range (extent start stop + 1)).map fun (i : Nat) =>
      (coordinateAt start.1 stop.1 (extent start stop) i,
        coordinateAt start.2 stop.2 (extent start stop) i) := by
  rw [line_eq]
  apply List.map_congr_left
  intro i reached
  exact pointAt_eq start stop (Nat.le_of_lt_succ (List.mem_range.mp reached))

theorem abs_le_extent (start stop : Int × Int) :
    |stop.1 - start.1| ≤ extent start stop ∧ |stop.2 - start.2| ≤ extent start stop := by
  rw [Int.abs_eq_natAbs, Int.abs_eq_natAbs]
  exact ⟨Int.ofNat_le.mpr (le_max_left _ _), Int.ofNat_le.mpr (le_max_right _ _)⟩

theorem head?_line (start stop : Int × Int) : (line start stop).head? = some start := by
  simp [line_eq, List.range_succ_eq_map, pointAt_zero]

theorem getLast?_line (start stop : Int × Int) : (line start stop).getLast? = some stop := by
  simp [line]

/-- How places follow the straight segment from one end to another: loops draw them and come to the other
end, and seen from either axis they lead there evenly. -/
structure Follows (start stop : Int × Int) (places : List (Int × Int)) : Prop where
  first : places.head? = some start
  last : places.getLast? = some stop
  drawn : ∀ drawn reached, LineDrawn start stop drawn reached ↔ drawn = places ∧ reached = stop
  across : Leads start.1 stop.1 (extent start stop) (places.map Prod.fst)
  up : Leads start.2 stop.2 (extent start stop) (places.map Prod.snd)

theorem line_follows (start stop : Int × Int) : Follows start stop (line start stop) := by
  obtain ⟨widest, highest⟩ := abs_le_extent start stop
  have across := leads widest
  have up := leads highest
  constructor
  · exact head?_line start stop
  · exact getLast?_line start stop
  · intro drawn reached
    exact lineDrawn_iff
  · rwa [line_eq_coordinates, List.map_map]
  · rwa [line_eq_coordinates, List.map_map]

/-- A place halfway between two is rounded towards the end, so a line back is another one. -/
example : line (0, 0) (2, 1) = [(0, 0), (1, 1), (2, 1)] ∧
    line (2, 1) (0, 0) = [(2, 1), (1, 0), (0, 0)] := by
  decide

/-- The points of a line lie between its ends. -/
theorem between_of_mem_line {start stop p : Int × Int} (member : p ∈ line start stop) :
    (min start.1 stop.1 ≤ p.1 ∧ p.1 ≤ max start.1 stop.1) ∧
      min start.2 stop.2 ≤ p.2 ∧ p.2 ≤ max start.2 stop.2 := by
  have follows := line_follows start stop
  constructor
  · exact follows.across.between p.1 (List.mem_map_of_mem member)
  · exact follows.up.between p.2 (List.mem_map_of_mem member)

/-! ### Diagonals -/

theorem corner_mem_diagonals {x₀ y₀ x₁ y₁ x y : Int} (atX : x = x₀ ∨ x = x₁) (atY : y = y₀ ∨ y = y₁) :
    (x, y) ∈ diagonals x₀ y₀ x₁ y₁ := by
  have first (start stop : Int × Int) : start ∈ line start stop :=
    List.mem_of_mem_head? (head?_line start stop)
  have last (start stop : Int × Int) : stop ∈ line start stop :=
    List.mem_of_getLast? (getLast?_line start stop)
  unfold diagonals
  rcases atX with rfl | rfl <;> rcases atY with rfl | rfl
  · exact List.mem_append_left _ (first _ _)
  · exact List.mem_append_right _ (last _ _)
  · exact List.mem_append_right _ (first _ _)
  · exact List.mem_append_left _ (last _ _)

theorem between_of_mem_diagonals {x₀ y₀ x₁ y₁ : Int} (wide : x₀ ≤ x₁) (high : y₀ ≤ y₁)
    {p : Int × Int} (member : p ∈ diagonals x₀ y₀ x₁ y₁) :
    (x₀ ≤ p.1 ∧ p.1 ≤ x₁) ∧ y₀ ≤ p.2 ∧ p.2 ≤ y₁ := by
  rcases List.mem_append.mp member with rising | falling
  · have between := between_of_mem_line rising
    rwa [min_eq_left wide, max_eq_right wide, min_eq_left high, max_eq_right high] at between
  · have between := between_of_mem_line falling
    rwa [min_eq_right wide, max_eq_left wide, min_eq_left high, max_eq_right high] at between

end GeoRaster.LineWalk
