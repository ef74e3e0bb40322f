import Mathlib.Algebra.Order.Ring.Int
import Mathlib.Tactic.Ring
import GeoRaster.Proofs.Double.Bits

/-! Finite doubles as whole numbers of the smallest positive one. In these units comparing doubles is
comparing integers, and the whole part of a double is a quotient by the number of units in one. -/
namespace GeoRaster.Double

open Decimal (Binary64 infinityBits twoTo)

theorem twoTo_eq (n : Nat) : twoTo n = 2 ^ n :=
  rfl

/-! ### Ranks as units -/

/-- How far the significand of the double of a rank is shifted. -/
def shiftAt (rank : Nat) : Nat :=
  rank / 2 ^ 52 - 1

def significandAt (rank : Nat) : Nat :=
  rank - shiftAt rank * 2 ^ 52

/-- The double of a rank in units. -/
def unitsAt (rank : Nat) : Nat :=
  significandAt rank * 2 ^ shiftAt rank

theorem significandAt_spec (rank : Nat) :
    shiftAt rank * 2 ^ 52 + significandAt rank = rank ∧ significandAt rank < 2 ^ 53 ∧
      (2 ^ 52 ≤ significandAt rank ∨ shiftAt rank = 0) := by
  unfold significandAt shiftAt
  omega

/-- The double of a greater rank is greater. -/
theorem unitsAt_lt {r s : Nat} (less : r < s) : unitsAt r < unitsAt s := by
  obtain ⟨rank, bound, filled⟩ := significandAt_spec r
  obtain ⟨rank', bound', filled'⟩ := significandAt_spec s
  unfold unitsAt
  generalize significandAt r = m at *
  generalize significandAt s = m' at *
  rcases lt_trichotomy (shiftAt r) (shiftAt s) with farther | same | nearer
  · calc m * 2 ^ shiftAt r < 2 ^ 53 * 2 ^ shiftAt r := Nat.mul_lt_mul_of_pos_right bound (Nat.two_pow_pos _)
      _ = 2 ^ 52 * 2 ^ (shiftAt r + 1) := by rw [Nat.pow_succ]; ring
      _ ≤ m' * 2 ^ shiftAt s :=
        Nat.mul_le_mul (by omega) (Nat.pow_le_pow_right (by decide) farther)
  · rw [same] at rank ⊢
    exact Nat.mul_lt_mul_of_pos_right (by omega) (Nat.two_pow_pos _)
  · omega

theorem unitsAt_le_iff {r s : Nat} : unitsAt r ≤ unitsAt s ↔ r ≤ s :=
  (show StrictMono unitsAt from fun _ _ => unitsAt_lt).le_iff_le

theorem unitsAt_zero : unitsAt 0 = 0 :=
  rfl

/-! ### Doubles in units -/

/-- A double in units, with its sign. -/
def units (x : Float) : Int :=
  if Decimal.signBit x then -unitsAt (rank x) else unitsAt (rank x)

theorem natAbs_units (x : Float) : (units x).natAbs = unitsAt (rank x) := by
  unfold units
  split <;> omega

/-- Units and places are in the same order. -/
theorem units_le_iff {x y : Float} : units x ≤ units y ↔ place x ≤ place y := by
  have least {r : Nat} : unitsAt r ≤ 0 ↔ r ≤ 0 := by
    rw [← unitsAt_zero, unitsAt_le_iff, unitsAt_zero]
  have below := @least (rank x)
  have above := @least (rank y)
  have there := @unitsAt_le_iff (rank x) (rank y)
  have back := @unitsAt_le_iff (rank y) (rank x)
  unfold units place
  cases Decimal.signBit x <;> cases Decimal.signBit y <;> simp only [Bool.false_eq_true, if_true, if_false] <;>
    omega

theorem le_iff_units {x y : Float} :
    x ≤ y ↔ rank x ≤ infinityBits ∧ rank y ≤ infinityBits ∧ units x ≤ units y := by
  rw [le_iff, units_le_iff]

theorem beq_iff_units {x y : Float} :
    (x == y) = true ↔ rank x ≤ infinityBits ∧ rank y ≤ infinityBits ∧ units x = units y := by
  have there := @units_le_iff x y
  have back := @units_le_iff y x
  rw [beq_iff]
  omega

theorem units_neg {x : Float} (number : rank x ≤ infinityBits) : units (-x) = -units x := by
  obtain ⟨rank, sign⟩ := neg_spec number
  unfold units
  rw [rank, sign]
  cases Decimal.signBit x <;> simp

/-! ### Bits as units -/

theorem ofFloat_spec (x : Float) : (Binary64.ofFloat x).significand = significandAt (rank x) ∧
    (Binary64.ofFloat x).exponent = shiftAt (rank x) - 1074 := by
  obtain ⟨exponent, fraction⟩ := Decimal.fields_of_bits x.toBits
  have hidden : twoTo 52 = 2 ^ 52 := rfl
  have bound := x.toBits.toNat_lt
  simp only [Binary64.ofFloat, Binary64.ofBits, exponent, fraction, hidden, significandAt, shiftAt, rank]
  split <;> dsimp only <;> omega

/-- How many units there are in one. -/
def one : Nat :=
  twoTo 1074

theorem one_pos : (0 : Int) < one :=
  Int.natCast_pos.mpr (Decimal.twoTo_pos 1074)

/-- Where the last bit of a significand counts more than one, or less. -/
theorem two_pow_of_far {shift : Nat} (far : 1074 ≤ shift) : 2 ^ shift = twoTo (shift - 1074) * one := by
  rw [one, twoTo_eq, twoTo_eq, ← Nat.pow_add, Nat.sub_add_cancel far]

theorem one_of_near {shift : Nat} (near : shift ≤ 1074) : one = twoTo (1074 - shift) * 2 ^ shift := by
  rw [one, twoTo_eq, twoTo_eq, ← Nat.pow_add, Nat.sub_add_cancel near]

theorem exponent_cases (x : Float) :
    0 ≤ (Binary64.ofFloat x).exponent ∧
        unitsAt (rank x) = (Binary64.ofFloat x).significand * twoTo (Binary64.ofFloat x).exponent.toNat * one ∨
      (Binary64.ofFloat x).exponent < 0 ∧
        one = twoTo (-(Binary64.ofFloat x).exponent).toNat * 2 ^ shiftAt (rank x) := by
  obtain ⟨significand, exponent⟩ := ofFloat_spec x
  rw [significand, exponent]
  rcases le_or_gt 1074 (shiftAt (rank x)) with far | near
  · have place : ((shiftAt (rank x) : Int) - 1074).toNat = shiftAt (rank x) - 1074 := by omega
    refine .inl ⟨by omega, ?_⟩
    rw [place, unitsAt, two_pow_of_far far, Nat.mul_assoc]
  · have place : (-((shiftAt (rank x) : Int) - 1074)).toNat = 1074 - shiftAt (rank x) := by omega
    refine .inr ⟨by omega, ?_⟩
    rw [place]
    exact one_of_near near.le

theorem floorInt_eq (x : Float) : Decimal.floorInt x = units x / one := by
  have significand := (ofFloat_spec x).1
  unfold Decimal.floorInt units
  dsimp only
  rcases exponent_cases x with ⟨far, parts⟩ | ⟨near, parts⟩
  · rw [if_pos far, parts, Int.natCast_mul, Int.natCast_mul]
    split
    · rw [← Int.neg_mul, Int.mul_ediv_cancel _ one_pos.ne', Int.neg_mul]
    · rw [Int.mul_ediv_cancel _ one_pos.ne']
  · have scale : (0 : Int) < (2 ^ shiftAt (rank x) : Nat) := Int.natCast_pos.mpr (Nat.two_pow_pos _)
    rw [if_neg (Int.not_le.mpr near), Int.fdiv_eq_ediv_of_nonneg _ (Int.natCast_nonneg _), parts, unitsAt,
      ← significand, Int.natCast_mul, Int.natCast_mul]
    split
    · rw [← Int.neg_mul, Int.mul_ediv_mul_of_pos_left _ _ scale]
    · rw [Int.mul_ediv_mul_of_pos_left _ _ scale]

/-- What is whole is a number of ones. -/
theorem units_eq_of_isWhole {x : Float} (whole : Decimal.isWhole x = true) :
    units x = Decimal.floorInt x * one := by
  have divides : one ∣ unitsAt (rank x) := by
    simp only [Decimal.isWhole, Bool.and_eq_true, Bool.or_eq_true, decide_eq_true_eq] at whole
    rcases exponent_cases x with ⟨_, parts⟩ | ⟨near, parts⟩
    · exact ⟨_, parts.trans (Nat.mul_comm _ _)⟩
    · have divides := Nat.dvd_of_mod_eq_zero (whole.2.resolve_left (Int.not_le.mpr near))
      rw [(ofFloat_spec x).1] at divides
      rw [parts, unitsAt]
      exact Nat.mul_dvd_mul_right divides _
  have signed : (one : Int) ∣ units x := Int.natCast_dvd.mpr (natAbs_units x ▸ divides)
  rw [floorInt_eq, Int.ediv_mul_cancel signed]

end GeoRaster.Double
