import Mathlib.Algebra.Order.Ring.Int
import Mathlib.Tactic.Ring
import GeoRaster.Proofs.Double.Units
import GeoRaster.Scalar.Double

/-! Whole numbers that are doubles. A natural number is one if its first 53 bits are all of it, up to
zeros, and it is not too large; the double nearest to it then is that number. The whole part of a
finite double is such a number, so it is not rounded when it becomes a double again. -/
namespace GeoRaster.Double

open Decimal (infinityBits twoTo twoTo_pos assemble roundDiv leadingExponent nearest ofInt floorInt)

/-! ### Doubles put together -/

theorem unitsAt_eq {shift significand : Nat} (bound : significand ≤ 2 ^ 53)
    (filled : 2 ^ 52 ≤ significand ∨ shift = 0) :
    unitsAt (shift * 2 ^ 52 + significand) = significand * 2 ^ shift := by
  unfold unitsAt significandAt
  rcases bound.lt_or_eq with fits | rfl
  · have same : shiftAt (shift * 2 ^ 52 + significand) = shift := by
      unfold shiftAt
      omega
    rw [same, Nat.add_sub_cancel_left]
  · -- the carry makes the significand half as large and the shift one more
    have next : shiftAt (shift * 2 ^ 52 + 2 ^ 53) = shift + 1 := by
      unfold shiftAt
      omega
    have half : shift * 2 ^ 52 + 2 ^ 53 - (shift + 1) * 2 ^ 52 = 2 ^ 52 := by omega
    rw [next, half, Nat.pow_succ]
    ring

/-- A significand at a place, by its rank. -/
theorem rank_assemble {significand : Nat} {place : Int}
    (below : (place + 1074).toNat * 2 ^ 52 + significand < infinityBits) :
    rank (assemble significand place) = (place + 1074).toNat * 2 ^ 52 + significand ∧
      Decimal.signBit (assemble significand place) = false := by
  have small : infinityBits < 2 ^ 63 := by decide
  have bits : (assemble significand place).toBits.toNat =
      (place + 1074).toNat * 2 ^ 52 + significand := by
    have below : (place + 1074).toNat * twoTo 52 + significand < infinityBits := below
    unfold assemble
    dsimp only
    rw [if_pos below, twoTo_eq]
    have exact : (UInt64.ofNat ((place + 1074).toNat * 2 ^ 52 + significand)).toNat =
        (place + 1074).toNat * 2 ^ 52 + significand :=
      UInt64.toNat_ofNat_of_lt' (below.trans (small.trans (by decide)))
    rw [toBits_ofBits (by omega), exact]
  refine ⟨?_, ?_⟩
  · unfold rank
    omega
  · rw [← Bool.not_eq_true, signBit_iff]
    omega

/-- A significand at a place is a double, if it is not too large. -/
theorem assemble_spec {significand : Nat} {place : Int} (bound : significand ≤ 2 ^ 53)
    (filled : 2 ^ 52 ≤ significand ∨ place = -1074)
    (below : (place + 1074).toNat * 2 ^ 52 + significand < infinityBits) :
    (assemble significand place).isFinite = true ∧
      units (assemble significand place) = (significand * 2 ^ (place + 1074).toNat : Nat) := by
  obtain ⟨ranked, positive⟩ := rank_assemble below
  refine ⟨isFinite_iff.mpr (ranked ▸ below), ?_⟩
  unfold units
  rw [positive, ranked, unitsAt_eq bound (filled.imp_right (by omega))]
  rfl

/-! ### Whole numbers of 53 bits -/

/-- Whether a natural number is a double. -/
def Fits (n : Nat) : Prop :=
  n < twoTo 1024 ∧ ∃ significand shift, significand < 2 ^ 53 ∧ n = significand * 2 ^ shift

theorem twoTo_mul {a b c d : Nat} (same : a + b = c + d) : twoTo a * twoTo b = twoTo c * twoTo d := by
  rw [twoTo_eq, twoTo_eq, twoTo_eq, twoTo_eq, ← Nat.pow_add, ← Nat.pow_add, same]

theorem twoTo_le {a b : Nat} (le : a ≤ b) : twoTo a ≤ twoTo b :=
  Nat.pow_le_pow_right (by decide) le

theorem log2_lt {n k : Nat} (positive : 0 < n) : n.log2 < k ↔ n < twoTo k :=
  Nat.log2_lt positive.ne'

theorem roundDiv_mul {q den : Nat} (positive : 0 < den) : roundDiv (q * den) den = q := by
  unfold roundDiv
  simp only [Nat.mul_mod_left, Nat.mul_div_cancel q positive, Nat.mul_zero, if_pos positive]

theorem leadingExponent_one {n : Nat} (positive : 0 < n) : leadingExponent n 1 = n.log2 := by
  have power : 1 * twoTo n.log2 ≤ n * twoTo 0 := by
    rw [twoTo_eq, twoTo_eq, Nat.one_mul, Nat.pow_zero, Nat.mul_one]
    exact Nat.log2_self_le positive.ne'
  have last : Nat.log2 1 = 0 := by decide
  have up : ((n.log2 : Int) - (0 : Nat)).toNat = n.log2 := by omega
  have down : (-((n.log2 : Int) - (0 : Nat))).toNat = 0 := by omega
  unfold leadingExponent
  simp only [last, up, down]
  rw [if_pos power]
  omega

/-- The 53 bits that a natural number starts with, if they are all of it. -/
theorem Fits.exists_leading {n : Nat} (fits : Fits n) (positive : 0 < n) :
    ∃ q, q * 2 ^ (n.log2 - 52) = n * 2 ^ (52 - n.log2) ∧ 2 ^ 52 ≤ q ∧ q < 2 ^ 53 := by
  obtain ⟨_, significand, shift, bound, parts⟩ := fits
  have below := Nat.log2_self_le positive.ne'
  have above := Nat.lt_log2_self (n := n)
  have near : n.log2 < 53 + shift := by
    rw [Nat.log2_lt positive.ne', Nat.pow_add, parts]
    exact Nat.mul_lt_mul_of_pos_right bound (Nat.two_pow_pos shift)
  generalize n.log2 = log at below above near ⊢
  have divides : 2 ^ (log - 52) ∣ n :=
    parts ▸ Dvd.dvd.mul_left (Nat.pow_dvd_pow 2 (by omega)) significand
  obtain ⟨q, whole⟩ := divides.mul_right (2 ^ (52 - log))
  have balance : 2 ^ 52 * 2 ^ (log - 52) = 2 ^ log * 2 ^ (52 - log) := twoTo_mul (by omega)
  rw [Nat.mul_comm (2 ^ (log - 52))] at whole
  refine ⟨q, whole.symm, ?_, ?_⟩
  · apply Nat.le_of_mul_le_mul_right _ (Nat.two_pow_pos (log - 52))
    rw [← whole, balance]
    exact Nat.mul_le_mul_right _ below
  · apply Nat.lt_of_mul_lt_mul_right (a := 2 ^ (log - 52))
    rw [← whole, Nat.pow_succ, Nat.mul_right_comm, balance, Nat.mul_right_comm, ← Nat.pow_succ]
    exact Nat.mul_lt_mul_of_pos_right above (Nat.two_pow_pos _)

/-- A natural number of 53 bits is the double nearest to it. -/
theorem nearest_one {n : Nat} (fits : Fits n) :
    (nearest n 1).isFinite = true ∧ units (nearest n 1) = (n * one : Nat) := by
  unfold nearest
  split
  · rename_i zero
    subst zero
    exact ⟨by decide +kernel, by decide +kernel⟩
  · rename_i nonzero
    have positive := Nat.pos_of_ne_zero nonzero
    obtain ⟨q, whole, filled, bound⟩ := fits.exists_leading positive
    have size : n.log2 < 1024 := (log2_lt positive).mpr fits.1
    have down : (-((n.log2 : Int) - 52)).toNat = 52 - n.log2 := by omega
    have up : ((n.log2 : Int) - 52).toNat = n.log2 - 52 := by omega
    have shift : ((n.log2 : Int) - 52 + 1074).toNat = n.log2 + 1022 := by omega
    simp only [leadingExponent_one positive]
    rw [if_neg (by omega), down, up, twoTo_eq, twoTo_eq, Nat.one_mul, ← whole,
      roundDiv_mul (Nat.two_pow_pos _)]
    have below : ((n.log2 : Int) - 52 + 1074).toNat * 2 ^ 52 + q < infinityBits := by
      rw [shift, infinityBits]
      omega
    obtain ⟨finite, exact⟩ := assemble_spec bound.le (.inl filled) below
    refine ⟨finite, ?_⟩
    rw [exact, shift]
    refine congrArg Nat.cast ?_
    apply Nat.eq_of_mul_eq_mul_right (Nat.two_pow_pos (52 - n.log2))
    calc q * 2 ^ (n.log2 + 1022) * 2 ^ (52 - n.log2)
        = q * 2 ^ (n.log2 - 52) * one := by
          rw [Nat.mul_assoc, Nat.mul_assoc]
          exact congrArg (q * ·) (twoTo_mul (by omega))
      _ = n * one * 2 ^ (52 - n.log2) := by rw [whole]; ring

theorem ofInt_spec {n : Int} (fits : Fits n.natAbs) :
    (ofInt n).isFinite = true ∧ units (ofInt n) = n * one := by
  obtain ⟨finite, exact⟩ := nearest_one fits
  have number := (isFinite_iff.mp finite).le
  unfold ofInt
  split
  · refine ⟨isFinite_iff.mpr ?_, ?_⟩
    · rw [(neg_spec number).1]
      exact isFinite_iff.mp finite
    · rw [units_neg number, exact, Int.natCast_mul, ← Int.neg_mul]
      congr 1
      omega
  · refine ⟨finite, ?_⟩
    rw [exact, Int.natCast_mul]
    congr 1
    omega

/-! ### Whole parts -/

theorem unitsAt_infinityBits : unitsAt infinityBits = twoTo 1024 * one := by
  obtain ⟨shift, greatest⟩ : ∃ shift, shift = 2045 := ⟨_, rfl⟩
  have parts : infinityBits = shift * 2 ^ 52 + 2 ^ 53 := by
    rw [greatest]
    decide
  rw [parts, unitsAt_eq (Nat.le_refl _) (.inl (by decide)), one, ← twoTo_eq, ← twoTo_eq,
    twoTo_mul (c := 1024) (d := 1074) (by omega)]

/-- The whole part of a finite double is a double. -/
theorem fits_floorInt {x : Float} (finite : x.isFinite = true) : Fits (floorInt x).natAbs := by
  have below : unitsAt (rank x) < twoTo 1024 * one :=
    unitsAt_infinityBits ▸ unitsAt_lt (isFinite_iff.mp finite)
  obtain ⟨_, bound, _⟩ := significandAt_spec (rank x)
  rw [floorInt_eq]
  by_cases far : 1074 ≤ shiftAt (rank x)
  · have shift : unitsAt (rank x) = significandAt (rank x) * 2 ^ (shiftAt (rank x) - 1074) * one := by
      rw [unitsAt, two_pow_of_far far, twoTo_eq, Nat.mul_assoc]
    have whole : (units x / one).natAbs = significandAt (rank x) * 2 ^ (shiftAt (rank x) - 1074) := by
      unfold units
      rw [shift, Int.natCast_mul]
      split
      · rw [← Int.neg_mul, Int.mul_ediv_cancel _ one_pos.ne', Int.natAbs_neg, Int.natAbs_natCast]
      · rw [Int.mul_ediv_cancel _ one_pos.ne', Int.natAbs_natCast]
    refine ⟨?_, _, _, bound, whole⟩
    rw [whole]
    exact Nat.lt_of_mul_lt_mul_right (shift ▸ below)
  · have size : unitsAt (rank x) ≤ significandAt (rank x) * one :=
      Nat.mul_le_mul_left _ (twoTo_le (Nat.le_of_not_le far))
    have signed : -(significandAt (rank x) * one : Int) ≤ units x ∧
        units x ≤ significandAt (rank x) * one := by
      have size := Int.ofNat_le.mpr size
      rw [Int.natCast_mul] at size
      unfold units
      split <;> omega
    have least : -(significandAt (rank x) : Int) ≤ units x / one :=
      Int.le_ediv_of_mul_le one_pos (Int.neg_mul _ _ ▸ signed.1)
    have greatest : units x / one ≤ significandAt (rank x) := Int.ediv_le_of_le_mul one_pos signed.2
    have within : (units x / one).natAbs < twoTo 53 := by
      rw [twoTo_eq]
      omega
    exact ⟨within.trans_le (twoTo_le (by decide)), _, 0, within, (Nat.mul_one _).symm⟩

/-- The whole part of a finite double, as a double: it is exact, and again its own whole part. -/
theorem ofInt_floorInt {x : Float} (finite : x.isFinite = true) :
    (ofInt (floorInt x)).isFinite = true ∧ units (ofInt (floorInt x)) = floorInt x * one :=
  ofInt_spec (fits_floorInt finite)

theorem floorInt_of_units {x : Float} {n : Int} (whole : units x = n * one) : floorInt x = n := by
  rw [floorInt_eq, whole, Int.mul_ediv_cancel _ one_pos.ne']

theorem floor?_of_isFinite {x : Float} (finite : x.isFinite = true) :
    floor? x = .ok (floorInt x) := by
  have below := isFinite_iff.mp finite
  have number : ¬ x.isNaN = true := mt isNaN_iff.mp (by omega)
  have bounded : ¬ x.isInf = true := mt isInf_iff.mp (by omega)
  unfold floor?
  rw [if_neg number, if_neg bounded]

end GeoRaster.Double
