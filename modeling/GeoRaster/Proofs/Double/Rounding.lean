import Mathlib.Algebra.Order.Field.Power
import Mathlib.Algebra.Order.Field.Rat
import Mathlib.Tactic.FieldSimp
import Mathlib.Tactic.Linarith
import Mathlib.Tactic.NormNum
import Mathlib.Tactic.Ring
import GeoRaster.Proofs.Double.Whole

/-! Rounding to the nearest double. A quotient of naturals is rounded at the one place where 53 bits of it
are left, or at the last place of all. What lies between the midpoints to the neighbours of a double, or on
them where its significand is even, is rounded to that double. -/
namespace GeoRaster.Double

open Decimal (Binary64 infinityBits twoTo twoTo_pos assemble roundDiv leadingExponent nearest)

/-! ### Powers of two -/

theorem two_zpow_pos (k : ℤ) : (0 : ℚ) < 2 ^ k :=
  zpow_pos two_pos k

theorem cast_twoTo (n : Nat) : ((twoTo n : Nat) : ℚ) = 2 ^ n := by
  rw [twoTo_eq, Nat.cast_pow]
  rfl

theorem mul_two_pow_le {w : ℚ} {n : Nat} {k : ℤ} (positive : 0 ≤ w) (le : n ≤ k) : w * 2 ^ n ≤ w * 2 ^ k :=
  mul_le_mul_of_nonneg_left (zpow_natCast (2 : ℚ) n ▸ zpow_le_zpow_right₀ one_le_two le) positive

/-- A power, with its exponent in two parts of which one is zero. -/
theorem pow_div_pow {b : ℚ} (nonzero : b ≠ 0) (k : ℤ) : b ^ k.toNat / b ^ (-k).toNat = b ^ k := by
  rw [← zpow_natCast, ← zpow_natCast, ← zpow_sub₀ nonzero]
  congr 1
  omega

/-- Shifts of both parts of a quotient. -/
theorem scaled_div (num den : Nat) (k : ℤ) :
    ((num * twoTo (-k).toNat : Nat) : ℚ) / (den * twoTo k.toNat : Nat) = num / den / 2 ^ k := by
  have shift := pow_div_pow (two_ne_zero (α := ℚ)) (-k)
  rw [neg_neg] at shift
  rw [Nat.cast_mul, Nat.cast_mul, cast_twoTo, cast_twoTo, mul_div_mul_comm, shift, zpow_neg, ← div_eq_mul_inv]

theorem scaled_le_iff {num den : Nat} (positive : 0 < den) (k : ℤ) :
    den * twoTo k.toNat ≤ num * twoTo (-k).toNat ↔ (2 ^ k : ℚ) ≤ num / den := by
  have whole : (0 : ℚ) < (den * twoTo k.toNat : Nat) :=
    Nat.cast_pos.mpr (Nat.mul_pos positive (twoTo_pos _))
  rw [← Nat.cast_le (α := ℚ), ← one_le_div₀ whole, scaled_div, one_le_div₀ (two_zpow_pos k)]

theorem log2_spec {n : Nat} (positive : 0 < n) :
    (2 : ℚ) ^ (n.log2 : ℤ) ≤ n ∧ (n : ℚ) < 2 ^ ((n.log2 : ℤ) + 1) := by
  refine ⟨?_, ?_⟩
  · rw [zpow_natCast, ← cast_twoTo]
    exact Nat.cast_le.mpr (Nat.log2_self_le positive.ne')
  · rw [← Nat.cast_succ, zpow_natCast, ← cast_twoTo]
    exact Nat.cast_lt.mpr Nat.lt_log2_self

theorem leadingExponent_spec {num den : Nat} (positive : 0 < num) (positive' : 0 < den) :
    (2 ^ leadingExponent num den : ℚ) ≤ num / den ∧ (num / den : ℚ) < 2 ^ (leadingExponent num den + 1) := by
  obtain ⟨below, above⟩ := log2_spec positive
  obtain ⟨below', above'⟩ := log2_spec positive'
  have divisor : (0 : ℚ) < den := Nat.cast_pos.mpr positive'
  have lower : (2 : ℚ) ^ ((num.log2 : ℤ) - den.log2 - 1) ≤ num / den := by
    rw [le_div_iff₀ divisor]
    calc (2 : ℚ) ^ ((num.log2 : ℤ) - den.log2 - 1) * den
        ≤ 2 ^ ((num.log2 : ℤ) - den.log2 - 1) * 2 ^ ((den.log2 : ℤ) + 1) :=
          mul_le_mul_of_nonneg_left above'.le (two_zpow_pos _).le
      _ = 2 ^ (num.log2 : ℤ) := by
          rw [← zpow_add₀ two_ne_zero]
          congr 1
          ring
      _ ≤ num := below
  have upper : (num / den : ℚ) < 2 ^ ((num.log2 : ℤ) - den.log2 + 1) := by
    rw [div_lt_iff₀ divisor]
    calc (num : ℚ) < 2 ^ ((num.log2 : ℤ) + 1) := above
      _ = 2 ^ ((num.log2 : ℤ) - den.log2 + 1) * 2 ^ (den.log2 : ℤ) := by
          rw [← zpow_add₀ two_ne_zero]
          congr 1
          ring
      _ ≤ 2 ^ ((num.log2 : ℤ) - den.log2 + 1) * den := mul_le_mul_of_nonneg_left below' (two_zpow_pos _).le
  unfold leadingExponent
  dsimp only
  split
  · rename_i fits
    exact ⟨(scaled_le_iff positive' _).mp fits, upper⟩
  · rename_i beyond
    refine ⟨lower, ?_⟩
    rw [sub_add_cancel]
    exact not_le.mp (mt (scaled_le_iff positive' _).mpr beyond)

/-! ### Rounded quotients -/

theorem roundDiv_eq {a b q : Nat} (positive : 0 < b) (low : 2 * q * b ≤ 2 * a + b) (high : 2 * a ≤ (2 * q + 1) * b)
    (tie : q % 2 = 0 ∨ 2 * q * b < 2 * a + b ∧ 2 * a < (2 * q + 1) * b) : roundDiv a b = q := by
  have parts := Nat.div_add_mod' a b
  have rest := Nat.mod_lt a positive
  have near : q ≤ a / b + 1 := by
    by_contra far
    have : (a / b + 2) * b ≤ q * b := Nat.mul_le_mul_right b (by omega)
    rw [Nat.add_mul] at this
    rw [Nat.mul_assoc] at low
    omega
  have near' : a / b ≤ q := by
    by_contra far
    have : (q + 1) * b ≤ a / b * b := Nat.mul_le_mul_right b (by omega)
    rw [Nat.add_mul, Nat.mul_assoc] at high
    rw [Nat.add_mul] at this
    omega
  rw [Nat.add_mul, Nat.mul_assoc] at high tie
  rw [Nat.mul_assoc] at low
  unfold roundDiv
  dsimp only
  rcases near'.lt_or_eq with less | same
  · obtain rfl : q = a / b + 1 := by omega
    rw [Nat.add_mul] at low high tie
    split
    · omega
    · split
      · rfl
      · split <;> omega
  · rw [same] at parts ⊢
    split
    · rfl
    · split
      · omega
      · split <;> omega

/-- A quotient is rounded to a number that is not farther than a half away, a half to an even number. -/
theorem roundDiv_of_near {a b q : Nat} (positive : 0 < b) (low : (q : ℚ) ≤ a / b + 1 / 2)
    (high : (a / b : ℚ) ≤ q + 1 / 2) (tie : q % 2 = 0 ∨ (q : ℚ) < a / b + 1 / 2 ∧ (a / b : ℚ) < q + 1 / 2) :
    roundDiv a b = q := by
  have divisor : (0 : ℚ) < b := Nat.cast_pos.mpr positive
  have quotient : (a / b : ℚ) * b = a := div_mul_cancel₀ _ divisor.ne'
  generalize (a / b : ℚ) = w at low high tie quotient
  refine roundDiv_eq positive ?_ ?_ (tie.imp_right ?_)
  · have low := mul_le_mul_of_nonneg_right low (mul_pos two_pos divisor).le
    rw [← Nat.cast_le (α := ℚ)]
    push_cast
    linarith
  · have high := mul_le_mul_of_nonneg_right high (mul_pos two_pos divisor).le
    rw [← Nat.cast_le (α := ℚ)]
    push_cast
    linarith
  · rintro ⟨low, high⟩
    have low := mul_lt_mul_of_pos_right low (mul_pos two_pos divisor)
    have high := mul_lt_mul_of_pos_right high (mul_pos two_pos divisor)
    rw [← Nat.cast_lt (α := ℚ), ← Nat.cast_lt (α := ℚ)]
    push_cast
    constructor <;> linarith

/-- A quotient is rounded at the place where 53 bits of it are left, or at the last place. -/
theorem nearest_spec {num den : Nat} (positive : 0 < num) (positive' : 0 < den) :
    ∃ place : ℤ, nearest num den =
        assemble (roundDiv (num * twoTo (-place).toNat) (den * twoTo place.toNat)) place ∧
      -1074 ≤ place ∧ (num / den / 2 ^ place : ℚ) < 2 ^ 53 ∧
        (place = -1074 ∨ (2 ^ 52 : ℚ) ≤ num / den / 2 ^ place) := by
  obtain ⟨below, above⟩ := leadingExponent_spec positive positive'
  refine ⟨_, by rw [nearest, if_neg positive.ne'], ?_⟩
  generalize leadingExponent num den = e at below above ⊢
  have small {k : ℤ} (near : e - 52 ≤ k) : (num / den / 2 ^ k : ℚ) < 2 ^ 53 := by
    rw [div_lt_iff₀ (two_zpow_pos k), ← zpow_natCast, ← zpow_add₀ two_ne_zero]
    exact above.trans_le (zpow_le_zpow_right₀ one_le_two (by omega))
  split
  · rename_i tiny
    exact ⟨le_rfl, small tiny.le, .inl rfl⟩
  · rename_i normal
    refine ⟨not_lt.mp normal, small le_rfl, .inr ?_⟩
    rw [le_div_iff₀ (two_zpow_pos _), ← zpow_natCast, ← zpow_add₀ two_ne_zero]
    exact (zpow_le_zpow_right₀ one_le_two (by omega)).trans below

/-! ### Doubles and the numbers around them -/

theorem narrowBelow_iff (x : Float) : (Binary64.ofFloat x).narrowBelow = true ↔
    significandAt (rank x) = 2 ^ 52 ∧ 0 < shiftAt (rank x) := by
  obtain ⟨exponent, fraction⟩ := Decimal.fields_of_bits x.toBits
  have bound := x.toBits.toNat_lt
  simp only [Binary64.ofFloat, Binary64.ofBits, exponent, fraction, significandAt, shiftAt, rank]
  split
  · simp
    omega
  · simp
    omega

/-- The form of a double as a number: its significand fills 53 bits, unless its last place is the least
one, and the double below is nearer than the one above where the significand is the least of 53 bits. -/
structure Normal (x : Binary64) : Prop where
  bound : x.significand < 2 ^ 53
  least : -1074 ≤ x.exponent
  filled : 2 ^ 52 ≤ x.significand ∨ x.exponent = -1074
  narrow : x.narrowBelow = true ↔ x.significand = 2 ^ 52 ∧ -1074 < x.exponent

theorem normal_ofFloat (x : Float) : Normal (.ofFloat x) := by
  obtain ⟨significand, exponent⟩ := ofFloat_spec x
  obtain ⟨_, bound, filled⟩ := significandAt_spec (rank x)
  refine ⟨significand ▸ bound, ?_, ?_, ?_⟩
  · omega
  · omega
  · rw [narrowBelow_iff]
    omega

theorem exponent_le {x : Float} (finite : rank x < infinityBits) : (Binary64.ofFloat x).exponent ≤ 971 := by
  have exponent := (ofFloat_spec x).2
  rw [infinityBits] at finite
  unfold shiftAt at exponent
  omega

/-- The lower of the midpoints between a double and its neighbours, in quarters of its last place. -/
def lower (x : Binary64) : Nat :=
  if x.narrowBelow then 4 * x.significand - 1 else 4 * x.significand - 2

/-- The numbers that are rounded to a double: those between the midpoints to its neighbours, and the
midpoints themselves where its significand is even. -/
structure Around (x : Binary64) (v : ℚ) : Prop where
  low : lower x ≤ v / 2 ^ (x.exponent - 2)
  high : v / 2 ^ (x.exponent - 2) ≤ 4 * x.significand + 2
  tie : x.significand % 2 = 0 ∨
    lower x < v / 2 ^ (x.exponent - 2) ∧ v / 2 ^ (x.exponent - 2) < 4 * x.significand + 2

/-- The least and the greatest are included only where the significand is even. -/
theorem around_iff {x : Binary64} {v : ℚ} : Around x v ↔
    ((lower x : ℚ) < v / 2 ^ (x.exponent - 2) ∨
        x.significand % 2 = 0 ∧ v / 2 ^ (x.exponent - 2) = lower x) ∧
      (v / 2 ^ (x.exponent - 2) < 4 * x.significand + 2 ∨
        x.significand % 2 = 0 ∧ v / 2 ^ (x.exponent - 2) = 4 * x.significand + 2) := by
  constructor
  · rintro ⟨low, high, even | ⟨above, below⟩⟩
    · exact ⟨low.lt_or_eq.imp_right fun same => ⟨even, same.symm⟩,
        high.lt_or_eq.imp_right fun same => ⟨even, same⟩⟩
    · exact ⟨.inl above, .inl below⟩
  · rintro ⟨above | ⟨even, same⟩, below | ⟨even', same'⟩⟩
    · exact ⟨above.le, below.le, .inr ⟨above, below⟩⟩
    · exact ⟨above.le, same'.le, .inl even'⟩
    · exact ⟨same.ge, below.le, .inl even⟩
    · exact ⟨same.ge, same'.le, .inl even⟩

theorem quarters (v : ℚ) (k : ℤ) : v / 2 ^ (k - 2) = 4 * (v / 2 ^ k) := by
  rw [zpow_sub₀ two_ne_zero, div_div_eq_mul_div, mul_comm v, mul_div_assoc]
  norm_num

theorem lower_spec (x : Binary64) : 4 * x.significand ≤ lower x + 2 ∧
    (x.narrowBelow = true → 4 * x.significand ≤ lower x + 1) := by
  unfold lower
  split
  · exact ⟨by omega, fun _ => by omega⟩
  · rename_i wide
    exact ⟨by omega, fun narrow => absurd narrow wide⟩

/-- A double lies around itself. -/
theorem around_self {x : Binary64} (positive : 0 < x.significand) :
    Around x (x.significand * 2 ^ x.exponent) := by
  have exact : (x.significand * 2 ^ x.exponent : ℚ) / 2 ^ (x.exponent - 2) = 4 * x.significand := by
    rw [quarters, mul_div_cancel_right₀ _ (two_zpow_pos _).ne']
  have below : lower x < 4 * x.significand := by
    unfold lower
    split <;> omega
  have below : (lower x : ℚ) < 4 * x.significand := by exact_mod_cast below
  refine around_iff.mpr ⟨.inl ?_, .inl ?_⟩
  · rwa [exact]
  · rw [exact]
    exact lt_add_of_pos_right _ two_pos

section Around

variable {x : Binary64} {v : ℚ} (normal : Normal x) (around : Around x v)
include normal around

/-- A number around a double is rounded at the last place of the double, or at the place before it, where
the double is the carry of that place. -/
theorem Around.place {place : ℤ} (least : -1074 ≤ place) (small : v / 2 ^ place < 2 ^ 53)
    (large : place = -1074 ∨ 2 ^ 52 ≤ v / 2 ^ place) :
    place = x.exponent ∨
      place + 1 = x.exponent ∧ x.significand = 2 ^ 52 ∧ (2 ^ 53 : ℚ) ≤ v / 2 ^ place + 1 / 2 := by
  obtain ⟨low, high, _⟩ := around
  obtain ⟨wide, narrow⟩ := lower_spec x
  have last := normal.least
  rw [quarters] at low high
  have shifted : v / 2 ^ place = v / 2 ^ x.exponent * 2 ^ (x.exponent - place) := by
    rw [zpow_sub₀ two_ne_zero, div_mul_div_cancel₀ (two_zpow_pos _).ne']
  have shifted' : v / 2 ^ x.exponent = v / 2 ^ place * 2 ^ (place - x.exponent) := by
    rw [zpow_sub₀ two_ne_zero, div_mul_div_cancel₀ (two_zpow_pos _).ne']
  generalize v / 2 ^ place = w at *
  generalize v / 2 ^ x.exponent = u at *
  have bound : (x.significand : ℚ) + 1 ≤ 2 ^ 53 := by exact_mod_cast normal.bound
  have wide : (4 * x.significand : ℚ) ≤ lower x + 2 := by exact_mod_cast wide
  rcases lt_trichotomy place x.exponent with before | same | behind
  · -- at a place before the last one of the double the value is less than 53 bits, so that double starts
    -- the range of its exponent, where the midpoint below is a quarter of its last place away
    right
    have filled := normal.filled.resolve_right (by omega)
    have large : (2 ^ 52 : ℚ) ≤ x.significand := by exact_mod_cast filled
    have half := mul_two_pow_le (w := u) (n := 1) (k := x.exponent - place) (by linarith) (by omega)
    have least : x.significand = 2 ^ 52 := by
      have : (x.significand : ℚ) < 2 ^ 52 + 1 := by linarith
      have : x.significand < 2 ^ 52 + 1 := by exact_mod_cast this
      omega
    have narrow := narrow (normal.narrow.mpr ⟨least, by omega⟩)
    have narrow : (4 * x.significand : ℚ) ≤ lower x + 1 := by exact_mod_cast narrow
    have value : (x.significand : ℚ) = 2 ^ 52 := by exact_mod_cast least
    refine ⟨?_, least, ?_⟩
    · by_contra farther
      have quarter := mul_two_pow_le (w := u) (n := 2) (k := x.exponent - place) (by linarith) (by omega)
      linarith
    · linarith
  · exact .inl same
  · exfalso
    have large := large.resolve_left (by omega)
    have double := mul_two_pow_le (w := w) (n := 1) (k := place - x.exponent) (by linarith) (by omega)
    linarith

/-- What is around a double is within the range of doubles. -/
theorem Around.bounds (positive : 0 < x.significand) (greatest : x.exponent ≤ 971) :
    (2 : ℚ) ^ (-1075 : ℤ) ≤ v ∧ v < 2 ^ (1024 : ℤ) := by
  obtain ⟨low, high, _⟩ := around
  have last := normal.least
  have scale := two_zpow_pos (x.exponent - 2)
  have positive : 2 ≤ lower x := by
    have := (lower_spec x).1
    omega
  rw [le_div_iff₀ scale] at low
  rw [div_le_iff₀ scale] at high
  refine ⟨?_, ?_⟩
  · calc (2 : ℚ) ^ (-1075 : ℤ) ≤ 2 ^ (1 + (x.exponent - 2)) :=
          zpow_le_zpow_right₀ one_le_two (by omega)
      _ = 2 * 2 ^ (x.exponent - 2) := by rw [zpow_add₀ two_ne_zero, zpow_one]
      _ ≤ lower x * 2 ^ (x.exponent - 2) :=
          mul_le_mul_of_nonneg_right (by exact_mod_cast positive) scale.le
      _ ≤ v := low
  · calc v ≤ (4 * x.significand + 2) * 2 ^ (x.exponent - 2) := high
      _ < 2 ^ (55 : ℤ) * 2 ^ (x.exponent - 2) := by
          have bound : 4 * x.significand + 2 < 2 ^ 55 := by
            have := normal.bound
            omega
          exact mul_lt_mul_of_pos_right (by exact_mod_cast bound) scale
      _ = 2 ^ (55 + (x.exponent - 2)) := (zpow_add₀ two_ne_zero _ _).symm
      _ ≤ 2 ^ (1024 : ℤ) := zpow_le_zpow_right₀ one_le_two (by omega)

end Around

/-- What is around a double is rounded to it. -/
theorem rank_nearest {x : Float} {num den : Nat} (positive : 0 < num) (positive' : 0 < den)
    (finite : rank x < infinityBits) (around : Around (.ofFloat x) (num / den)) :
    rank (nearest num den) = rank x ∧ Decimal.signBit (nearest num den) = false := by
  obtain ⟨significand, exponent⟩ := ofFloat_spec x
  obtain ⟨parts, _⟩ := significandAt_spec (rank x)
  obtain ⟨place, rounded, least, small, large⟩ := nearest_spec positive positive'
  have divisor : 0 < den * twoTo place.toNat := Nat.mul_pos positive' (twoTo_pos _)
  have quotient := scaled_div num den place
  have assembled {q : Nat} (near : roundDiv (num * twoTo (-place).toNat) (den * twoTo place.toNat) = q)
      (same : (place + 1074).toNat * 2 ^ 52 + q = rank x) :
      rank (nearest num den) = rank x ∧ Decimal.signBit (nearest num den) = false := by
    rw [rounded, near, ← same]
    exact rank_assemble (same ▸ finite)
  rcases around.place (normal_ofFloat x) least small large with rfl | ⟨next, carry, above⟩
  · obtain ⟨low, high, tie⟩ := around
    obtain ⟨wide, _⟩ := lower_spec (.ofFloat x)
    have wide : (4 * (Binary64.ofFloat x).significand : ℚ) ≤ lower (.ofFloat x) + 2 := by exact_mod_cast wide
    rw [quarters] at low high tie
    refine assembled (q := (Binary64.ofFloat x).significand) (roundDiv_of_near divisor ?_ ?_ (tie.imp_right ?_)) ?_
    · rw [quotient]
      linarith
    · rw [quotient]
      linarith
    · rw [quotient]
      rintro ⟨low, high⟩
      constructor <;> linarith
    · have shift : ((Binary64.ofFloat x).exponent + 1074).toNat = shiftAt (rank x) := by omega
      rw [shift, significand, parts]
  · refine assembled (q := 2 ^ 53) (roundDiv_of_near divisor ?_ ?_ (.inl (by decide))) ?_
    · rw [quotient]
      exact_mod_cast above
    · rw [quotient]
      push_cast
      linarith
    · have shift : shiftAt (rank x) = (place + 1074).toNat + 1 := by omega
      rw [← parts, ← significand, carry, shift, Nat.add_mul]
      exact (Nat.add_assoc _ _ _).symm

/-- A double is its absolute value with its sign. -/
theorem beq_of_rank {x y : Float} (finite : x.isFinite = true) (same : rank y = rank x)
    (positive : Decimal.signBit y = false) : ((if Decimal.signBit x then -y else y) == x) = true := by
  have below := (isFinite_iff.mp finite).le
  have signed : rank (if Decimal.signBit x then -y else y) = rank x ∧
      Decimal.signBit (if Decimal.signBit x then -y else y) = Decimal.signBit x := by
    cases sign : Decimal.signBit x with
    | false => exact ⟨same, positive⟩
    | true =>
      obtain ⟨unchanged, turned⟩ := neg_spec (x := y) (same ▸ below)
      exact ⟨unchanged.trans same, turned.trans (congrArg not positive)⟩
  rw [beq_iff, place, signed.1, signed.2]
  exact ⟨below, below, rfl⟩

end GeoRaster.Double
