import GeoRaster.Proofs.Double.Rounding

/-! The shortest decimal of a double is rounded to that double. Each decimal that the search accepts lies
between the midpoints to the double's neighbours, and so does the exact decimal. -/
namespace GeoRaster.Decimal

open Double (around_iff Around two_zpow_pos pow_div_pow)

/-! ### Decimals as numbers -/

def Scientific.value (d : Scientific) : ℚ :=
  d.digits * 10 ^ d.exponent

theorem ten_zpow_pos (k : ℤ) : (0 : ℚ) < 10 ^ k :=
  zpow_pos (by norm_num) k

theorem cast_tenTo (n : Nat) : ((tenTo n : Nat) : ℚ) = 10 ^ n := by
  have power : tenTo n = 10 ^ n := rfl
  rw [power, Nat.cast_pow]
  rfl

theorem compare_of_scaled {a b : Nat} {v w c : ℚ} (positive : 0 < c) (left : (a : ℚ) = v * c)
    (right : (b : ℚ) = w * c) : compare a b = compare v w := by
  rcases lt_trichotomy v w with less | rfl | greater
  · rw [compare_lt_iff_lt.mpr less, compare_lt_iff_lt, ← Nat.cast_lt (α := ℚ), left, right]
    exact mul_lt_mul_of_pos_right less positive
  · rw [compare_eq_iff_eq.mpr rfl, compare_eq_iff_eq, ← Nat.cast_inj (R := ℚ), left, right]
  · rw [compare_gt_iff_gt.mpr greater, compare_gt_iff_gt, ← Nat.cast_lt (α := ℚ), left, right]
    exact mul_lt_mul_of_pos_right greater positive

/-- A decimal and a binary number are compared as numbers. -/
theorem compareScaled_eq (a : Nat) (i : ℤ) (n : Nat) (j : ℤ) :
    compareScaled a i n j = compare (a * 10 ^ i : ℚ) (n * 2 ^ j) := by
  have parts {b : ℚ} (nonzero : b ≠ 0) (k : ℤ) : b ^ k.toNat = b ^ k * b ^ (-k).toNat := by
    rw [← pow_div_pow nonzero k, div_mul_cancel₀ _ (pow_ne_zero _ nonzero)]
  have ten : (10 : ℚ) ≠ 0 := by norm_num
  refine compare_of_scaled (c := 10 ^ (-i).toNat * 2 ^ (-j).toNat) (by positivity) ?_ ?_
  · rw [Nat.cast_mul, Nat.cast_mul, cast_tenTo, Double.cast_twoTo, parts ten i]
    ring
  · rw [Nat.cast_mul, Nat.cast_mul, cast_tenTo, Double.cast_twoTo, parts two_ne_zero j]
    ring

/-- A decimal that is said to read back lies around its double. -/
theorem readsBack_iff {x : Binary64} {d : Scientific} : x.readsBack d = true ↔ Around x d.value := by
  have scale := two_zpow_pos (x.exponent - 2)
  have greatest : ((4 * x.significand + 2 : Nat) : ℚ) = 4 * x.significand + 2 := by push_cast; rfl
  rw [around_iff, lt_div_iff₀ scale, div_lt_iff₀ scale, div_eq_iff scale.ne', div_eq_iff scale.ne', ← greatest]
  unfold Binary64.readsBack
  simp only [compareScaled_eq, Bool.and_eq_true, Bool.or_eq_true, decide_eq_true_eq, compare_gt_iff_gt,
    compare_lt_iff_lt, compare_eq_iff_eq]
  rfl

/-! ### The search -/

section Search

variable {x : Binary64} {d : Scientific} {k : ℤ}

theorem readsBack_of_onGrid (found : x.onGrid? k = some d) : x.readsBack d = true := by
  unfold Binary64.onGrid? at found
  dsimp only at found
  split at found
  · obtain rfl := Option.some.inj found
    assumption
  · obtain rfl := Option.some.inj found
    assumption
  · contradiction
  · split at found
    · obtain rfl := Option.some.inj found
      assumption
    · obtain rfl := Option.some.inj found
      assumption
    · obtain rfl := Option.some.inj found
      split <;> assumption

theorem readsBack_of_search {steps : Nat} (found : x.search steps k = some d) : x.readsBack d = true := by
  induction steps generalizing k with
  | zero => contradiction
  | succ steps ih =>
    rw [Binary64.search] at found
    split at found
    · obtain rfl := Option.some.inj found
      exact readsBack_of_onGrid ‹_›
    · exact ih found

/-- Behind a point a power of five is a power of two in tenths. -/
theorem exact_value (x : Binary64) : x.exact.value = x.significand * 2 ^ x.exponent := by
  unfold Binary64.exact Scientific.value
  split
  · rename_i whole
    have place : ((x.exponent.toNat : ℕ) : ℤ) = x.exponent := Int.toNat_of_nonneg whole
    rw [zpow_zero, mul_one, Nat.cast_mul, Double.cast_twoTo, ← zpow_natCast, place]
  · rename_i fractional
    have place : (((-x.exponent).toNat : ℕ) : ℤ) = -x.exponent := Int.toNat_of_nonneg (by omega)
    have power : Nat.pow 5 (-x.exponent).toNat = 5 ^ (-x.exponent).toNat := rfl
    have ten : (10 : ℚ) = 2 * 5 := by norm_num
    have five : (5 : ℚ) ≠ 0 := by norm_num
    rw [power, Nat.cast_mul, Nat.cast_pow, ← zpow_natCast, place, ten, mul_zpow, zpow_neg]
    field_simp
    rfl

theorem stripZeros_value (fuel : Nat) (d : Scientific) : (stripZeros fuel d).value = d.value := by
  induction fuel generalizing d with
  | zero => rfl
  | succ fuel ih =>
    rw [stripZeros]
    split
    · rename_i zero
      have ten : (10 : ℚ) ≠ 0 := by norm_num
      have shorter : ((d.digits / 10 : ℕ) : ℚ) * 10 = d.digits := by
        exact_mod_cast Nat.div_mul_cancel (Nat.dvd_of_mod_eq_zero zero.2)
      rw [ih, Scientific.value, Scientific.value, ← shorter]
      dsimp only
      rw [zpow_add_one₀ ten]
      ring
    · rfl

/-- The shortest decimal of a double lies around it. -/
theorem around_shortest (positive : 0 < x.significand) : Around x x.shortest.value := by
  rw [Binary64.shortest, stripZeros_value]
  cases found : x.search 20 x.topGrid with
  | some d => exact readsBack_iff.mp (readsBack_of_search found)
  | none =>
    rw [Option.getD_none, exact_value]
    exact Double.around_self positive

end Search

/-! ### Rounding a decimal -/

theorem ten_pow_between (n : Nat) : (2 : ℚ) ^ (3 * n) ≤ 10 ^ n ∧ (10 : ℚ) ^ n ≤ 2 ^ (4 * n) := by
  rw [pow_mul, pow_mul]
  exact ⟨pow_le_pow_left₀ (by norm_num) (by norm_num) n, pow_le_pow_left₀ (by norm_num) (by norm_num) n⟩

/-- Three to four binary digits make a decimal digit. -/
theorem digits_between {digits : Nat} (positive : 0 < digits) :
    (10 : ℚ) ^ (digits.log2 / 4) ≤ digits ∧ (digits : ℚ) < 10 ^ (digits.log2 / 3 + 1) := by
  obtain ⟨below, above⟩ := Double.log2_spec positive
  rw [zpow_natCast] at below
  rw [← Nat.cast_succ, zpow_natCast] at above
  refine ⟨?_, ?_⟩
  · calc (10 : ℚ) ^ (digits.log2 / 4) ≤ 2 ^ (4 * (digits.log2 / 4)) := (ten_pow_between _).2
      _ ≤ 2 ^ digits.log2 := pow_le_pow_right₀ one_le_two (by omega)
      _ ≤ digits := below
  · calc (digits : ℚ) < 2 ^ (digits.log2 + 1) := above
      _ ≤ 2 ^ (3 * (digits.log2 / 3 + 1)) := pow_le_pow_right₀ one_le_two (by omega)
      _ ≤ 10 ^ (digits.log2 / 3 + 1) := (ten_pow_between _).1

/-- Exponents are not cut short for numbers within the range of doubles. -/
theorem ofDecimal_eq {digits : Nat} {exponent : ℤ} (positive : 0 < digits)
    (above : (2 : ℚ) ^ (-1075 : ℤ) ≤ digits * 10 ^ exponent) (below : (digits * 10 ^ exponent : ℚ) < 2 ^ (1024 : ℤ)) :
    ofDecimal digits exponent = nearest (digits * tenTo exponent.toNat) (tenTo (-exponent).toNat) := by
  have ten : (1 : ℚ) ≤ 10 := by norm_num
  have ten' : (10 : ℚ) ≠ 0 := by norm_num
  obtain ⟨low, high⟩ := digits_between positive
  rw [← zpow_natCast] at low high
  -- the limit has a name, so that its powers are not computed
  obtain ⟨limit, _⟩ : ∃ limit, limit = 401 := ⟨_, rfl⟩
  have wide : (2 : ℚ) ^ (3 * limit : ℤ) ≤ 10 ^ (limit : ℤ) := by
    rw [zpow_natCast]
    exact_mod_cast (ten_pow_between limit).1
  have large : ¬ (digits.log2 : ℤ) / 4 + exponent > 400 := by
    intro large
    apply below.not_ge
    calc (2 : ℚ) ^ (1024 : ℤ) ≤ 2 ^ (3 * limit : ℤ) := zpow_le_zpow_right₀ one_le_two (by omega)
      _ ≤ 10 ^ (limit : ℤ) := wide
      _ ≤ 10 ^ (((digits.log2 / 4 : ℕ) : ℤ) + exponent) := zpow_le_zpow_right₀ ten (by omega)
      _ = 10 ^ ((digits.log2 / 4 : ℕ) : ℤ) * 10 ^ exponent := zpow_add₀ ten' _ _
      _ ≤ digits * 10 ^ exponent := mul_le_mul_of_nonneg_right low (ten_zpow_pos _).le
  have tiny : ¬ (digits.log2 : ℤ) / 3 + 1 + exponent < -400 := by
    intro tiny
    apply above.not_gt
    calc (digits * 10 ^ exponent : ℚ) < 10 ^ ((digits.log2 / 3 + 1 : ℕ) : ℤ) * 10 ^ exponent :=
          mul_lt_mul_of_pos_right high (ten_zpow_pos _)
      _ = 10 ^ (((digits.log2 / 3 + 1 : ℕ) : ℤ) + exponent) := (zpow_add₀ ten' _ _).symm
      _ ≤ 10 ^ (-(limit : ℤ)) := zpow_le_zpow_right₀ ten (by omega)
      _ ≤ 2 ^ (-(3 * limit : ℤ)) := by
          rw [zpow_neg, zpow_neg]
          exact inv_anti₀ (two_zpow_pos _) wide
      _ ≤ 2 ^ (-1075 : ℤ) := zpow_le_zpow_right₀ one_le_two (by omega)
  rw [ofDecimal, if_neg positive.ne']
  simp only [if_neg large, if_neg tiny]

/-- A decimal around a finite double is rounded to the double's absolute value. -/
theorem rank_ofDecimal {x : Float} {digits : Nat} {exponent : ℤ} (finite : x.isFinite = true)
    (positive : 0 < (Binary64.ofFloat x).significand) (around : Around (.ofFloat x) (digits * 10 ^ exponent)) :
    Double.rank (ofDecimal digits exponent) = Double.rank x ∧ signBit (ofDecimal digits exponent) = false := by
  have finite := Double.isFinite_iff.mp finite
  obtain ⟨above, below⟩ := around.bounds (Double.normal_ofFloat x) positive (Double.exponent_le finite)
  have digital : 0 < digits := by
    rcases Nat.eq_zero_or_pos digits with rfl | digital
    · rw [Nat.cast_zero, zero_mul] at above
      exact absurd above (two_zpow_pos _).not_ge
    · exact digital
  have quotient : ((digits * tenTo exponent.toNat : ℕ) : ℚ) / (tenTo (-exponent).toNat : ℕ) =
      digits * 10 ^ exponent := by
    rw [Nat.cast_mul, cast_tenTo, cast_tenTo, mul_div_assoc, pow_div_pow (by norm_num)]
  rw [ofDecimal_eq digital above below]
  have ten (n : Nat) : 0 < tenTo n := Nat.pow_pos (by decide)
  exact Double.rank_nearest (Nat.mul_pos digital (ten _)) (ten _) finite (quotient ▸ around)

end GeoRaster.Decimal
