import Mathlib.Algebra.Order.Field.Basic
import Mathlib.Data.Rat.Floor
import Mathlib.Data.Rat.Sqrt
import Mathlib.Tactic.Linarith
import GeoRaster.Decimal.Notation
import GeoRaster.Scalar

/-! Exact numbers as an arithmetic for coordinates: any ordered field whose numbers have whole
parts, the rationals among them. Nothing is rounded, and every number is finite. Half a turn may be
any positive number of radians; no rule computes it. -/
namespace GeoRaster

/-- An ordered field with whole parts, a measure for half a turn and a written form. -/
class ExactScalar (α : Type) extends Field α, LinearOrder α, IsStrictOrderedRing α, FloorRing α where
  halfTurn : α
  halfTurn_pos : 0 < halfTurn
  written : α → String

namespace ExactScalar

variable {α : Type} [ExactScalar α]

/-- The number that a numeral denotes. Infinities are no numbers here. -/
def ofNumeral? : Decimal.Numeral → Option α
  | .finite negative digits exponent =>
    some ((if negative then -1 else 1) * (digits : α) * (10 : α) ^ exponent)
  | .infinite _ => none
  | .undefined => none

/-- What is left over when as many whole divisors are taken off as fit in on the way to zero. -/
def remainder (a b : α) : α :=
  if 0 ≤ a then a - ⌊a / b⌋ * b else a - ⌈a / b⌉ * b

instance : Scalar α where
  beq a b := decide (a = b)
  decidableLT := inferInstance
  decidableLE := inferInstance
  ofInt n := (n : α)
  floor? a := .ok ⌊a⌋
  remainder := remainder
  isFinite _ := true
  pi := halfTurn
  unbounded := 0
  ofNumeral? := ofNumeral?
  text := written

theorem ofInt_eq (n : Int) : (Scalar.ofInt n : α) = (n : α) :=
  rfl

theorem ofInt_zero : (Scalar.ofInt 0 : α) = 0 :=
  Int.cast_zero

theorem ofInt_one : (Scalar.ofInt 1 : α) = 1 :=
  Int.cast_one

theorem ofInt_ofNat (n : ℕ) [n.AtLeastTwo] : (Scalar.ofInt ofNat(n) : α) = ofNat(n) :=
  Int.cast_ofNat n

theorem least_eq (a b : α) : Scalar.least a b = min a b := by
  unfold Scalar.least
  split
  · exact (min_eq_left ‹_›).symm
  · rw [if_pos (le_refl a), min_eq_right (not_le.mp ‹_›).le]

theorem greatest_eq (a b : α) : Scalar.greatest a b = max a b := by
  unfold Scalar.greatest
  split
  · exact (max_eq_left ‹_›).symm
  · rw [if_pos (le_refl a), max_eq_right (not_le.mp ‹_›).le]

theorem abs_eq (a : α) : Scalar.abs a = |a| := by
  unfold Scalar.abs
  rw [ofInt_zero]
  split
  · exact (abs_of_neg ‹_›).symm
  · exact (abs_of_nonneg (not_lt.mp ‹_›)).symm

theorem beq_iff {a b : α} : (a == b) = true ↔ a = b :=
  decide_eq_true_iff

theorem remainder_of_nonneg {a : α} (nonneg : 0 ≤ a) (b : α) :
    Scalar.remainder a b = a - ⌊a / b⌋ * b :=
  if_pos nonneg

theorem remainder_of_neg {a : α} (negative : a < 0) (b : α) :
    Scalar.remainder a b = a - ⌈a / b⌉ * b :=
  if_neg (not_le.mpr negative)

/-- Once a quotient that was rounded towards zero is put right where the remainder is negative, it is
rounded down. -/
theorem quotient_of_remainder (a : α) {b : α} (positive : 0 < b) :
    (if Scalar.remainder a b < 0 then (a - Scalar.remainder a b) / b - 1
      else (a - Scalar.remainder a b) / b) = (⌊a / b⌋ : α) := by
  rcases le_or_gt 0 a with nonneg | negative
  · have floor := (le_div_iff₀ positive).mp (Int.floor_le (a / b))
    rw [remainder_of_nonneg nonneg, if_neg (by linarith), sub_sub_cancel, mul_div_cancel_right₀ _ positive.ne']
  · rw [remainder_of_neg negative, sub_sub_cancel, mul_div_cancel_right₀ _ positive.ne']
    have ceil := (div_le_iff₀ positive).mp (Int.le_ceil (a / b))
    rcases ceil.lt_or_eq with some | none
    · have below := (div_lt_iff₀ positive).mpr some
      have floor : ⌊a / b⌋ = ⌈a / b⌉ - 1 := by
        have above := Int.ceil_lt_add_one (a / b)
        rw [Int.floor_eq_iff]
        push_cast
        constructor
        · linarith
        · linarith
      rw [if_pos (by linarith), floor]
      push_cast
      ring
    · have whole : a / b = (⌈a / b⌉ : α) := (div_eq_iff positive.ne').mpr none
      rw [if_neg (by linarith), whole, Int.ceil_intCast, Int.floor_intCast]

/-- Without rounding, a quotient is whole after that, and there is nothing to snap. -/
theorem floorQuotient_eq (a : α) {b : α} (positive : 0 < b) :
    Scalar.floorQuotient a b = (⌊a / b⌋ : α) := by
  have floor : Scalar.floor? (⌊a / b⌋ : α) = .ok ⌊a / b⌋ := congrArg Except.ok (Int.floor_intCast _)
  unfold Scalar.floorQuotient
  simp only [ofInt_zero, ofInt_one, quotient_of_remainder a positive, floor]
  split
  · exact (beq_iff.mp ‹_›).symm
  · have half : ¬ (1 / Scalar.ofInt 2 : α) < (⌊a / b⌋ : α) - Scalar.ofInt ⌊a / b⌋ := by
      rw [ofInt_eq ⌊a / b⌋, sub_self, ofInt_ofNat, not_lt]
      norm_num
    rw [if_neg half]
    rfl

end ExactScalar

instance : ExactScalar ℚ where
  halfTurn := 355 / 113
  halfTurn_pos := by norm_num
  written q := Decimal.intText q.num ++ "/" ++ Decimal.natText q.den

/-- An exact arithmetic with plane distances. A distance need not be one of the numbers, but where it is,
it is the one that is measured, and nothing else is measured as zero. -/
class ExactMetricScalar (α : Type) extends ExactScalar α where
  hypot : α → α → α
  hypot_eq_of_mul_self : ∀ {x y r : α}, 0 ≤ r → r * r = x * x + y * y → hypot x y = r
  eq_zero_of_hypot : ∀ {x y : α}, hypot x y = 0 → x = 0 ∧ y = 0

namespace ExactMetricScalar

variable {α : Type} [ExactMetricScalar α]

instance : MetricScalar α where
  toScalar := inferInstance
  hypot := hypot

theorem hypot_eq_zero_iff {x y : α} : MetricScalar.hypot x y = 0 ↔ x = 0 ∧ y = 0 := by
  constructor
  · exact eq_zero_of_hypot
  · rintro ⟨rfl, rfl⟩
    exact hypot_eq_of_mul_self (le_refl 0) (by ring)

theorem eq_zero_of_sqrt {q : ℚ} (nonneg : 0 ≤ q) (zero : Rat.sqrt q = 0) : q = 0 := by
  have den_pos := Nat.sqrt_pos.mpr q.den_pos
  rw [Rat.sqrt, Rat.mkRat_eq_zero den_pos.ne', Int.sqrt, Int.natCast_eq_zero, Nat.sqrt_eq_zero] at zero
  have num_nonneg : 0 ≤ q.num := Rat.num_nonneg.mpr nonneg
  exact Rat.num_eq_zero.mp (by omega)

end ExactMetricScalar

instance : ExactMetricScalar ℚ where
  hypot x y := Rat.sqrt (x * x + y * y)
  hypot_eq_of_mul_self := by
    intro x y r nonneg square
    rw [← square, Rat.sqrt_eq, abs_of_nonneg nonneg]
  eq_zero_of_hypot := by
    intro x y zero
    have nonneg : 0 ≤ x * x + y * y := add_nonneg (mul_self_nonneg x) (mul_self_nonneg y)
    exact mul_self_add_mul_self_eq_zero.mp (ExactMetricScalar.eq_zero_of_sqrt nonneg zero)

end GeoRaster
