import GeoRaster.Proofs.Double.Whole
import GeoRaster.Scalar.Exact

/-! Laws of order and of whole parts that do not depend on exact arithmetic. They hold in every exact
arithmetic, and of doubles: there an undefined number compares with nothing, not even with itself,
infinities compare but have no whole parts, and the whole parts of finite numbers are doubles. -/
namespace GeoRaster

namespace Scalar

variable {α : Type} [Scalar α]

/-- Whether a number is its own whole part. -/
def IsWhole (a : α) : Prop :=
  ∃ n, floor? a = .ok n ∧ (ofInt n == a) = true

/-- An integer that is a number, and that rounding neither down nor up changes. -/
structure IsInteger (α : Type) [Scalar α] (n : Int) : Prop where
  floor : floor? (ofInt n : α) = .ok n
  ceil : ceil? (ofInt n : α) = .ok n

class Lawful (α : Type) [Scalar α] : Prop where
  le_trans : ∀ {a b c : α}, a ≤ b → b ≤ c → a ≤ c
  /-- What compares with anything compares with itself, -/
  le_refl : ∀ {a b : α}, a ≤ b → a ≤ a ∧ b ≤ b
  /-- and any two such numbers compare. -/
  le_total : ∀ {a b : α}, a ≤ a → b ≤ b → a ≤ b ∨ b ≤ a
  beq_iff : ∀ {a b : α}, (a == b) = true ↔ a ≤ b ∧ b ≤ a
  le_refl_of_isFinite : ∀ {a : α}, isFinite a = true → a ≤ a
  isFinite_of_between : ∀ {a b c : α}, isFinite a = true → a ≤ b → b ≤ c → isFinite c = true →
    isFinite b = true
  /-- Between a finite number and its whole part there is no other whole number, -/
  exists_floor : ∀ {a : α}, isFinite a = true → ∃ n, floor? a = .ok n ∧ IsInteger α n ∧
    ofInt n ≤ a ∧ ∀ w, IsWhole w → w ≤ a → w ≤ ofInt n
  /-- nor is there one on the way up. -/
  exists_ceil : ∀ {a : α}, isFinite a = true → ∃ n, ceil? a = .ok n ∧ IsInteger α n ∧
    a ≤ ofInt n ∧ ∀ w, IsWhole w → a ≤ w → ofInt n ≤ w
  infinite : ∀ {a : α}, a ≤ a → isFinite a = false →
    floor? a = .error .infinite ∧ ceil? a = .error .infinite

section Lawful

variable [Lawful α] {a b c : α}

theorem least_choice (left : a ≤ a) (right : b ≤ b) :
    least a b = a ∧ a ≤ b ∨ least a b = b ∧ b ≤ a := by
  unfold least
  by_cases below : a ≤ b
  · rw [if_pos below]
    exact .inl ⟨rfl, below⟩
  · rw [if_neg below, if_pos left]
    exact .inr ⟨rfl, (Lawful.le_total left right).resolve_left below⟩

theorem greatest_choice (left : a ≤ a) (right : b ≤ b) :
    greatest a b = a ∧ b ≤ a ∨ greatest a b = b ∧ a ≤ b := by
  unfold greatest
  by_cases above : b ≤ a
  · rw [if_pos above]
    exact .inl ⟨rfl, above⟩
  · rw [if_neg above, if_pos left]
    exact .inr ⟨rfl, (Lawful.le_total left right).resolve_right above⟩

theorem least_le_left (left : a ≤ a) (right : b ≤ b) : least a b ≤ a := by
  rcases least_choice left right with ⟨chosen, _⟩ | ⟨chosen, le⟩
  · rwa [chosen]
  · rwa [chosen]

theorem le_greatest_left (left : a ≤ a) (right : b ≤ b) : a ≤ greatest a b := by
  rcases greatest_choice left right with ⟨chosen, _⟩ | ⟨chosen, le⟩
  · rwa [chosen]
  · rwa [chosen]

theorem le_least_iff (left : a ≤ a) (right : b ≤ b) : c ≤ least a b ↔ c ≤ a ∧ c ≤ b := by
  rcases least_choice left right with ⟨chosen, le⟩ | ⟨chosen, le⟩
  · rw [chosen]
    exact ⟨fun below => ⟨below, Lawful.le_trans below le⟩, And.left⟩
  · rw [chosen]
    exact ⟨fun below => ⟨Lawful.le_trans below le, below⟩, And.right⟩

theorem greatest_le_iff (left : a ≤ a) (right : b ≤ b) : greatest a b ≤ c ↔ a ≤ c ∧ b ≤ c := by
  rcases greatest_choice left right with ⟨chosen, le⟩ | ⟨chosen, le⟩
  · rw [chosen]
    exact ⟨fun above => ⟨above, Lawful.le_trans le above⟩, And.left⟩
  · rw [chosen]
    exact ⟨fun above => ⟨Lawful.le_trans le above, above⟩, And.right⟩

end Lawful

end Scalar

namespace ExactScalar

open Scalar

variable {α : Type} [ExactScalar α]

theorem ceil?_eq (a : α) : ceil? a = .ok ⌈a⌉ := by
  show Except.ok (-⌊-a⌋) = _
  rw [Int.floor_neg, neg_neg]

theorem isInteger (n : Int) : IsInteger α n :=
  ⟨congrArg Except.ok (Int.floor_intCast n), (ceil?_eq _).trans (congrArg Except.ok (Int.ceil_intCast n))⟩

theorem exists_of_isWhole {a : α} (whole : IsWhole a) : ∃ n : ℤ, (n : α) = a := by
  obtain ⟨n, _, same⟩ := whole
  exact ⟨n, beq_iff.mp same⟩

instance : Lawful α where
  le_trans := fun first second => first.trans second
  le_refl := fun _ => ⟨le_rfl, le_rfl⟩
  le_total := fun _ _ => le_total _ _
  beq_iff := beq_iff.trans le_antisymm_iff
  le_refl_of_isFinite := fun _ => le_rfl
  isFinite_of_between := fun _ _ _ _ => rfl
  exists_floor := by
    intro a _
    refine ⟨⌊a⌋, rfl, isInteger ⌊a⌋, Int.floor_le a, ?_⟩
    intro w whole le
    obtain ⟨n, rfl⟩ := exists_of_isWhole whole
    exact Int.cast_le.mpr (Int.le_floor.mpr le)
  exists_ceil := by
    intro a _
    refine ⟨⌈a⌉, ceil?_eq a, isInteger ⌈a⌉, Int.le_ceil a, ?_⟩
    intro w whole le
    obtain ⟨n, rfl⟩ := exists_of_isWhole whole
    exact Int.cast_le.mpr (Int.ceil_le.mpr le)
  infinite := fun _ finite => Bool.noConfusion finite

end ExactScalar

namespace Double

open Decimal (infinityBits ofInt floorInt)
open Scalar (IsWhole IsInteger Lawful)

theorem number_of_isFinite {x : Float} (finite : x.isFinite = true) : rank x ≤ infinityBits :=
  (isFinite_iff.mp finite).le

theorem isFinite_neg {x : Float} (finite : x.isFinite = true) : (-x).isFinite = true := by
  rw [isFinite_iff, (neg_spec (number_of_isFinite finite)).1]
  exact isFinite_iff.mp finite

theorem ceil?_of_isFinite {x : Float} (finite : x.isFinite = true) :
    Scalar.ceil? x = .ok (-floorInt (-x)) := by
  show (floor? (-x)).map (-·) = _
  rw [floor?_of_isFinite (isFinite_neg finite)]
  rfl

theorem isFinite_of_floor {x : Float} {n : Int} (floor : floor? x = .ok n) : x.isFinite = true := by
  unfold floor? at floor
  split at floor
  · contradiction
  · rename_i number
    split at floor
    · contradiction
    · rename_i bounded
      rw [isNaN_iff] at number
      rw [isInf_iff] at bounded
      exact isFinite_iff.mpr (by omega)

theorem floorInt_neg {x : Float} (finite : x.isFinite = true) :
    floorInt (-x) = -units x / one := by
  rw [floorInt_eq, units_neg (number_of_isFinite finite)]

theorem floor?_of_isInf {x : Float} (infinite : x.isInf = true) : floor? x = .error .infinite := by
  have top := isInf_iff.mp infinite
  have number : ¬ x.isNaN = true := mt isNaN_iff.mp (by omega)
  unfold floor?
  rw [if_neg number, if_pos infinite]

section Integers

variable {n : Int} (fits : Fits n.natAbs) {x : Float}
include fits

/-- An integer of few bits is a double, and its own whole part. -/
theorem isInteger_of_fits : IsInteger Float n := by
  obtain ⟨finite, exact⟩ := ofInt_spec fits
  refine ⟨?_, ?_⟩
  · show floor? (ofInt n) = _
    rw [floor?_of_isFinite finite, floorInt_of_units exact]
  · show Scalar.ceil? (ofInt n) = _
    rw [ceil?_of_isFinite finite, floorInt_neg finite, exact, ← Int.neg_mul,
      Int.mul_ediv_cancel _ one_pos.ne', Int.neg_neg]

theorem ofInt_le_iff : (Scalar.ofInt n : Float) ≤ x ↔ rank x ≤ infinityBits ∧ n * one ≤ units x := by
  obtain ⟨finite, exact⟩ := ofInt_spec fits
  show ofInt n ≤ x ↔ _
  rw [le_iff_units, exact]
  exact and_iff_right (number_of_isFinite finite)

theorem le_ofInt_iff : x ≤ Scalar.ofInt n ↔ rank x ≤ infinityBits ∧ units x ≤ n * one := by
  obtain ⟨finite, exact⟩ := ofInt_spec fits
  show x ≤ ofInt n ↔ _
  rw [le_iff_units, exact]
  exact and_congr_right fun _ => and_iff_right (number_of_isFinite finite)

end Integers

theorem units_of_isWhole {w : Float} (whole : IsWhole w) : ∃ n : Int, units w = n * one := by
  obtain ⟨n, floor, same⟩ := whole
  have finite : w.isFinite = true := isFinite_of_floor floor
  have value : floorInt w = n := Except.ok.inj ((floor?_of_isFinite finite).symm.trans floor)
  have exact := (ofInt_spec (fits_floorInt finite)).2
  rw [value] at exact
  exact ⟨n, (beq_iff_units.mp same).2.2.symm.trans exact⟩

instance : Lawful Float where
  le_trans := by
    intro a b c first second
    rw [le_iff_units] at *
    omega
  le_refl := by
    intro a b le
    rw [le_iff_units] at *
    rw [le_iff_units]
    omega
  le_total := by
    intro a b left right
    rw [le_iff_units] at *
    rw [le_iff_units]
    omega
  beq_iff := by
    intro a b
    rw [beq_iff_units, le_iff_units, le_iff_units]
    omega
  le_refl_of_isFinite := by
    intro a finite
    have number := number_of_isFinite finite
    rw [le_iff_units]
    omega
  isFinite_of_between := by
    intro a b c finite first second finite'
    have below := isFinite_iff.mp finite
    have above := isFinite_iff.mp finite'
    have left := natAbs_place a
    have middle := natAbs_place b
    have right := natAbs_place c
    rw [le_iff] at first second
    exact isFinite_iff.mpr (by omega)
  exists_floor := by
    intro a finite
    have number := number_of_isFinite finite
    have fits := fits_floorInt finite
    refine ⟨floorInt a, floor?_of_isFinite finite, isInteger_of_fits fits, ?_, ?_⟩
    · rw [ofInt_le_iff fits, floorInt_eq]
      exact ⟨number, Int.ediv_mul_le _ one_pos.ne'⟩
    · intro w whole le
      obtain ⟨m, value⟩ := units_of_isWhole whole
      rw [le_iff_units, value] at le
      rw [le_ofInt_iff fits, floorInt_eq, value]
      have least : m ≤ units a / one := Int.le_ediv_of_mul_le one_pos le.2.2
      exact ⟨le.1, Int.mul_le_mul_of_nonneg_right least one_pos.le⟩
  exists_ceil := by
    intro a finite
    have number := number_of_isFinite finite
    have fits := fits_floorInt (isFinite_neg finite)
    rw [← Int.natAbs_neg] at fits
    refine ⟨-floorInt (-a), ceil?_of_isFinite finite, isInteger_of_fits fits, ?_, ?_⟩
    · rw [le_ofInt_iff fits, floorInt_neg finite, Int.neg_mul]
      exact ⟨number, Int.le_neg_of_le_neg (Int.ediv_mul_le _ one_pos.ne')⟩
    · intro w whole le
      obtain ⟨m, value⟩ := units_of_isWhole whole
      rw [le_iff_units, value] at le
      rw [ofInt_le_iff fits, floorInt_neg finite, value]
      have greatest : -m ≤ -units a / one := by
        apply Int.le_ediv_of_mul_le one_pos
        rw [Int.neg_mul]
        exact Int.neg_le_neg le.2.2
      exact ⟨le.2.1, Int.mul_le_mul_of_nonneg_right (Int.neg_le_of_neg_le greatest) one_pos.le⟩
  infinite := by
    intro a number infinite
    have number := (le_iff_units.mp number).1
    have top : rank a = infinityBits := by
      have unbounded : ¬ rank a < infinityBits := mt isFinite_iff.mpr (ne_true_of_eq_false infinite)
      omega
    refine ⟨floor?_of_isInf (isInf_iff.mpr top), ?_⟩
    show (floor? (-a)).map (-·) = _
    rw [floor?_of_isInf (isInf_iff.mpr ((neg_spec number).1.trans top))]
    rfl

end Double

end GeoRaster
