import Mathlib.Algebra.Order.Ring.Int
import Mathlib.Order.Compare
import GeoRaster.Proofs.Decimal.Notation

/-! Doubles by their bits. The first bit is the sign, and the others, as a natural number, are the rank of
the double's absolute value among the doubles that are not negative: 0 for zero, 1 for the
smallest positive one, and so on up to infinity. Comparing, turning the sign around and taking bits apart
and together again all come to arithmetic on signs and ranks. -/
namespace GeoRaster.Double

open Float.Model (UnpackedFloat)
open Float.Model.UnpackedFloat
open Float.Model.Format (binary64)
open Decimal (infinityBits)

/-! ### Fields of bits -/

theorem toNat_unpackMantissa (v : BitVec 64) :
    (@unpackMantissa binary64 v).toNat = v.toNat % 2 ^ 52 := by
  simp [unpackMantissa, BitVec.extractLsb_toNat]

theorem toNat_unpackExponent (v : BitVec 64) :
    (@unpackExponent binary64 v).toNat = v.toNat / 2 ^ 52 % 2 ^ 11 := by
  simp [unpackExponent, BitVec.extractLsb_toNat, Nat.shiftRight_eq_div_pow]

theorem toNat_unpackSign (v : BitVec 64) :
    (@unpackSign binary64 v).toNat = v.toNat / 2 ^ 63 := by
  have bound := v.isLt
  show (v.extractLsb 63 63).toNat = v.toNat / 2 ^ 63
  rw [BitVec.extractLsb_toNat, Nat.shiftRight_eq_div_pow]
  omega

theorem toNat_packComponents (s : Sign) (e : BitVec 11) (m : BitVec 52) :
    (packComponents binary64 s e m).toNat =
      s.toBitVec.toNat * 2 ^ 63 + e.toNat * 2 ^ 52 + m.toNat := by
  simp only [packComponents, BitVec.toNat_append]
  rw [← Nat.shiftLeft_add_eq_or_of_lt m.isLt, ← Nat.shiftLeft_add_eq_or_of_lt e.isLt]
  simp only [Nat.shiftLeft_eq]
  omega

/-! ### Unpacked doubles -/

/-- What an unpacked double counts for: its sign bit, and its rank. -/
def signOf : UnpackedFloat → Sign
  | .notANumber => .positive
  | .infinity s | .zero s | .finite s _ _ _ => s

def rankOf : UnpackedFloat → Nat
  | .notANumber => infinityBits + 1
  | .infinity _ => infinityBits
  | .zero _ => 0
  | .finite _ m e _ => (e + 1074).toNat * 2 ^ 52 + m

theorem rankOf_infinity (s : Sign) : rankOf (.infinity s) = infinityBits :=
  rfl

theorem rankOf_zero (s : Sign) : rankOf (.zero s) = 0 :=
  rfl

/-- The form of unpacked doubles: the significand fills 53 bits, unless the exponent is the least one. -/
def Canonical : UnpackedFloat → Prop
  | .finite _ m e _ => m < 2 ^ 53 ∧ -1074 ≤ e ∧ e ≤ 971 ∧ (2 ^ 52 ≤ m ∨ e = -1074)
  | _ => True

/-- Bits by sign and rank. -/
structure Unpacks (n : Nat) (u : UnpackedFloat) : Prop where
  canonical : Canonical u
  sign : (signOf u).toBitVec.toNat = n / 2 ^ 63
  rank : rankOf u = n % 2 ^ 63

theorem unpacks_finite {n : Nat} {s : Sign} {m : Nat} {e : Int} {positive : 0 < m}
    (sign : s.toBitVec.toNat = n / 2 ^ 63) (canonical : Canonical (.finite s m e positive))
    (rank : (e + 1074).toNat * 2 ^ 52 + m = n % 2 ^ 63) : Unpacks n (.finite s m e positive) :=
  ⟨canonical, sign, rank⟩

theorem toBitVec_ofBitVec (b : BitVec 1) : (Sign.ofBitVec b).toBitVec = b := by
  revert b
  decide

/-- Bits are unpacked to their sign and rank, or to no number where the rank is beyond infinity. -/
theorem unpacks_unpack (v : BitVec 64) :
    unpack binary64 v = .notANumber ∧ infinityBits < v.toNat % 2 ^ 63 ∨
      unpack binary64 v ≠ .notANumber ∧ Unpacks v.toNat (unpack binary64 v) := by
  have bound := v.isLt
  have mantissa := toNat_unpackMantissa v
  have exponent := toNat_unpackExponent v
  have sign : (Sign.ofBitVec (@unpackSign binary64 v)).toBitVec.toNat = v.toNat / 2 ^ 63 := by
    rw [toBitVec_ofBitVec, toNat_unpackSign]
  have bias : (binary64.exponentBias : Int) + binary64.mantissaBitsWithoutImplicit = 1075 := by decide
  have ones : @unpackExponent binary64 v = -1#11 ↔
      (@unpackExponent binary64 v).toNat = 2047 := by
    rw [← BitVec.toNat_inj]
    rfl
  have zeros : @unpackExponent binary64 v = 0#11 ↔
      (@unpackExponent binary64 v).toNat = 0 := by
    rw [← BitVec.toNat_inj]
    rfl
  have empty : @unpackMantissa binary64 v = 0#52 ↔
      (@unpackMantissa binary64 v).toNat = 0 := by
    rw [← BitVec.toNat_inj]
    rfl
  have filled : (1#1 ++ @unpackMantissa binary64 v).toNat =
      2 ^ 52 + (@unpackMantissa binary64 v).toNat := by
    rw [BitVec.toNat_append, ← Nat.shiftLeft_add_eq_or_of_lt (BitVec.isLt _)]
    simp [Nat.shiftLeft_eq]
  unfold UnpackedFloat.unpack
  rw [bias]
  dsimp only
  by_cases top : @unpackExponent binary64 v = -BitVec.ofNat binary64.exponentBits 1
  · rw [if_pos top]
    have top := ones.mp top
    by_cases plain : @unpackMantissa binary64 v = BitVec.ofNat binary64.mantissaBitsWithoutImplicit 0
    · rw [if_pos plain]
      have plain := empty.mp plain
      refine .inr ⟨nofun, trivial, sign, ?_⟩
      rw [rankOf_infinity, infinityBits]
      omega
    · rw [if_neg plain]
      have payload := mt empty.mpr plain
      refine .inl ⟨rfl, ?_⟩
      rw [infinityBits]
      omega
  · rw [if_neg top]
    have below := mt ones.mpr top
    by_cases least : @unpackExponent binary64 v = BitVec.ofNat binary64.exponentBits 0
    · rw [if_pos least]
      have least := zeros.mp least
      by_cases plain : @unpackMantissa binary64 v = BitVec.ofNat binary64.mantissaBitsWithoutImplicit 0
      · rw [dif_pos plain]
        have plain := empty.mp plain
        refine .inr ⟨nofun, trivial, sign, ?_⟩
        rw [rankOf_zero]
        omega
      · rw [dif_neg plain]
        refine .inr ⟨nofun, unpacks_finite sign ⟨?_, ?_, ?_, ?_⟩ ?_⟩ <;> omega
    · rw [if_neg least]
      have normal := mt zeros.mpr least
      refine .inr ⟨nofun, unpacks_finite sign ⟨?_, ?_, ?_, ?_⟩ ?_⟩ <;> omega

theorem toNat_pack_finite (s : Sign) {m : Nat} {e : Int} (positive : 0 < m)
    (canonical : Canonical (.finite s m e positive)) :
    (pack binary64 (.finite s m e positive)).toNat =
      s.toBitVec.toNat * 2 ^ 63 + ((e + 1074).toNat * 2 ^ 52 + m) := by
  obtain ⟨bound, least, greatest, filled⟩ := canonical
  have nonzero : m ≠ 0 := Nat.ne_of_gt positive
  have biased : e + (binary64.exponentBias : Int) + (binary64.mantissaBitsWithoutImplicit : Int) =
      e + 1075 :=
    Int.add_assoc e 1023 52
  have inRange : ¬ 2 ^ 11 ≤ (e + 1075).toNat + 1 := by omega
  unfold pack
  simp only [biased]
  rw [if_neg inRange]
  split
  · rename_i width
    have place : m.log2 = 52 := Nat.succ.inj width
    have full : 2 ^ 52 ≤ m := place ▸ (Nat.le_log2 nonzero).mp (Nat.le_refl m.log2)
    have exponent : (BitVec.ofNat 11 (e + 1075).toNat).toNat = (e + 1074).toNat + 1 := by
      rw [BitVec.toNat_ofNat]
      omega
    have mantissa : (BitVec.ofNat 52 m).toNat + 2 ^ 52 = m := by
      rw [BitVec.toNat_ofNat]
      omega
    refine (toNat_packComponents s (.ofNat 11 (e + 1075).toNat) (.ofNat 52 m)).trans ?_
    rw [exponent]
    generalize (BitVec.ofNat 52 m).toNat = f at mantissa ⊢
    omega
  · rename_i width
    have within : m.log2 < 53 := (Nat.log2_lt nonzero).mpr bound
    have other : m.log2 ≠ 52 := fun place => width (congrArg Nat.succ place)
    have short : m < 2 ^ 52 := (Nat.log2_lt nonzero).mp (by omega)
    have mantissa : (BitVec.ofNat 52 m).toNat = m := by
      rw [BitVec.toNat_ofNat]
      exact Nat.mod_eq_of_lt short
    refine (toNat_packComponents s 0#11 (.ofNat 52 m)).trans ?_
    rw [BitVec.toNat_zero, mantissa]
    omega

/-- Packing gives the bits back that a double has been unpacked from. -/
theorem toNat_pack {n : Nat} {u : UnpackedFloat} (unpacks : Unpacks n u) (number : u ≠ .notANumber) :
    (pack binary64 u).toNat = n := by
  have packed : (pack binary64 u).toNat = (signOf u).toBitVec.toNat * 2 ^ 63 + rankOf u := by
    cases u with
    | notANumber => contradiction
    | infinity s =>
      refine (toNat_packComponents s (-1#11) 0#52).trans ?_
      have top : (-1#11).toNat * 2 ^ 52 = infinityBits := rfl
      rw [top, BitVec.toNat_zero, Nat.add_zero]
      rfl
    | zero s =>
      refine (toNat_packComponents s 0#11 0#52).trans ?_
      rw [BitVec.toNat_zero, BitVec.toNat_zero, Nat.zero_mul, Nat.add_zero]
      exact (Nat.add_zero _).symm
    | finite s m e positive => exact toNat_pack_finite s positive unpacks.canonical
  rw [packed, unpacks.sign, unpacks.rank, Nat.div_add_mod']

theorem rankOf_finite_lt {s : Sign} {m : Nat} {e : Int} {positive : 0 < m}
    (canonical : Canonical (.finite s m e positive)) :
    rankOf (.finite s m e positive) < infinityBits := by
  obtain ⟨bound, least, greatest, _⟩ := canonical
  dsimp only [rankOf, infinityBits]
  omega

/-! ### Comparison -/

/-- The place of an unpacked double among all that are numbers, counted from zero. -/
def placeOf (u : UnpackedFloat) : Int :=
  match signOf u with
  | .positive => rankOf u
  | .negative => -rankOf u

/-- Exponents come first in comparing ranks. -/
theorem compare_rankOf {s₁ s₂ : Sign} {m₁ m₂ : Nat} {e₁ e₂ : Int} {pos₁ : 0 < m₁} {pos₂ : 0 < m₂}
    (canonical₁ : Canonical (.finite s₁ m₁ e₁ pos₁)) (canonical₂ : Canonical (.finite s₂ m₂ e₂ pos₂)) :
    (compare e₁ e₂).then (compare m₁ m₂) =
      compare (rankOf (.finite s₁ m₁ e₁ pos₁)) (rankOf (.finite s₂ m₂ e₂ pos₂)) := by
  obtain ⟨bound₁, least₁, _, filled₁⟩ := canonical₁
  obtain ⟨bound₂, least₂, _, filled₂⟩ := canonical₂
  dsimp only [rankOf]
  rcases lt_trichotomy e₁ e₂ with less | rfl | greater
  · rw [compare_lt_iff_lt.mpr less, eq_comm]
    exact compare_lt_iff_lt.mpr (by omega)
  · rw [compare_eq_iff_eq.mpr rfl]
    rcases lt_trichotomy m₁ m₂ with less | rfl | greater
    · rw [compare_lt_iff_lt.mpr less, eq_comm]
      exact compare_lt_iff_lt.mpr (by omega)
    · rw [compare_eq_iff_eq.mpr rfl, compare_eq_iff_eq.mpr rfl]
      rfl
    · rw [compare_gt_iff_gt.mpr greater, eq_comm]
      exact compare_gt_iff_gt.mpr (by omega)
  · rw [compare_gt_iff_gt.mpr greater, eq_comm]
    exact compare_gt_iff_gt.mpr (by omega)

theorem compare_natCast (a b : Nat) : compare (a : Int) b = compare a b := by
  rcases lt_trichotomy a b with less | rfl | greater
  · rw [compare_lt_iff_lt.mpr less, compare_lt_iff_lt.mpr (Int.ofNat_lt.mpr less)]
  · rw [compare_eq_iff_eq.mpr rfl, compare_eq_iff_eq.mpr rfl]
  · rw [compare_gt_iff_gt.mpr greater, compare_gt_iff_gt.mpr (Int.ofNat_lt.mpr greater)]

theorem compare_neg_natCast (a b : Nat) : compare (-(a : Int)) (-b) = (compare a b).swap := by
  rcases lt_trichotomy a b with less | rfl | greater
  · rw [compare_lt_iff_lt.mpr less, compare_gt_iff_gt.mpr (Int.neg_lt_neg (Int.ofNat_lt.mpr less))]
    rfl
  · rw [compare_eq_iff_eq.mpr rfl, compare_eq_iff_eq.mpr rfl]
    rfl
  · rw [compare_gt_iff_gt.mpr greater,
      compare_lt_iff_lt.mpr (Int.neg_lt_neg (Int.ofNat_lt.mpr greater))]
    rfl

/-- Numbers are compared by their places. -/
theorem compare_placeOf {u v : UnpackedFloat} (canonical : Canonical u) (canonical' : Canonical v)
    (number : u ≠ .notANumber) (number' : v ≠ .notANumber) :
    u.compare v = some (compare (placeOf u) (placeOf v)) := by
  have less {a b : Int} (h : a < b) : some Ordering.lt = some (compare a b) :=
    congrArg some (compare_lt_iff_lt.mpr h).symm
  have greater {a b : Int} (h : b < a) : some Ordering.gt = some (compare a b) :=
    congrArg some (compare_gt_iff_gt.mpr h).symm
  have equal {a b : Int} (h : a = b) : some Ordering.eq = some (compare a b) :=
    congrArg some (compare_eq_iff_eq.mpr h).symm
  have top : 0 < infinityBits := by decide
  have within {s : Sign} {m : Nat} {e : Int} {pos : 0 < m} (canonical : Canonical (.finite s m e pos)) :
      0 < rankOf (.finite s m e pos) ∧ rankOf (.finite s m e pos) < infinityBits :=
    ⟨Nat.add_pos_right _ pos, rankOf_finite_lt canonical⟩
  rcases u with s | _ | s | ⟨s, m, e, pos⟩ <;> rcases v with s' | _ | s' | ⟨s', m', e', pos'⟩
  all_goals try contradiction
  case finite.finite =>
    have order := compare_rankOf canonical canonical'
    have within₁ := within canonical
    have within₂ := within canonical'
    cases s <;> cases s' <;> dsimp only [UnpackedFloat.compare, placeOf, signOf]
    · rw [order, compare_neg_natCast]
    · exact less (by omega)
    · exact greater (by omega)
    · rw [order, compare_natCast]
  -- zeros and infinities have the one rank, and only their signs and the other's are left to compare
  case finite.infinity | finite.zero =>
    have within := within canonical
    cases s <;> cases s' <;> dsimp only [placeOf, signOf, rankOf_infinity, rankOf_zero] <;>
      first | exact less (by omega) | exact greater (by omega)
  case infinity.finite | zero.finite =>
    have within := within canonical'
    cases s <;> cases s' <;> dsimp only [placeOf, signOf, rankOf_infinity, rankOf_zero] <;>
      first | exact less (by omega) | exact greater (by omega)
  all_goals
    cases s <;> cases s' <;> dsimp only [placeOf, signOf, rankOf_infinity, rankOf_zero] <;>
      first | exact less (by omega) | exact greater (by omega) | exact equal (by omega)

/-! ### Doubles -/

/-- The rank of a double's absolute value. -/
def rank (x : Float) : Nat :=
  x.toBits.toNat % 2 ^ 63

/-- The place of a double among all that are numbers, counted from zero. -/
def place (x : Float) : Int :=
  if Decimal.signBit x then -rank x else rank x

theorem signBit_iff (x : Float) : Decimal.signBit x = true ↔ x.toBits.toNat / 2 ^ 63 = 1 := by
  unfold Decimal.signBit
  rw [decide_eq_true_iff, ← UInt64.toNat_inj, UInt64.toNat_shiftRight, Nat.shiftRight_eq_div_pow]
  rfl

theorem natAbs_place (x : Float) : (place x).natAbs = rank x := by
  unfold place
  split <;> omega

/-- Only zero has two doubles at its place. -/
theorem eq_of_place {x y : Float} (same : place x = place y) (nonzero : place x ≠ 0) : x = y := by
  have bound := x.toBits.toNat_lt
  have bound' := y.toBits.toNat_lt
  have sign := signBit_iff x
  have sign' := signBit_iff y
  refine Decimal.eq_of_toBits (UInt64.toNat_inj.mp ?_)
  unfold place rank at same nonzero
  cases signed : Decimal.signBit x <;> cases signed' : Decimal.signBit y <;>
    simp only [signed, signed', Bool.false_eq_true, false_iff, true_iff, if_true, if_false] at * <;>
    omega

/-- A double is no number, or it unpacks to its sign and rank. -/
theorem unpacks_toModel (x : Float) :
    x.toModel.unpack = .notANumber ∧ infinityBits < rank x ∨
      x.toModel.unpack ≠ .notANumber ∧ Unpacks x.toBits.toNat x.toModel.unpack :=
  unpacks_unpack x.toBits.toBitVec

theorem place_of_unpacks {x : Float} (unpacks : Unpacks x.toBits.toNat x.toModel.unpack) :
    placeOf x.toModel.unpack = place x := by
  have sign := unpacks.sign
  have signed := signBit_iff x
  unfold placeOf place rank
  rw [unpacks.rank]
  cases signs : signOf x.toModel.unpack with
  | positive =>
    have zero : x.toBits.toNat / 2 ^ 63 = 0 := by rw [← sign, signs]; rfl
    rw [if_neg (by rw [signed, zero]; decide)]
  | negative =>
    have one : x.toBits.toNat / 2 ^ 63 = 1 := by rw [← sign, signs]; rfl
    rw [if_pos (signed.mpr one)]

/-- What kind of number a double is can be told from its rank. -/
theorem kind_iff (x : Float) : (x.isNaN = true ↔ infinityBits < rank x) ∧
    (x.isInf = true ↔ rank x = infinityBits) ∧ (x.isFinite = true ↔ rank x < infinityBits) := by
  show (x.toModel.unpack.isNaN = true ↔ _) ∧ (x.toModel.unpack.isInf = true ↔ _) ∧
    (x.toModel.unpack.isFinite = true ↔ _)
  have top : 0 < infinityBits := by decide
  rcases unpacks_toModel x with ⟨unpacked, beyond⟩ | ⟨number, canonical, _, ranked⟩
  · rw [unpacked]
    exact ⟨iff_of_true rfl beyond, iff_of_false nofun (by omega), iff_of_false nofun (by omega)⟩
  · rw [← show rankOf x.toModel.unpack = rank x from ranked]
    generalize x.toModel.unpack = u at number canonical
    cases u with
    | notANumber => contradiction
    | infinity s =>
      exact ⟨iff_of_false nofun (Nat.lt_irrefl _), iff_of_true rfl rfl, iff_of_false nofun (Nat.lt_irrefl _)⟩
    | zero s =>
      exact ⟨iff_of_false nofun (Nat.not_lt_zero _), iff_of_false nofun top.ne, iff_of_true rfl top⟩
    | finite s m e pos =>
      have below := rankOf_finite_lt canonical
      exact ⟨iff_of_false nofun (by omega), iff_of_false nofun (by omega), iff_of_true rfl below⟩

theorem isNaN_iff {x : Float} : x.isNaN = true ↔ infinityBits < rank x :=
  (kind_iff x).1

theorem isInf_iff {x : Float} : x.isInf = true ↔ rank x = infinityBits :=
  (kind_iff x).2.1

theorem isFinite_iff {x : Float} : x.isFinite = true ↔ rank x < infinityBits :=
  (kind_iff x).2.2

theorem unpacks_of_number {x : Float} (number : rank x ≤ infinityBits) :
    x.toModel.unpack ≠ .notANumber ∧ Unpacks x.toBits.toNat x.toModel.unpack := by
  rcases unpacks_toModel x with ⟨_, beyond⟩ | unpacks
  · omega
  · exact unpacks

/-- Comparing a double that is no number gives nothing. -/
theorem compare_eq_none {x y : Float} (beyond : infinityBits < rank x ∨ infinityBits < rank y) :
    x.toModel.unpack.compare y.toModel.unpack = none := by
  have nan {x : Float} (beyond : infinityBits < rank x) : x.toModel.unpack = .notANumber := by
    have found : x.toModel.unpack.isNaN = true := isNaN_iff.mpr beyond
    cases unpacked : x.toModel.unpack with
    | notANumber => rfl
    | _ => rw [unpacked] at found; contradiction
  rcases beyond with beyond | beyond
  · rw [nan beyond]
    rfl
  · rw [nan beyond]
    cases x.toModel.unpack <;> rfl

theorem compare_eq_some {x y : Float} (number : rank x ≤ infinityBits) (number' : rank y ≤ infinityBits) :
    x.toModel.unpack.compare y.toModel.unpack = some (compare (place x) (place y)) := by
  obtain ⟨isNumber, unpacks⟩ := unpacks_of_number number
  obtain ⟨isNumber', unpacks'⟩ := unpacks_of_number number'
  rw [compare_placeOf unpacks.canonical unpacks'.canonical isNumber isNumber',
    place_of_unpacks unpacks, place_of_unpacks unpacks']

theorem le_iff {x y : Float} :
    x ≤ y ↔ rank x ≤ infinityBits ∧ rank y ≤ infinityBits ∧ place x ≤ place y := by
  show decide ((x.toModel.unpack.compare y.toModel.unpack).any (·.isLE) = true) = true ↔ _
  rw [decide_eq_true_iff]
  by_cases numbers : rank x ≤ infinityBits ∧ rank y ≤ infinityBits
  · rw [compare_eq_some numbers.1 numbers.2, Option.any_some, Int.isLE_compare]
    omega
  · rw [compare_eq_none (by omega)]
    simp only [Option.any_none, Bool.false_eq_true, false_iff]
    omega

theorem lt_iff {x y : Float} :
    x < y ↔ rank x ≤ infinityBits ∧ rank y ≤ infinityBits ∧ place x < place y := by
  show decide ((x.toModel.unpack.compare y.toModel.unpack == some .lt) = true) = true ↔ _
  rw [decide_eq_true_iff, beq_iff_eq]
  by_cases numbers : rank x ≤ infinityBits ∧ rank y ≤ infinityBits
  · rw [compare_eq_some numbers.1 numbers.2, Option.some.injEq, compare_lt_iff_lt]
    omega
  · rw [compare_eq_none (by omega)]
    simp only [reduceCtorEq, false_iff]
    omega

theorem beq_iff {x y : Float} :
    (x == y) = true ↔ rank x ≤ infinityBits ∧ rank y ≤ infinityBits ∧ place x = place y := by
  show (x.toModel.unpack.compare y.toModel.unpack == some .eq) = true ↔ _
  rw [beq_iff_eq]
  by_cases numbers : rank x ≤ infinityBits ∧ rank y ≤ infinityBits
  · rw [compare_eq_some numbers.1 numbers.2, Option.some.injEq, compare_eq_iff_eq]
    omega
  · rw [compare_eq_none (by omega)]
    simp only [reduceCtorEq, false_iff]
    omega

/-! ### Bits taken apart and put together again -/

/-- Turning the sign around keeps the rank. -/
theorem Unpacks.neg {n : Nat} {u : UnpackedFloat} (unpacks : Unpacks n u) (number : u ≠ .notANumber) :
    Unpacks ((1 - n / 2 ^ 63) * 2 ^ 63 + n % 2 ^ 63) u.neg ∧ u.neg ≠ .notANumber := by
  have turned (s : Sign) : (-s).toBitVec.toNat = 1 - s.toBitVec.toNat := by
    cases s <;> rfl
  have parts : signOf u.neg = -signOf u ∧ rankOf u.neg = rankOf u ∧ (Canonical u → Canonical u.neg) ∧
      u.neg ≠ .notANumber := by
    cases u with
    | notANumber => contradiction
    | _ => exact ⟨rfl, rfl, id, nofun⟩
  obtain ⟨sign, rank, canonical, other⟩ := parts
  refine ⟨⟨canonical unpacks.canonical, ?_, ?_⟩, other⟩
  · rw [sign, turned, unpacks.sign]
    omega
  · rw [rank, unpacks.rank]
    omega

/-- Negation turns the sign of a number around and keeps its rank. -/
theorem neg_spec {x : Float} (number : rank x ≤ infinityBits) :
    rank (-x) = rank x ∧ Decimal.signBit (-x) = !Decimal.signBit x := by
  obtain ⟨isNumber, unpacks⟩ := unpacks_of_number number
  have bound := x.toBits.toNat_lt
  obtain ⟨opposite, other⟩ := unpacks.neg isNumber
  have bits : (-x).toBits.toNat =
      (1 - x.toBits.toNat / 2 ^ 63) * 2 ^ 63 + x.toBits.toNat % 2 ^ 63 :=
    toNat_pack opposite other
  refine ⟨?_, ?_⟩
  · unfold rank
    rw [bits]
    omega
  · rw [Bool.eq_iff_iff, Bool.not_eq_true', ← Bool.not_eq_true, signBit_iff, signBit_iff, bits]
    omega

theorem toBits_ofBits {n : UInt64} (number : n.toNat % 2 ^ 63 ≤ infinityBits) :
    (Float.ofBits n).toBits = n := by
  have unpacks : unpack binary64 n.toBitVec ≠ .notANumber ∧
      Unpacks n.toNat (unpack binary64 n.toBitVec) := by
    rcases unpacks_unpack n.toBitVec with ⟨_, beyond⟩ | unpacks
    · exact absurd number (Nat.not_le.mpr beyond)
    · exact unpacks
  exact UInt64.toNat_inj.mp (toNat_pack unpacks.2 unpacks.1)

end GeoRaster.Double
