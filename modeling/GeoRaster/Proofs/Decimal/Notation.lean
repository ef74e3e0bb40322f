import Mathlib.Algebra.Order.Ring.Int
import GeoRaster.Decimal.Notation
import GeoRaster.Decimal.Numeral
import GeoRaster.Text.Blank

/-! What number texts look like. They hold no blank, the text of an integer reads back as that integer,
and the text of a double is never that of an integer: it has a point, an exponent or a word in it. So
a double that is written `0` is zero. -/
namespace GeoRaster.Decimal

/-- The characters that numbers are written with. -/
def isNumeric (c : Char) : Bool :=
  c.isDigit || ['+', '-', '.', 'a', 'e', 'f', 'i', 'n'].contains c

theorem between_of_isDigit {c : Char} (digit : c.isDigit = true) : 48 ≤ c.toNat ∧ c.toNat ≤ 57 := by
  simpa [Char.isDigit, UInt32.le_iff_toNat_le] using digit

theorem isBlank_of_isNumeric {c : Char} (numeric : isNumeric c = true) : Text.isBlank c = false := by
  rcases Bool.or_eq_true_iff.mp numeric with digit | mark
  · obtain ⟨above, below⟩ := between_of_isDigit digit
    simp only [Text.isBlank, Bool.or_eq_false_iff, Bool.and_eq_false_iff, decide_eq_false_iff_not,
      beq_eq_false_iff_ne]
    omega
  · have letters : (['+', '-', '.', 'a', 'e', 'f', 'i', 'n'].all fun d => !Text.isBlank d) = true := by
      decide
    simpa using List.all_eq_true.mp letters c (List.contains_iff_mem.mp mark)

theorem natDigits_ne_nil (n : Nat) : natDigits n ≠ [] :=
  Nat.toDigits_ne_nil

theorem isDigit_of_mem_natDigits {n : Nat} {c : Char} (member : c ∈ natDigits n) : c.isDigit = true :=
  Nat.isDigit_of_mem_toDigits (by decide) (by decide) member

theorem isNumeric_of_mem_natDigits {n : Nat} {c : Char} (member : c ∈ natDigits n) :
    isNumeric c = true := by
  rw [isNumeric, isDigit_of_mem_natDigits member, Bool.true_or]

/-! ### Integers -/

theorem isNumeric_of_mem_intText {n : Int} {c : Char} (member : c ∈ (intText n).toList) :
    isNumeric c = true := by
  rw [intText, String.toList_ofList] at member
  split at member
  · rcases List.mem_cons.mp member with rfl | digit
    · decide
    · exact isNumeric_of_mem_natDigits digit
  · exact isNumeric_of_mem_natDigits member

theorem intText_ne_nil (n : Int) : (intText n).toList ≠ [] := by
  rw [intText, String.toList_ofList]
  split
  · exact List.cons_ne_nil _ _
  · exact natDigits_ne_nil n.natAbs

theorem ungroup?_of_not_mem {s : List Char} (plain : '_' ∉ s) (afterDigit : Bool) :
    ungroup? afterDigit s = some s := by
  induction s generalizing afterDigit with
  | nil => rfl
  | cons c s ih =>
    rw [List.mem_cons, not_or] at plain
    simp only [ungroup?, if_neg (Ne.symm plain.1), ih plain.2, Option.map_some]

theorem digitValue?_of_isDigit {c : Char} (digit : c.isDigit = true) :
    Text.digitValue? c = some (c.toNat - 48) := by
  obtain ⟨above, below⟩ := between_of_isDigit digit
  simp [Text.digitValue?, Text.digitZeros, above, below]

theorem digitRun_of_digits {s : List Char} (digits : ∀ c ∈ s, c.isDigit = true) :
    digitRun s = (s.map fun c => c.toNat - 48, []) := by
  induction s with
  | nil => rfl
  | cons c s ih =>
    rw [List.forall_mem_cons] at digits
    simp only [digitRun, digitValue?_of_isDigit digits.1, ih digits.2, List.map_cons]

theorem ofDigits_natDigits (n : Nat) : ofDigits ((natDigits n).map fun c => c.toNat - 48) = n := by
  rw [ofDigits, List.foldl_map]
  exact Nat.ofDigitChars_ten_toDigits

theorem splitSign_natDigits (n : Nat) : splitSign (natDigits n) = (false, natDigits n) := by
  have signed : ∀ {c : Char} {s : List Char}, natDigits n = c :: s → c.isDigit = true := by
    intro c s digits
    exact isDigit_of_mem_natDigits (digits ▸ List.mem_cons_self)
  unfold splitSign
  split
  · exact absurd (signed ‹_›) (by decide)
  · exact absurd (signed ‹_›) (by decide)
  · rfl

/-- The text of an integer reads back as that integer. -/
theorem readInteger?_intText (n : Int) : readInteger? (intText n).toList = some n := by
  have plain : '_' ∉ (intText n).toList := by
    intro mark
    exact absurd (isNumeric_of_mem_intText mark) (by decide)
  have run := digitRun_of_digits fun c => isDigit_of_mem_natDigits (n := n.natAbs) (c := c)
  have value := ofDigits_natDigits n.natAbs
  cases digits : (natDigits n.natAbs).map fun c => c.toNat - 48 with
  | nil => exact absurd (List.map_eq_nil_iff.mp digits) (natDigits_ne_nil n.natAbs)
  | cons d ds =>
    rw [digits] at run value
    rw [readInteger?, ungroup?_of_not_mem plain, Option.bind_some, intText, String.toList_ofList]
    by_cases negative : n < 0
    · simp only [negative, if_true, splitSign, run, value, Option.some.injEq]
      omega
    · simp only [negative, if_false, splitSign_natDigits, run, value, Bool.false_eq_true,
        Option.some.injEq]
      omega

/-! ### Doubles -/

/-- The characters that only the text of a double has. -/
def isMark (c : Char) : Bool :=
  c = '.' || c = 'e' || c = 'n'

section Layout

variable {digits : List Char} {lead : Int}

theorem isNumeric_of_mem_exponentPart {c : Char} (member : c ∈ exponentPart lead) :
    isNumeric c = true := by
  simp only [exponentPart, List.mem_cons] at member
  rcases member with rfl | rfl | member
  · decide
  · split <;> decide
  · split at member
    · rcases List.mem_cons.mp member with rfl | digit
      · decide
      · exact isNumeric_of_mem_natDigits digit
    · exact isNumeric_of_mem_natDigits member

variable (numeric : ∀ c ∈ digits, isNumeric c = true)
include numeric

theorem isNumeric_of_mem_positional {c : Char} (member : c ∈ positional digits lead) :
    isNumeric c = true := by
  unfold positional at member
  split at member
  · simp only [List.mem_cons, List.mem_append, List.cons_append, List.mem_replicate] at member
    rcases member with rfl | rfl | ⟨_, rfl⟩ | digit
    · decide
    · decide
    · decide
    · exact numeric c digit
  · dsimp only at member
    split at member
    · simp only [List.mem_cons, List.mem_append, List.mem_replicate, List.not_mem_nil, or_false] at member
      rcases member with (digit | ⟨_, rfl⟩) | rfl | rfl
      · exact numeric c digit
      · decide
      · decide
      · decide
    · simp only [List.mem_cons, List.mem_append] at member
      rcases member with digit | rfl | digit
      · exact numeric c (List.mem_of_mem_take digit)
      · decide
      · exact numeric c (List.mem_of_mem_drop digit)

theorem isNumeric_of_mem_withExponent {c : Char} (member : c ∈ withExponent digits lead) :
    isNumeric c = true := by
  unfold withExponent at member
  split at member
  · exact absurd member List.not_mem_nil
  · rcases List.mem_cons.mp member with rfl | exponent
    · exact numeric c List.mem_cons_self
    · exact isNumeric_of_mem_exponentPart exponent
  · simp only [List.mem_cons, List.mem_append, List.cons_append] at member
    rcases member with rfl | rfl | digit | exponent
    · exact numeric c List.mem_cons_self
    · decide
    · exact numeric c (List.mem_cons_of_mem _ digit)
    · exact isNumeric_of_mem_exponentPart exponent

omit numeric in
theorem exists_mark_positional : ∃ c ∈ positional digits lead, isMark c = true := by
  refine ⟨'.', ?_, rfl⟩
  unfold positional
  dsimp only
  split
  · simp
  · split <;> simp

omit numeric in
theorem exists_mark_withExponent (some : digits ≠ []) : ∃ c ∈ withExponent digits lead, isMark c = true := by
  refine ⟨'e', ?_, rfl⟩
  unfold withExponent
  split
  · contradiction
  · simp [exponentPart]
  · simp [exponentPart]

end Layout

theorem isNumeric_of_mem_layout {d : Scientific} {c : Char} (member : c ∈ d.layout) :
    isNumeric c = true := by
  have digits : ∀ c ∈ natDigits d.digits, isNumeric c = true := fun _ => isNumeric_of_mem_natDigits
  unfold Scientific.layout at member
  dsimp only at member
  split at member
  · exact isNumeric_of_mem_positional digits member
  · exact isNumeric_of_mem_withExponent digits member

theorem exists_mark_layout (d : Scientific) : ∃ c ∈ d.layout, isMark c = true := by
  unfold Scientific.layout
  dsimp only
  split
  · exact exists_mark_positional
  · exact exists_mark_withExponent (natDigits_ne_nil d.digits)

/-- What holds of the words for numbers that have no digits, of zero, of all other layouts, and of
a minus sign before them, holds of the text of every double. -/
theorem floatText_of_cases {p : List Char → Prop} (nan : p ['n', 'a', 'n']) (inf : p ['i', 'n', 'f'])
    (zero : p ['0', '.', '0']) (layout : ∀ d : Scientific, p d.layout) (minus : ∀ s, p s → p ('-' :: s))
    (x : Float) : p (floatText x).toList := by
  rw [floatText, String.toList_ofList, floatChars]
  split
  · exact nan
  · have magnitude : p (if x.isInf then ['i', 'n', 'f'] else if x == 0.0 then ['0', '.', '0']
        else (Binary64.ofFloat x).shortest.layout) := by
      split
      · exact inf
      · split
        · exact zero
        · exact layout _
    dsimp only
    split
    · exact minus _ magnitude
    · exact magnitude

theorem isNumeric_of_mem_floatText {x : Float} {c : Char} (member : c ∈ (floatText x).toList) :
    isNumeric c = true := by
  have numeric : (floatText x).toList.all isNumeric = true := by
    refine floatText_of_cases (p := fun s => s.all isNumeric = true) (by decide) (by decide) (by decide)
      ?_ ?_ x
    · intro d
      exact List.all_eq_true.mpr fun _ => isNumeric_of_mem_layout
    · intro s numeric
      rw [List.all_cons, numeric]
      decide
  exact List.all_eq_true.mp numeric c member

theorem exists_mark_floatText (x : Float) : ∃ c ∈ (floatText x).toList, isMark c = true := by
  have marked : (floatText x).toList.any isMark = true := by
    refine floatText_of_cases (p := fun s => s.any isMark = true) (by decide) (by decide) (by decide)
      ?_ ?_ x
    · intro d
      exact List.any_eq_true.mpr (exists_mark_layout d)
    · intro s marked
      rw [List.any_cons, marked, Bool.or_true]
  exact List.any_eq_true.mp marked

/-- The text of a double is not that of an integer. -/
theorem floatText_ne_intText (x : Float) (n : Int) : floatText x ≠ intText n := by
  intro same
  obtain ⟨c, member, mark⟩ := exists_mark_floatText x
  rw [same, intText, String.toList_ofList] at member
  have plain : c = '-' ∨ c.isDigit = true := by
    split at member
    · exact (List.mem_cons.mp member).imp_right isDigit_of_mem_natDigits
    · exact .inr (isDigit_of_mem_natDigits member)
  simp only [isMark, Bool.or_eq_true, decide_eq_true_eq] at mark
  rcases mark with (rfl | rfl) | rfl <;> exact absurd plain (by decide)

/-! ### Zero -/

theorem eq_of_toBits {x y : Float} (same : x.toBits = y.toBits) : x = y := by
  obtain ⟨⟨bits, valid⟩⟩ := x
  obtain ⟨⟨bits', valid'⟩⟩ := y
  obtain rfl : bits = bits' := same
  rfl

theorem twoTo_pos (n : Nat) : 0 < twoTo n :=
  Nat.two_pow_pos n

/-- The exponent and the fraction of bits. -/
theorem fields_of_bits (bits : UInt64) :
    ((bits >>> 52) &&& 0x7FF).toNat = bits.toNat / 2 ^ 52 % 2 ^ 11 ∧
      (bits &&& 0xFFFFFFFFFFFFF).toNat = bits.toNat % 2 ^ 52 := by
  rw [UInt64.toNat_and, UInt64.toNat_and, UInt64.toNat_shiftRight, Nat.shiftRight_eq_div_pow]
  exact ⟨Nat.and_two_pow_sub_one_eq_mod _ 11, Nat.and_two_pow_sub_one_eq_mod _ 52⟩

/-- Without a significand, only the sign is left of a double's bits. -/
theorem bits_of_significand {bits : UInt64} (zero : (Binary64.ofBits bits).significand = 0) :
    bits = 0 ∨ bits = 0x8000000000000000 := by
  obtain ⟨exponent, fraction⟩ := fields_of_bits bits
  have hidden := twoTo_pos 52
  have bound := bits.toNat_lt
  simp only [Binary64.ofBits, exponent, fraction] at zero
  rw [← UInt64.toNat_inj, ← UInt64.toNat_inj]
  show bits.toNat = 0 ∨ bits.toNat = 0x8000000000000000
  split at zero
  · dsimp only at zero
    omega
  · dsimp only at zero
    omega

theorem eq_zero_of_significand {x : Float} (zero : (Binary64.ofFloat x).significand = 0) :
    (x == 0.0) = true := by
  have positive : (0.0 : Float).toBits = 0 := by decide +kernel
  have negative : (-0.0 : Float).toBits = 0x8000000000000000 := by decide +kernel
  rcases bits_of_significand zero with bits | bits
  · rw [eq_of_toBits (bits.trans positive.symm)]
    decide +kernel
  · rw [eq_of_toBits (bits.trans negative.symm)]
    decide +kernel

/-- A whole double whose integer is zero is zero. -/
theorem eq_zero_of_isWhole {x : Float} (whole : isWhole x = true) (zero : floorInt x = 0) :
    (x == 0.0) = true := by
  apply eq_zero_of_significand
  simp only [isWhole, Bool.and_eq_true, Bool.or_eq_true, decide_eq_true_eq] at whole
  unfold floorInt at zero
  dsimp only at zero
  generalize Binary64.ofFloat x = b at whole zero
  have signed : (if signBit x then -(b.significand : Int) else b.significand) = 0 := by
    split at zero
    · exact (Int.mul_eq_zero.mp zero).resolve_right (Int.natCast_ne_zero.mpr (Nat.ne_of_gt (twoTo_pos _)))
    · rename_i fractional
      -- what is divided leaves no remainder
      have divides : (twoTo (-b.exponent).toNat : Int) ∣ b.significand :=
        Int.natCast_dvd_natCast.mpr (Nat.dvd_of_mod_eq_zero (whole.2.resolve_left fractional))
      have signed : (twoTo (-b.exponent).toNat : Int) ∣
          if signBit x then -(b.significand : Int) else b.significand := by
        split
        · exact Int.dvd_neg.mpr divides
        · exact divides
      rw [Int.fdiv_eq_ediv_of_nonneg _ (Int.natCast_nonneg _)] at zero
      rw [← Int.ediv_mul_cancel signed, zero, Int.zero_mul]
  split at signed <;> omega

end GeoRaster.Decimal
