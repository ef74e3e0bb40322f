import GeoRaster.Proofs.Double.Whole

/-! What number texts read back as. The text of an integer is a numeral that denotes it, and if its double
is exact, reading gives that double. So a whole double that is written as an integer reads back as
itself. -/
namespace GeoRaster.Decimal

open Double (Fits ofInt_spec units one)

/-! ### Integers as numerals -/

theorem toLower_of_isDigit {c : Char} (digit : c.isDigit = true) : c.toLower = c := by
  obtain ⟨above, below⟩ := between_of_isDigit digit
  have value : c.val.toNat = c.toNat := rfl
  have letter : ('A' : Char).val.toNat = 65 := rfl
  have plain : ¬ (c.val ≥ 'A'.val ∧ c.val ≤ 'Z'.val) := by
    rw [ge_iff_le, UInt32.le_iff_toNat_le, UInt32.le_iff_toNat_le]
    omega
  exact dif_neg plain

/-- A text that starts with a digit, after its sign, is none of the words for numbers. -/
theorem readNumeral?_of_digit {s t : List Char} {c : Char} {negative : Bool} (plain : '_' ∉ s)
    (sign : splitSign s = (negative, c :: t)) (digit : c.isDigit = true) :
    readNumeral? s = readDecimal? negative (c :: t) := by
  have word {d : Char} {w : List Char} (letter : d.isDigit = false) :
      (c :: t).map Char.toLower ≠ d :: w := by
    rw [List.map_cons, toLower_of_isDigit digit]
    rintro ⟨⟩
    exact Bool.false_ne_true (letter.symm.trans digit)
  have inf := word (d := 'i') (w := ['n', 'f']) (by decide)
  have infinity := word (d := 'i') (w := ['n', 'f', 'i', 'n', 'i', 't', 'y']) (by decide)
  have nan := word (d := 'n') (w := ['a', 'n']) (by decide)
  unfold readNumeral?
  rw [ungroup?_of_not_mem plain, Option.bind_some]
  simp only [sign, inf, infinity, nan, or_self, if_false]

theorem splitSign_of_digit {c : Char} {s : List Char} (digit : c.isDigit = true) :
    splitSign (c :: s) = (false, c :: s) := by
  unfold splitSign
  split
  · exact absurd digit (by simp_all)
  · exact absurd digit (by simp_all)
  · rfl

theorem readNumeral?_intText (n : Int) :
    readNumeral? (intText n).toList = some (.finite (decide (n < 0)) n.natAbs 0) := by
  have plain : '_' ∉ (intText n).toList := by
    intro mark
    exact absurd (isNumeric_of_mem_intText mark) (by decide)
  have run := digitRun_of_digits fun c => isDigit_of_mem_natDigits (n := n.natAbs) (c := c)
  have value := ofDigits_natDigits n.natAbs
  obtain ⟨c, t, digits⟩ := List.exists_cons_of_ne_nil (natDigits_ne_nil n.natAbs)
  have digit : c.isDigit = true := isDigit_of_mem_natDigits (digits ▸ List.mem_cons_self)
  have sign : splitSign (intText n).toList = (decide (n < 0), c :: t) := by
    rw [intText, String.toList_ofList, digits]
    by_cases negative : n < 0
    · simp only [negative, if_true, splitSign, decide_true]
    · simp only [negative, if_false, decide_false, splitSign_of_digit digit]
  rw [readNumeral?_of_digit plain sign digit]
  rw [digits, List.map_cons] at run value
  unfold readDecimal?
  simp only [run, fractionRun, List.append_nil, value, reduceCtorEq, false_and, if_false, readExponent?,
    Option.map_some, List.length_nil]
  rfl

/-- The digits of a natural number that is not too large for a double are read without rounding them twice. -/
theorem ofDecimal_natural {n : Nat} (small : n < twoTo 1024) : ofDecimal n 0 = nearest n 1 := by
  unfold ofDecimal
  split
  · rename_i zero
    rw [zero]
    rfl
  · rename_i nonzero
    have size : n.log2 < 1024 := (Double.log2_lt (Nat.pos_of_ne_zero nonzero)).mpr small
    have large : ¬ (n.log2 : Int) / 4 + 0 > 400 := by omega
    have tiny : ¬ (n.log2 : Int) / 3 + 1 + 0 < -400 := by omega
    simp only [if_neg large]
    rw [if_neg tiny]
    exact congrArg (nearest · 1) (Nat.mul_one n)

/-- The text of an integer reads back as its double. -/
theorem reads_intText {n : Int} (fits : Fits n.natAbs) :
    (readNumeral? (intText n).toList).bind Scalar.ofNumeral? = some (ofInt n) := by
  rw [readNumeral?_intText, Option.bind_some]
  refine congrArg some ?_
  simp only [Numeral.toFloat, ofInt, ofDecimal_natural fits.1, decide_eq_true_eq]

/-! ### Whole doubles -/

theorem isFinite_of_isWhole {x : Float} (whole : isWhole x = true) : x.isFinite = true := by
  simp only [isWhole, Bool.and_eq_true, Bool.not_eq_true'] at whole
  obtain ⟨⟨number, bounded⟩, _⟩ := whole
  have number := mt Double.isNaN_iff.mpr (Bool.eq_false_iff.mp number)
  have bounded := mt Double.isInf_iff.mpr (Bool.eq_false_iff.mp bounded)
  exact Double.isFinite_iff.mpr (by omega)

/-- A whole double is the double of its integer. -/
theorem ofInt_floorInt {x : Float} (whole : isWhole x = true) : (ofInt (floorInt x) == x) = true := by
  have finite := isFinite_of_isWhole whole
  obtain ⟨finite', exact⟩ := Double.ofInt_floorInt finite
  rw [Double.beq_iff_units, exact, Double.units_eq_of_isWhole whole]
  exact ⟨(Double.isFinite_iff.mp finite').le, (Double.isFinite_iff.mp finite).le, rfl⟩

/-- A text that reads back as a double, up to the sign of zero. -/
def ReadsBack (text : String) (x : Float) : Prop :=
  ∃ y : Float, (readNumeral? text.toList).bind Scalar.ofNumeral? = some y ∧ (y == x) = true

instance (text : String) (x : Float) : Decidable (ReadsBack text x) :=
  decidable_of_iff _ (Option.any_eq_true (· == x) ((readNumeral? text.toList).bind Scalar.ofNumeral?))

theorem readsBack_of_isWhole {x : Float} (whole : isWhole x = true) : ReadsBack (intText (floorInt x)) x :=
  ⟨_, reads_intText (Double.fits_floorInt (isFinite_of_isWhole whole)), ofInt_floorInt whole⟩

end GeoRaster.Decimal
