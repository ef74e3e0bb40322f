import GeoRaster.Proofs.Decimal.Reading
import GeoRaster.Proofs.Decimal.Shortest

/-! Finite doubles read back as themselves. Wherever the point stands in the digits of a decimal, and
with an exponent behind them or none, the text is a numeral of the decimal's value; and the shortest decimal
of a double is rounded to the double. -/
namespace GeoRaster.Decimal

/-! ### Digits -/

theorem digitRun_append {s rest : List Char} (digits : ∀ c ∈ s, c.isDigit = true)
    (stop : digitRun rest = ([], rest)) : digitRun (s ++ rest) = (s.map fun c => c.toNat - 48, rest) := by
  induction s with
  | nil => exact stop
  | cons c s ih =>
    rw [List.forall_mem_cons] at digits
    simp only [List.cons_append, digitRun, digitValue?_of_isDigit digits.1, ih digits.2, List.map_cons]

theorem ofDigits_zeros_append (k : Nat) (ds : List Nat) :
    ofDigits (List.replicate k 0 ++ ds) = ofDigits ds := by
  induction k with
  | zero => rfl
  | succ k ih => exact ih

theorem ofDigits_append_zeros (ds : List Nat) (k : Nat) :
    ofDigits (ds ++ List.replicate k 0) = ofDigits ds * 10 ^ k := by
  induction k with
  | zero => rw [List.replicate_zero, List.append_nil, Nat.pow_zero, Nat.mul_one]
  | succ k ih =>
    rw [List.replicate_succ', ← List.append_assoc, ofDigits, List.foldl_append, ← ofDigits, ih]
    show 10 * _ + 0 = _
    ring

theorem isDigit_of_mem_zeros (k : Nat) : ∀ c ∈ List.replicate k '0', c.isDigit = true := by
  intro c member
  rw [List.eq_of_mem_replicate member]
  rfl

theorem values_zeros (k : Nat) : (List.replicate k '0').map (fun c => c.toNat - 48) = List.replicate k 0 :=
  List.map_replicate

/-! ### Exponents -/

theorem digitRun_exponentPart (e : ℤ) : digitRun (exponentPart e) = ([], exponentPart e) :=
  rfl

theorem readExponent?_exponentPart (e : ℤ) : readExponent? (exponentPart e) = some e := by
  have digits : ∀ c ∈ natDigits e.natAbs, c.isDigit = true := fun _ => isDigit_of_mem_natDigits
  have value := ofDigits_natDigits e.natAbs
  -- a zero in front of a single digit changes neither the run nor its value
  obtain ⟨s, written, d, ds, run, value⟩ : ∃ s, (if (natDigits e.natAbs).length < 2 then
      '0' :: natDigits e.natAbs else natDigits e.natAbs) = s ∧
      ∃ d ds, digitRun s = (d :: ds, []) ∧ ofDigits (d :: ds) = e.natAbs := by
    refine ⟨_, rfl, ?_⟩
    split
    · have padded : ∀ c ∈ '0' :: natDigits e.natAbs, c.isDigit = true :=
        List.forall_mem_cons.mpr ⟨by decide, digits⟩
      exact ⟨_, _, digitRun_of_digits padded, value⟩
    · obtain ⟨c, t, parts⟩ := List.exists_cons_of_ne_nil (natDigits_ne_nil e.natAbs)
      rw [parts] at digits value ⊢
      exact ⟨_, _, digitRun_of_digits digits, value⟩
  unfold exponentPart
  dsimp only
  rw [written]
  split
  · simp only [readExponent?, true_or, if_true, splitSign, run, value]
    rw [Option.some.injEq]
    omega
  · simp only [readExponent?, true_or, if_true, splitSign, run, value, Bool.false_eq_true, if_false]
    rw [Option.some.injEq]
    omega

/-! ### Decimals as numerals -/

/-- A text that is a numeral of a number, and starts with a digit. -/
structure Denotes (s : List Char) (v : ℚ) : Prop where
  start : ∃ c t, s = c :: t ∧ c.isDigit = true
  reads : ∀ negative, ∃ digits exponent,
    readDecimal? negative s = some (.finite negative digits exponent) ∧ (digits * 10 ^ exponent : ℚ) = v

theorem denotes_of_parts {whole rest tail : List Char} {fraction : List Nat} {e : ℤ} {v : ℚ}
    (nonempty : whole ≠ []) (digits : ∀ c ∈ whole, c.isDigit = true) (stop : digitRun rest = ([], rest))
    (point : fractionRun rest = (fraction, tail)) (exponent : readExponent? tail = some e)
    (value : (ofDigits ((whole.map fun c => c.toNat - 48) ++ fraction) * 10 ^ (e - fraction.length) : ℚ) = v) :
    Denotes (whole ++ rest) v := by
  obtain ⟨c, t, rfl⟩ := List.exists_cons_of_ne_nil nonempty
  refine ⟨⟨c, t ++ rest, rfl, digits c List.mem_cons_self⟩, fun negative => ⟨_, _, ?_, value⟩⟩
  have run := digitRun_append digits stop
  unfold readDecimal?
  simp only [run, point, exponent, List.map_cons, reduceCtorEq, false_and, if_false, Option.map_some]

theorem denotes_of_point {whole fraction tail : List Char} {e : ℤ} {v : ℚ} (nonempty : whole ≠ [])
    (digits : ∀ c ∈ whole ++ fraction, c.isDigit = true) (stop : digitRun tail = ([], tail))
    (exponent : readExponent? tail = some e)
    (value : (ofDigits ((whole ++ fraction).map fun c => c.toNat - 48) * 10 ^ (e - fraction.length) : ℚ) = v) :
    Denotes (whole ++ '.' :: (fraction ++ tail)) v := by
  rw [List.forall_mem_append] at digits
  refine denotes_of_parts nonempty digits.1 rfl (digitRun_append digits.2 stop) exponent ?_
  rw [List.length_map, ← List.map_append]
  exact value

theorem denotes_pointed {whole fraction : List Char} {v : ℚ} (nonempty : whole ≠ [])
    (digits : ∀ c ∈ whole ++ fraction, c.isDigit = true)
    (value : (ofDigits ((whole ++ fraction).map fun c => c.toNat - 48) * 10 ^ (-(fraction.length : ℤ)) : ℚ) = v) :
    Denotes (whole ++ '.' :: fraction) v := by
  rw [← List.append_nil fraction]
  exact denotes_of_point nonempty digits rfl rfl (zero_sub (fraction.length : ℤ) ▸ value)

section Layout

variable {digits : List Char} {lead : ℤ} {n : Nat} (nonempty : digits ≠ [])
  (figures : ∀ c ∈ digits, c.isDigit = true) (value : ofDigits (digits.map fun c => c.toNat - 48) = n)

include nonempty figures value

omit nonempty in
/-- Digits behind a point and zeros. -/
theorem denotes_behind_zeros (k : Nat) :
    Denotes ('0' :: '.' :: List.replicate k '0' ++ digits) (n * 10 ^ (-(k + digits.length : ℤ))) := by
  show Denotes (['0'] ++ '.' :: (List.replicate k '0' ++ digits)) _
  refine denotes_pointed (List.cons_ne_nil '0' []) ?_ ?_
  · rw [List.forall_mem_append, List.forall_mem_append]
    exact ⟨isDigit_of_mem_zeros 1, isDigit_of_mem_zeros k, figures⟩
  · have leading := ofDigits_zeros_append (k + 1) (digits.map fun c => c.toNat - 48)
    rw [value] at leading
    rw [← List.append_assoc, List.map_append, List.map_append, values_zeros, List.length_append,
      List.length_replicate, Nat.cast_add]
    exact congrArg (fun m : Nat => (m : ℚ) * _) leading

/-- Digits and zeros before the point. -/
theorem denotes_before_zeros (k : Nat) :
    Denotes (digits ++ List.replicate k '0' ++ ['.', '0']) (n * 10 ^ (k : ℤ)) := by
  refine denotes_pointed (List.append_ne_nil_of_left_ne_nil nonempty _) ?_ ?_
  · rw [List.forall_mem_append, List.forall_mem_append]
    exact ⟨⟨figures, isDigit_of_mem_zeros k⟩, isDigit_of_mem_zeros 1⟩
  · have ones : digits ++ List.replicate k '0' ++ ['0'] = digits ++ List.replicate (k + 1) '0' := by
      rw [List.append_assoc, ← List.replicate_succ']
    have place : (k : ℤ) = ((k + 1 : ℕ) : ℤ) + -(['0'].length : ℤ) := by
      rw [List.length_singleton]
      omega
    rw [ones, List.map_append, values_zeros, ofDigits_append_zeros, value, place,
      zpow_add₀ (by norm_num), zpow_natCast, Nat.cast_mul, Nat.cast_pow, mul_assoc]
    rfl

/-- Digits around the point. -/
theorem denotes_around_point {k : Nat} (some : k ≠ 0) (within : k ≤ digits.length) :
    Denotes (digits.take k ++ '.' :: digits.drop k) (n * 10 ^ (k - digits.length : ℤ)) := by
  refine denotes_pointed ?_ ?_ ?_
  · rw [Ne, List.take_eq_nil_iff]
    exact not_or.mpr ⟨some, nonempty⟩
  · rwa [List.take_append_drop]
  · rw [List.take_append_drop, value, List.length_drop, Nat.cast_sub within, neg_sub]

theorem denotes_positional : Denotes (positional digits lead) (n * 10 ^ (lead + 1 - digits.length)) := by
  unfold positional
  dsimp only
  split
  · have place : lead + 1 - digits.length = -((-lead - 1).toNat + digits.length : ℤ) := by omega
    rw [place]
    exact denotes_behind_zeros figures value _
  · split
    · have place : lead + 1 - digits.length = ((lead.toNat + 1 - digits.length : ℕ) : ℤ) := by omega
      rw [place]
      exact denotes_before_zeros nonempty figures value _
    · have place : lead + 1 - digits.length = ((lead.toNat + 1 : ℕ) : ℤ) - digits.length := by omega
      rw [place]
      exact denotes_around_point nonempty figures value (Nat.succ_ne_zero _) (by omega)

theorem denotes_withExponent : Denotes (withExponent digits lead) (n * 10 ^ (lead + 1 - digits.length)) := by
  have exponent := readExponent?_exponentPart lead
  unfold withExponent
  split
  · contradiction
  · refine denotes_of_parts nonempty figures (digitRun_exponentPart lead) rfl exponent ?_
    rw [List.append_nil, value, List.length_nil, List.length_singleton, Nat.cast_zero, Nat.cast_one, sub_zero,
      add_sub_cancel_right]
  · rename_i d rest _
    refine denotes_of_point (List.cons_ne_nil d []) figures (digitRun_exponentPart lead) exponent ?_
    rw [List.singleton_append, value, List.length_cons, Nat.cast_succ, add_sub_add_right_eq_sub]

end Layout

theorem denotes_layout (d : Scientific) : Denotes d.layout d.value := by
  have nonempty := natDigits_ne_nil d.digits
  have figures : ∀ c ∈ natDigits d.digits, c.isDigit = true := fun _ => isDigit_of_mem_natDigits
  have value := ofDigits_natDigits d.digits
  have exponent : d.exponent = d.exponent + (natDigits d.digits).length - 1 + 1 - (natDigits d.digits).length := by
    omega
  rw [Scientific.value, exponent]
  unfold Scientific.layout
  dsimp only
  split
  · exact denotes_positional nonempty figures value
  · exact denotes_withExponent nonempty figures value

/-! ### Doubles -/

/-- With a minus sign or without, a text is a numeral of that sign. -/
theorem Denotes.readNumeral? {s : List Char} {v : ℚ} (denotes : Denotes s v) (negative : Bool)
    (plain : '_' ∉ if negative then '-' :: s else s) :
    ∃ digits exponent, Decimal.readNumeral? (if negative then '-' :: s else s) =
      some (.finite negative digits exponent) ∧ (digits * 10 ^ exponent : ℚ) = v := by
  obtain ⟨digits, exponent, read, value⟩ := denotes.reads negative
  obtain ⟨c, t, rfl, digit⟩ := denotes.start
  refine ⟨digits, exponent, ?_, value⟩
  rw [← read]
  cases negative with
  | true => exact readNumeral?_of_digit plain rfl digit
  | false => exact readNumeral?_of_digit plain (splitSign_of_digit digit) digit

/-- The text of a finite double, up to its sign, and what every decimal of its value is rounded to. -/
theorem exists_magnitude {x : Float} (finite : x.isFinite = true) :
    ∃ s v, floatChars x = (if signBit x then '-' :: s else s) ∧ Denotes s v ∧
      ∀ (digits : Nat) (exponent : ℤ), (digits * 10 ^ exponent : ℚ) = v →
        Double.rank (ofDecimal digits exponent) = Double.rank x ∧ signBit (ofDecimal digits exponent) = false := by
  have below := Double.isFinite_iff.mp finite
  have number : ¬ x.isNaN = true := mt Double.isNaN_iff.mp (by omega)
  have bounded : ¬ x.isInf = true := mt Double.isInf_iff.mp (by omega)
  unfold floatChars
  rw [if_neg number, if_neg bounded]
  by_cases zero : (x == 0.0) = true
  · rw [if_pos zero]
    have denotes : Denotes (['0'] ++ '.' :: ['0']) 0 :=
      denotes_pointed (List.cons_ne_nil _ _) (isDigit_of_mem_zeros 2) (zero_mul _)
    refine ⟨_, 0, rfl, denotes, fun digits exponent value => ?_⟩
    have none : digits = 0 :=
      Nat.cast_eq_zero.mp ((mul_eq_zero.mp value).resolve_right (ten_zpow_pos exponent).ne')
    have least : Double.rank x = 0 := by
      rw [← Double.natAbs_place, (Double.beq_iff.mp zero).2.2]
      decide +kernel
    rw [none, ofDecimal, if_pos rfl, least]
    exact ⟨by decide +kernel, by decide +kernel⟩
  · rw [if_neg zero]
    have positive : 0 < (Binary64.ofFloat x).significand :=
      Nat.pos_of_ne_zero (mt eq_zero_of_significand zero)
    refine ⟨_, _, rfl, denotes_layout _, fun digits exponent value => ?_⟩
    exact rank_ofDecimal finite positive (value ▸ around_shortest positive)

/-- The text of a finite double reads back as that double. -/
theorem readsBack_floatText {x : Float} (finite : x.isFinite = true) : ReadsBack (floatText x) x := by
  obtain ⟨s, v, text, denotes, rounded⟩ := exists_magnitude finite
  have plain : '_' ∉ floatChars x := by
    intro mark
    rw [← String.toList_ofList (l := floatChars x)] at mark
    exact absurd (isNumeric_of_mem_floatText mark) (by decide)
  rw [text] at plain
  obtain ⟨digits, exponent, read, value⟩ := denotes.readNumeral? (signBit x) plain
  obtain ⟨ranked, positive⟩ := rounded digits exponent value
  refine ⟨if signBit x then -ofDecimal digits exponent else ofDecimal digits exponent, ?_,
    Double.beq_of_rank finite ranked positive⟩
  rw [floatText, String.toList_ofList, text, read, Option.bind_some]
  rfl

end GeoRaster.Decimal
