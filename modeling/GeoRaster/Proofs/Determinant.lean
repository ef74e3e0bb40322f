import GeoRaster.Proofs.Matrix

/-! Determinants against elimination. Exchanging two rows turns the sign of the determinant, and taking a
multiple of one row off another leaves it as it is. A pivot is an entry of greatest magnitude in
what is left of its column, so a zero pivot stands above zeros alone; elimination therefore stops
at the matrices whose determinant is zero, and at no others. -/
namespace GeoRaster.Matrix3

open Matrix

variable {α : Type} [ExactScalar α]

theorem det_toMatrix (m : Matrix3 α) : m.toMatrix.det =
    m.top.a * (m.middle.b * m.bottom.c - m.middle.c * m.bottom.b) -
      m.top.b * (m.middle.a * m.bottom.c - m.middle.c * m.bottom.a) +
      m.top.c * (m.middle.a * m.bottom.b - m.middle.b * m.bottom.a) := by
  rw [det_fin_three]
  simp only [toMatrix, Row.vector, of_apply, cons_val]
  ring

/-! ### Rows -/

/-- The determinant of what stands on the left of three rows. -/
def leftDet (r s t : AugmentedRow α) : α :=
  (⟨r.left, s.left, t.left⟩ : Matrix3 α).toMatrix.det

theorem leftDet_identity (m : Matrix3 α) :
    leftDet ⟨m.top, identity.top⟩ ⟨m.middle, identity.middle⟩ ⟨m.bottom, identity.bottom⟩ =
      m.toMatrix.det :=
  rfl

variable {r s t r' s' t' : AugmentedRow α}

theorem leftDet_exchange_first : leftDet s r t = -leftDet r s t := by
  simp only [leftDet, det_toMatrix]
  ring

theorem leftDet_exchange_last : leftDet r t s = -leftDet r s t := by
  simp only [leftDet, det_toMatrix]
  ring

theorem leftDet_exchange_ends : leftDet t s r = -leftDet r s t := by
  simp only [leftDet, det_toMatrix]
  ring

theorem leftDet_reduce_first (j k : α) : leftDet r (s.reduce j r) (t.reduce k r) = leftDet r s t := by
  simp only [leftDet, det_toMatrix, AugmentedRow.reduce, Row.minus, Row.scale]
  ring

theorem leftDet_reduce_last (k : α) : leftDet r s (t.reduce k s) = leftDet r s t := by
  simp only [leftDet, det_toMatrix, AugmentedRow.reduce, Row.minus, Row.scale]
  ring

theorem leftDet_of_zero_column (first : r.left.a = 0) (second : s.left.a = 0) (third : t.left.a = 0) :
    leftDet r s t = 0 := by
  simp only [leftDet, det_toMatrix, first, second, third]
  ring

/-- In echelon form, the determinant is the product of the diagonal. -/
theorem leftDet_echelon (sa : s.left.a = 0) (ta : t.left.a = 0) (tb : t.left.b = 0) :
    leftDet r s t = r.left.a * s.left.b * t.left.c := by
  simp only [leftDet, det_toMatrix, sa, ta, tb]
  ring

/-! ### Pivots -/

/-- An exchange of rows changes no more than the sign. -/
theorem leftDet_pivotFirst (rows : pivotFirst r s t = (r', s', t')) :
    leftDet r' s' t' = 0 ↔ leftDet r s t = 0 := by
  simp only [pivotFirst] at rows
  split at rows
  · split at rows <;> cases rows
    · rw [leftDet_exchange_ends, neg_eq_zero]
    · rw [leftDet_exchange_first, neg_eq_zero]
  · split at rows <;> cases rows
    · rw [leftDet_exchange_ends, neg_eq_zero]
    · rfl

theorem leftDet_pivotSecond (pair : pivotSecond s t = (s', t')) :
    leftDet r s' t' = 0 ↔ leftDet r s t = 0 := by
  unfold pivotSecond at pair
  split at pair <;> cases pair
  · rw [leftDet_exchange_last, neg_eq_zero]
  · rfl

/-- The row in front has an entry of greatest magnitude in the first column. -/
theorem abs_le_of_pivotFirst (rows : pivotFirst r s t = (r', s', t')) :
    |s'.left.a| ≤ |r'.left.a| ∧ |t'.left.a| ≤ |r'.left.a| := by
  simp only [pivotFirst, ExactScalar.abs_eq] at rows
  by_cases middle : |r.left.a| < |s.left.a|
  · rw [if_pos middle, if_pos middle] at rows
    by_cases bottom : |s.left.a| < |t.left.a|
    · rw [if_pos bottom] at rows
      cases rows
      exact ⟨bottom.le, (middle.trans bottom).le⟩
    · rw [if_neg bottom] at rows
      cases rows
      exact ⟨middle.le, not_lt.mp bottom⟩
  · rw [if_neg middle, if_neg middle] at rows
    by_cases bottom : |r.left.a| < |t.left.a|
    · rw [if_pos bottom] at rows
      cases rows
      exact ⟨(not_lt.mp middle).trans bottom.le, bottom.le⟩
    · rw [if_neg bottom] at rows
      cases rows
      exact ⟨not_lt.mp middle, not_lt.mp bottom⟩

theorem abs_le_of_pivotSecond (pair : pivotSecond s t = (s', t')) : |t'.left.b| ≤ |s'.left.b| := by
  simp only [pivotSecond, ExactScalar.abs_eq] at pair
  split at pair <;> cases pair
  · exact le_of_lt ‹_›
  · exact not_lt.mp ‹_›

theorem eq_zero_of_abs_le {x pivot : α} (within : |x| ≤ |pivot|) (zero : pivot = 0) : x = 0 := by
  rw [zero, abs_zero] at within
  exact abs_nonpos_iff.mp within

/-! ### Elimination -/

variable {m : Matrix3 α}

/-- Elimination stops only where the determinant is zero. -/
theorem det_eq_zero_of_stopped (stopped : m.inverse? = none) : m.toMatrix.det = 0 := by
  rcases rows : pivotFirst ⟨m.top, identity.top⟩ ⟨m.middle, identity.middle⟩
    ⟨m.bottom, identity.bottom⟩ with ⟨r, s, t⟩
  rcases pair : pivotSecond (s.reduce (s.left.a / r.left.a) r) (t.reduce (t.left.a / r.left.a) r)
    with ⟨s', t'⟩
  rw [inverse?_eq rows pair] at stopped
  rw [← leftDet_identity, ← leftDet_pivotFirst rows]
  by_cases ra : r.left.a = 0
  · obtain ⟨second, third⟩ := abs_le_of_pivotFirst rows
    exact leftDet_of_zero_column ra (eq_zero_of_abs_le second ra) (eq_zero_of_abs_le third ra)
  rw [if_neg ra] at stopped
  rw [← leftDet_reduce_first (s.left.a / r.left.a) (t.left.a / r.left.a), ← leftDet_pivotSecond pair]
  have reduced := pivotSecond_spec (P := fun u : AugmentedRow α => u.left.a = 0)
    (reduce_left_a (s := s) ra) (reduce_left_a (s := t) ra)
  rw [pair] at reduced
  obtain ⟨sa, ta⟩ := reduced
  by_cases sb : s'.left.b = 0
  · have tb := eq_zero_of_abs_le (abs_le_of_pivotSecond pair) sb
    rw [leftDet_echelon sa ta tb, sb, mul_zero, zero_mul]
  rw [if_neg sb] at stopped
  have tc : (t'.reduce (t'.left.b / s'.left.b) s').left.c = 0 := by
    by_contra nonzero
    rw [if_neg nonzero] at stopped
    contradiction
  rw [← leftDet_reduce_last (t'.left.b / s'.left.b),
    leftDet_echelon sa (reduce_left_a_of_zero sa ta _) (reduce_left_b sb), tc, mul_zero]

/-- Elimination finds an inverse for exactly the matrices whose determinant is not zero. -/
theorem exists_inverse?_iff : (∃ n, m.inverse? = some n) ↔ m.toMatrix.det ≠ 0 := by
  constructor
  · rintro ⟨n, inverted⟩ zero
    have product := congrArg det (mul_of_inverse? inverted)
    rw [det_mul, det_one, zero, mul_zero] at product
    exact zero_ne_one product
  · intro nonzero
    cases found : m.inverse? with
    | none => exact absurd (det_eq_zero_of_stopped found) nonzero
    | some n => exact ⟨n, rfl⟩

theorem inverse?_eq_none_iff : m.inverse? = none ↔ m.toMatrix.det = 0 := by
  rw [← not_iff_not, ← ne_eq, ← ne_eq, ← exists_inverse?_iff, Option.ne_none_iff_exists']

/-! ### Matrices up to a factor -/

theorem toMatrix_scale (k : α) (m : Matrix3 α) : (m.scale k).toMatrix = k • m.toMatrix := by
  ext i j
  fin_cases i <;> simp [toMatrix, scale, Row.vector_scale]

omit [ExactScalar α] in
theorem toMatrix_injective {m n : Matrix3 α} (same : m.toMatrix = n.toMatrix) : m = n := by
  have rows : ∀ {r s : Row α}, r.vector = s.vector → r = s := by
    rintro ⟨a, b, c⟩ ⟨a', b', c'⟩ vectors
    rw [Row.mk.injEq]
    exact ⟨congrFun vectors 0, congrFun vectors 1, congrFun vectors 2⟩
  cases m
  cases n
  rw [Matrix3.mk.injEq]
  exact ⟨rows (congrFun same 0), rows (congrFun same 1), rows (congrFun same 2)⟩

theorem halfShift_scale (k : α) (m : Matrix3 α) : (m.scale k).halfShift = m.halfShift.scale k := by
  simp only [halfShift, scale, Row.scale, Matrix3.mk.injEq, Row.mk.injEq, and_true, true_and]
  constructor <;> ring

/-- The inverse of a multiple is the reciprocal multiple of the inverse. -/
theorem inverse?_scale {k : α} (nonzero : k ≠ 0) {n : Matrix3 α} (found : m.inverse? = some n) :
    (m.scale k).inverse? = some (n.scale k⁻¹) := by
  have regular : (m.scale k).toMatrix.det ≠ 0 := by
    rw [toMatrix_scale, det_smul]
    exact mul_ne_zero (pow_ne_zero _ nonzero) (exists_inverse?_iff.mp ⟨n, found⟩)
  obtain ⟨n', found'⟩ := exists_inverse?_iff.mpr regular
  have product := mul_of_inverse? found'
  rw [toMatrix_scale, Matrix.mul_smul, ← Matrix.smul_mul] at product
  have same : k • n'.toMatrix = n.toMatrix := left_inv_eq_right_inv product (mul_inverse? found)
  rw [found', Option.some.injEq]
  refine toMatrix_injective ?_
  rw [toMatrix_scale, ← same, inv_smul_smul₀ nonzero]

end GeoRaster.Matrix3
