import Mathlib.LinearAlgebra.Matrix.NonsingularInverse
import GeoRaster.Scalar.Exact
import GeoRaster.Matrix

/-! Matrices as linear maps of homogeneous coordinates. Elimination keeps every row on the left equal
to the combination of the matrix's rows that stands beside it on the right; so what back
substitution leaves on the right is the inverse, from both sides. Read in the plane, the matrix
and its inverse take points back and forth wherever the denominator is not zero. -/
namespace GeoRaster

variable {α : Type} [ExactScalar α]

/-- The coordinates of a point on the plane at height one. -/
def Point.homogeneous (p : Point α) : Fin 3 → α :=
  ![p.x, p.y, 1]

namespace Row

def vector (r : Row α) : Fin 3 → α :=
  ![r.a, r.b, r.c]

/-- The linear form with the entries of the row as coefficients, at a point of the plane. -/
def value (r : Row α) (p : Point α) : α :=
  p.x * r.a + p.y * r.b + r.c

theorem vector_minus (r s : Row α) : (r.minus s).vector = r.vector - s.vector := by
  simp [minus, vector]

theorem vector_scale (k : α) (r : Row α) : (r.scale k).vector = k • r.vector := by
  simp [scale, vector]

theorem vector_divideBy (r : Row α) (k : α) : (r.divideBy k).vector = k⁻¹ • r.vector := by
  simp [divideBy, vector, div_eq_inv_mul]

theorem value_minus (r s : Row α) (p : Point α) : (r.minus s).value p = r.value p - s.value p := by
  simp only [minus, value]
  ring

theorem value_scale (k : α) (r : Row α) (p : Point α) : (r.scale k).value p = k * r.value p := by
  simp only [scale, value]
  ring

end Row

namespace Matrix3

open Matrix

def toMatrix (m : Matrix3 α) : Matrix (Fin 3) (Fin 3) α :=
  .of ![m.top.vector, m.middle.vector, m.bottom.vector]

/-- A combination of the rows of a matrix. -/
theorem vecMul_toMatrix (v : Fin 3 → α) (m : Matrix3 α) :
    v ᵥ* m.toMatrix = v 0 • m.top.vector + v 1 • m.middle.vector + v 2 • m.bottom.vector := by
  rw [vecMul_eq_sum, Fin.sum_univ_three]
  rfl

/-! ### Elimination -/

/-- The left row is the combination of a matrix's rows with the coefficients on the right. -/
def Combines (m : Matrix3 α) (r : AugmentedRow α) : Prop :=
  r.right.vector ᵥ* m.toMatrix = r.left.vector

variable {m : Matrix3 α} {r s t : AugmentedRow α}

theorem Combines.reduce (first : m.Combines r) (second : m.Combines s) (factor : α) :
    m.Combines (r.reduce factor s) := by
  unfold Combines AugmentedRow.reduce
  simp only [Row.vector_minus, Row.vector_scale, sub_vecMul, smul_vecMul]
  rw [first, second]

/-- Beside the identity, the rows of a matrix are combinations of themselves. -/
theorem combines_identity (m : Matrix3 α) :
    m.Combines ⟨m.top, identity.top⟩ ∧ m.Combines ⟨m.middle, identity.middle⟩ ∧
      m.Combines ⟨m.bottom, identity.bottom⟩ := by
  refine ⟨?_, ?_, ?_⟩ <;>
    simp [Combines, vecMul_toMatrix, identity, Row.vector, ExactScalar.ofInt_eq]

/-- The rows stay the same, whatever their order. -/
theorem pivotFirst_spec {P : AugmentedRow α → Prop} (first : P r) (second : P s) (third : P t) :
    P (pivotFirst r s t).1 ∧ P (pivotFirst r s t).2.1 ∧ P (pivotFirst r s t).2.2 := by
  simp only [pivotFirst]
  split
  · split
    · exact ⟨third, second, first⟩
    · exact ⟨second, first, third⟩
  · split
    · exact ⟨third, second, first⟩
    · exact ⟨first, second, third⟩

theorem pivotSecond_spec {P : AugmentedRow α → Prop} (second : P s) (third : P t) :
    P (pivotSecond s t).1 ∧ P (pivotSecond s t).2 := by
  unfold pivotSecond
  split
  · exact ⟨third, second⟩
  · exact ⟨second, third⟩

/-- The entry that a row is reduced at becomes zero. -/
theorem reduce_left_a (nonzero : r.left.a ≠ 0) :
    (s.reduce (s.left.a / r.left.a) r).left.a = 0 := by
  simp [AugmentedRow.reduce, Row.minus, Row.scale, nonzero]

theorem reduce_left_b (nonzero : s.left.b ≠ 0) :
    (t.reduce (t.left.b / s.left.b) s).left.b = 0 := by
  simp [AugmentedRow.reduce, Row.minus, Row.scale, nonzero]

/-- Zeros below a pivot stay. -/
theorem reduce_left_a_of_zero (second : s.left.a = 0) (third : t.left.a = 0) (factor : α) :
    (t.reduce factor s).left.a = 0 := by
  simp [AugmentedRow.reduce, Row.minus, Row.scale, second, third]

/-- The rows of an inverse combine the rows of a matrix to those of the identity. -/
theorem toMatrix_mul_eq_one {n : Matrix3 α} (first : n.top.vector ᵥ* m.toMatrix = ![1, 0, 0])
    (second : n.middle.vector ᵥ* m.toMatrix = ![0, 1, 0])
    (third : n.bottom.vector ᵥ* m.toMatrix = ![0, 0, 1]) : n.toMatrix * m.toMatrix = 1 := by
  rw [one_fin_three]
  ext i j
  rw [mul_apply_eq_vecMul]
  fin_cases i
  · exact congrFun first j
  · exact congrFun second j
  · exact congrFun third j

/-- A system in echelon form, without a zero on its diagonal, is solved by the inverse. -/
theorem backSubstitute_mul (first : m.Combines r) (second : m.Combines s) (third : m.Combines t)
    (echelon : s.left.a = 0 ∧ t.left.a = 0 ∧ t.left.b = 0)
    (pivots : r.left.a ≠ 0 ∧ s.left.b ≠ 0 ∧ t.left.c ≠ 0) :
    (backSubstitute r s t).toMatrix * m.toMatrix = 1 := by
  obtain ⟨sa, ta, tb⟩ := echelon
  obtain ⟨ra, sb, tc⟩ := pivots
  have z : (backSubstitute r s t).bottom.vector ᵥ* m.toMatrix = ![0, 0, 1] := by
    simp only [backSubstitute, Row.vector_divideBy, smul_vecMul]
    rw [third]
    simp [Row.vector, ta, tb, tc]
  have y : (backSubstitute r s t).middle.vector ᵥ* m.toMatrix = ![0, 1, 0] := by
    have solved : (backSubstitute r s t).middle =
        (s.right.minus ((backSubstitute r s t).bottom.scale s.left.c)).divideBy s.left.b := rfl
    rw [solved, Row.vector_divideBy, Row.vector_minus, Row.vector_scale, smul_vecMul, sub_vecMul,
      smul_vecMul, z, second]
    ext i
    fin_cases i <;> simp [Row.vector, sa, sb]
  have x : (backSubstitute r s t).top.vector ᵥ* m.toMatrix = ![1, 0, 0] := by
    have solved : (backSubstitute r s t).top =
        ((r.right.minus ((backSubstitute r s t).middle.scale r.left.b)).minus
          ((backSubstitute r s t).bottom.scale r.left.c)).divideBy r.left.a := rfl
    rw [solved, Row.vector_divideBy, Row.vector_minus, Row.vector_minus, Row.vector_scale,
      Row.vector_scale, smul_vecMul, sub_vecMul, sub_vecMul, smul_vecMul, smul_vecMul, z, y, first]
    ext i
    fin_cases i <;> simp [Row.vector, ra]
  exact toMatrix_mul_eq_one x y z

/-- Elimination, with names for the rows it has exchanged. -/
theorem inverse?_eq {s' t' : AugmentedRow α}
    (rows : pivotFirst ⟨m.top, identity.top⟩ ⟨m.middle, identity.middle⟩
      ⟨m.bottom, identity.bottom⟩ = (r, s, t))
    (pair : pivotSecond (s.reduce (s.left.a / r.left.a) r) (t.reduce (t.left.a / r.left.a) r) =
      (s', t')) :
    m.inverse? =
      if r.left.a = 0 then none
      else if s'.left.b = 0 then none
      else if (t'.reduce (t'.left.b / s'.left.b) s').left.c = 0 then none
      else some (backSubstitute r s' (t'.reduce (t'.left.b / s'.left.b) s')) := by
  simp only [inverse?, rows, pair, ExactScalar.beq_iff, ExactScalar.ofInt_zero]

/-- Where elimination succeeds, it has brought combinations of the matrix's rows into echelon form and
solved them. -/
theorem exists_echelon {n : Matrix3 α} (inverted : m.inverse? = some n) :
    ∃ r s t : AugmentedRow α, (m.Combines r ∧ m.Combines s ∧ m.Combines t) ∧
      (s.left.a = 0 ∧ t.left.a = 0 ∧ t.left.b = 0) ∧
      (r.left.a ≠ 0 ∧ s.left.b ≠ 0 ∧ t.left.c ≠ 0) ∧ n = backSubstitute r s t := by
  obtain ⟨top, middle, bottom⟩ := m.combines_identity
  obtain ⟨first, second, third⟩ := pivotFirst_spec (P := m.Combines) top middle bottom
  rcases rows : pivotFirst ⟨m.top, identity.top⟩ ⟨m.middle, identity.middle⟩
    ⟨m.bottom, identity.bottom⟩ with ⟨r, s, t⟩
  rcases pair : pivotSecond (s.reduce (s.left.a / r.left.a) r) (t.reduce (t.left.a / r.left.a) r)
    with ⟨s', t'⟩
  rw [rows] at first second third
  rw [inverse?_eq rows pair] at inverted
  split at inverted
  · contradiction
  rename_i ra
  have reduced : ∀ u, m.Combines u → m.Combines (u.reduce (u.left.a / r.left.a) r) ∧
      (u.reduce (u.left.a / r.left.a) r).left.a = 0 :=
    fun u combines => ⟨combines.reduce first _, reduce_left_a ra⟩
  have below := pivotSecond_spec (P := fun u => m.Combines u ∧ u.left.a = 0)
    (reduced s second) (reduced t third)
  rw [pair] at below
  obtain ⟨⟨second, sa⟩, ⟨third, ta⟩⟩ := below
  split at inverted
  · contradiction
  rename_i sb
  split at inverted
  · contradiction
  rename_i tc
  obtain rfl := Option.some.inj inverted
  exact ⟨r, s', _, ⟨first, second, third.reduce second _⟩,
    ⟨sa, reduce_left_a_of_zero sa ta _, reduce_left_b sb⟩, ⟨ra, sb, tc⟩, rfl⟩

/-- Elimination leads to the inverse, if it leads anywhere. -/
theorem mul_of_inverse? {n : Matrix3 α} (inverted : m.inverse? = some n) :
    n.toMatrix * m.toMatrix = 1 := by
  obtain ⟨r, s, t, ⟨first, second, third⟩, echelon, pivots, rfl⟩ := exists_echelon inverted
  exact backSubstitute_mul first second third echelon pivots

theorem mul_inverse? {n : Matrix3 α} (inverted : m.inverse? = some n) :
    m.toMatrix * n.toMatrix = 1 :=
  mul_eq_one_comm.mp (mul_of_inverse? inverted)

/-! ### Points -/

theorem mulVec_homogeneous (m : Matrix3 α) (p : Point α) :
    m.toMatrix *ᵥ p.homogeneous = ![m.top.value p, m.middle.value p, m.denominator p] := by
  ext i
  fin_cases i <;>
    simp [mulVec, dotProduct, Fin.sum_univ_three, toMatrix, Row.vector, Row.value, denominator,
      Point.homogeneous, mul_comm]

/-- A point with a denominator other than zero is mapped to the point that its homogeneous
coordinates are mapped to. -/
theorem denominator_smul_homogeneous {p : Point α} (nonzero : m.denominator p ≠ 0) :
    m.denominator p • (m.apply p).homogeneous = m.toMatrix *ᵥ p.homogeneous := by
  rw [mulVec_homogeneous]
  have top : m.denominator p * (m.apply p).x = m.top.value p := mul_div_cancel₀ _ nonzero
  have middle : m.denominator p * (m.apply p).y = m.middle.value p := mul_div_cancel₀ _ nonzero
  simp [Point.homogeneous, top, middle]

/-- A point whose homogeneous coordinates are mapped to a multiple of those of another point is
mapped to that point. -/
theorem apply_of_mulVec {p q : Point α} {k : α} (nonzero : k ≠ 0)
    (mapped : m.toMatrix *ᵥ p.homogeneous = k • q.homogeneous) :
    m.denominator p = k ∧ m.apply p = q := by
  rw [mulVec_homogeneous] at mapped
  have top : m.top.value p = k * q.x := congrFun mapped 0
  have middle : m.middle.value p = k * q.y := congrFun mapped 1
  have bottom : m.denominator p = k := (congrFun mapped 2).trans (mul_one k)
  have image : m.apply p = ⟨m.top.value p / m.denominator p, m.middle.value p / m.denominator p⟩ :=
    rfl
  refine ⟨bottom, ?_⟩
  rw [image, top, middle, bottom, mul_div_cancel_left₀ _ nonzero, mul_div_cancel_left₀ _ nonzero]

/-- An inverse takes points back, with the reciprocal for a denominator. -/
theorem apply_apply_of_mul {n : Matrix3 α} (inverse : n.toMatrix * m.toMatrix = 1) {p : Point α}
    (nonzero : m.denominator p ≠ 0) :
    n.denominator (m.apply p) = (m.denominator p)⁻¹ ∧ n.apply (m.apply p) = p := by
  refine apply_of_mulVec (inv_ne_zero nonzero) ?_
  have back : m.denominator p • (n.toMatrix *ᵥ (m.apply p).homogeneous) = p.homogeneous := by
    rw [← mulVec_smul, denominator_smul_homogeneous nonzero, mulVec_mulVec, inverse, one_mulVec]
  rw [← back, inv_smul_smul₀ nonzero]

/-! ### Matrices up to a factor -/

def scale (k : α) (m : Matrix3 α) : Matrix3 α :=
  ⟨m.top.scale k, m.middle.scale k, m.bottom.scale k⟩

theorem denominator_scale (k : α) (m : Matrix3 α) (p : Point α) :
    (m.scale k).denominator p = k * m.denominator p :=
  Row.value_scale k m.bottom p

/-- A common factor of all entries makes no difference to points. -/
theorem apply_scale {k : α} (nonzero : k ≠ 0) (m : Matrix3 α) (p : Point α) :
    (m.scale k).apply p = m.apply p := by
  have top : (m.top.scale k).value p / (k * m.denominator p) = m.top.value p / m.denominator p := by
    rw [Row.value_scale, mul_div_mul_left _ _ nonzero]
  have middle :
      (m.middle.scale k).value p / (k * m.denominator p) = m.middle.value p / m.denominator p := by
    rw [Row.value_scale, mul_div_mul_left _ _ nonzero]
  rw [← denominator_scale] at top middle
  exact congrArg₂ Point.mk top middle

/-! ### Matrices without a projective part -/

theorem denominator_of_bottom {c : α} (bottom : m.bottom = ⟨0, 0, c⟩) (p : Point α) :
    m.denominator p = c := by
  simp [denominator, bottom]

/-- The inverse of a matrix without a projective part has none either. -/
theorem bottom_of_mul {n : Matrix3 α} (inverse : m.toMatrix * n.toMatrix = 1) {c : α}
    (bottom : m.bottom = ⟨0, 0, c⟩) : c ≠ 0 ∧ n.bottom = ⟨0, 0, c⁻¹⟩ := by
  have scaled : c • n.bottom.vector = ![0, 0, 1] := by
    have row : m.toMatrix 2 = ![0, 0, c] := congrArg Row.vector bottom
    have last : (m.toMatrix * n.toMatrix) 2 = ![0, 0, 1] := by
      rw [inverse, one_fin_three]
      rfl
    rw [mul_apply_eq_vecMul, row, vecMul_toMatrix] at last
    simpa using last
  have a : c * n.bottom.a = 0 := congrFun scaled 0
  have b : c * n.bottom.b = 0 := congrFun scaled 1
  have one : c * n.bottom.c = 1 := congrFun scaled 2
  have nonzero : c ≠ 0 := left_ne_zero_of_mul_eq_one one
  have entries : (⟨n.bottom.a, n.bottom.b, n.bottom.c⟩ : Row α) = ⟨0, 0, c⁻¹⟩ := by
    rw [Row.mk.injEq]
    exact ⟨(mul_eq_zero.mp a).resolve_left nonzero, (mul_eq_zero.mp b).resolve_left nonzero,
      eq_inv_of_mul_eq_one_right one⟩
  exact ⟨nonzero, entries⟩

end Matrix3

end GeoRaster
