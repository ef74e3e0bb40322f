import Mathlib.Algebra.Polynomial.Roots
import GeoRaster.Logged
import GeoRaster.Proofs.Affine

/-! Pixels as areas against pixels as points. A pixel that stands for its area should go where the point
half a pixel further along both axes goes. The move by half a pixel that a transform has in store
adds half of the two scales to the last column, but a step along both axes adds half of every entry
of the first two columns. So both come to the same for matrices without a rotation or a shear,
whose projective part does not tell the step, and for no others. -/
namespace GeoRaster

open Polynomial

variable {α : Type} [ExactScalar α]

/-- The point half a unit further along both axes. -/
def Point.halfOn (p : Point α) : Point α :=
  let half : α := Scalar.ofInt 1 / Scalar.ofInt 2
  ⟨p.x + half, p.y + half⟩

theorem Point.halfOn_eq (p : Point α) : p.halfOn = ⟨p.x + 1 / 2, p.y + 1 / 2⟩ := by
  simp only [halfOn, ExactScalar.ofInt_one, ExactScalar.ofInt_ofNat]

/-! ### Linear forms -/

namespace Row

/-- The values of a linear form along a parabola, as a polynomial. No form but zero vanishes there. -/
noncomputable def alongParabola (r : Row α) : α[X] :=
  C r.a * X + C r.b * X ^ 2 + C r.c

theorem eval_alongParabola (r : Row α) (t : α) : r.alongParabola.eval t = r.value ⟨t, t * t⟩ := by
  simp only [alongParabola, value, eval_add, eval_mul, eval_C, eval_X, eval_pow]
  ring

theorem alongParabola_ne_zero {r : Row α} (nonzero : r ≠ ⟨0, 0, 0⟩) : r.alongParabola ≠ 0 := by
  intro zero
  have first : r.alongParabola.coeff 1 = r.a := by simp [alongParabola, coeff_C]
  have second : r.alongParabola.coeff 2 = r.b := by simp [alongParabola]
  have constant : r.alongParabola.coeff 0 = r.c := by simp [alongParabola]
  rw [zero, coeff_zero] at first second constant
  refine nonzero ?_
  cases r
  rw [Row.mk.injEq]
  exact ⟨first.symm, second.symm, constant.symm⟩

/-- No finite number of lines covers the plane. -/
theorem exists_value_ne_zero {rows : List (Row α)} (nonzero : ∀ r ∈ rows, r ≠ ⟨0, 0, 0⟩) :
    ∃ p, ∀ r ∈ rows, r.value p ≠ 0 := by
  have product : (rows.map alongParabola).prod ≠ 0 := by
    refine List.prod_ne_zero ?_
    intro member
    obtain ⟨r, inside, zero⟩ := List.mem_map.mp member
    exact alongParabola_ne_zero (nonzero r inside) zero
  obtain ⟨t, value⟩ : ∃ t, (rows.map alongParabola).prod.eval t ≠ 0 := by
    by_contra vanishes
    push Not at vanishes
    exact product (Polynomial.funext fun t => (vanishes t).trans eval_zero.symm)
  refine ⟨⟨t, t * t⟩, fun r inside zero => value ?_⟩
  rw [eval_list_prod, List.map_map]
  refine List.prod_eq_zero (List.mem_map.mpr ⟨r, inside, ?_⟩)
  rw [Function.comp_apply, eval_alongParabola, zero]

/-- A form that vanishes off two lines is zero. -/
theorem eq_zero_of_vanishes_off {r s t : Row α} (first : s ≠ ⟨0, 0, 0⟩) (second : t ≠ ⟨0, 0, 0⟩)
    (vanishes : ∀ p, s.value p ≠ 0 → t.value p ≠ 0 → r.value p = 0) : r = ⟨0, 0, 0⟩ := by
  by_contra nonzero
  have each : ∀ u ∈ [r, s, t], u ≠ ⟨0, 0, 0⟩ := by simp [nonzero, first, second]
  obtain ⟨p, values⟩ := exists_value_ne_zero each
  simp only [List.mem_cons, List.not_mem_nil, or_false, forall_eq_or_imp, forall_eq] at values
  exact values.1 (vanishes p values.2.1 values.2.2)

/-- The form that takes at a point what the given one takes half a unit further along both axes. -/
def movedByHalf (r : Row α) : Row α :=
  ⟨r.a, r.b, r.value (Point.halfOn ⟨0, 0⟩)⟩

theorem movedByHalf_eq (r : Row α) : r.movedByHalf = ⟨r.a, r.b, r.c + (r.a + r.b) / 2⟩ := by
  simp only [movedByHalf, value, Point.halfOn_eq, Row.mk.injEq, true_and]
  ring

theorem value_movedByHalf (r : Row α) (p : Point α) : r.movedByHalf.value p = r.value p.halfOn := by
  simp only [movedByHalf_eq, value, Point.halfOn_eq]
  ring

theorem value_halfOn (r : Row α) (p : Point α) :
    r.value p.halfOn = r.value p + (r.a + r.b) / 2 := by
  simp only [value, Point.halfOn_eq]
  ring

theorem movedByHalf_ne_zero {r : Row α} (nonzero : r ≠ ⟨0, 0, 0⟩) : r.movedByHalf ≠ ⟨0, 0, 0⟩ := by
  obtain ⟨a, b, c⟩ := r
  intro zero
  simp only [movedByHalf_eq, Row.mk.injEq] at zero
  obtain ⟨rfl, rfl, constant⟩ := zero
  refine nonzero ?_
  simpa using constant

theorem vector_zero : (⟨0, 0, 0⟩ : Row α).vector = 0 := by
  ext i
  fin_cases i <;> rfl

/-- Where a form and its denominator move by half a step without a change of their quotient, the form
and the denominator are in proportion to what the step adds to them. -/
theorem smul_vector_eq_of_quotients {r s : Row α} {k : α} (nonzero : s ≠ ⟨0, 0, 0⟩)
    (same : ∀ p : Point α, s.value p ≠ 0 → s.value p.halfOn ≠ 0 →
      r.value p / s.value p = (r.value p + k) / s.value p.halfOn) :
    ((s.a + s.b) / 2) • r.vector = k • s.vector := by
  have zero : (r.scale ((s.a + s.b) / 2)).minus (s.scale k) = ⟨0, 0, 0⟩ := by
    refine eq_zero_of_vanishes_off nonzero (movedByHalf_ne_zero nonzero) fun p first second => ?_
    rw [value_movedByHalf] at second
    have crossed := (div_eq_div_iff first second).mp (same p first second)
    rw [value_halfOn] at crossed
    rw [value_minus, value_scale, value_scale]
    linarith
  have vectors := congrArg Row.vector zero
  rwa [vector_minus, vector_scale, vector_scale, vector_zero, sub_eq_zero] at vectors

end Row

/-! ### Matrices -/

namespace Matrix3

open Matrix

variable {m n : Matrix3 α}

/-- The matrix that takes a point where the given one takes the point half a unit further along both
axes. -/
def movedByHalf (m : Matrix3 α) : Matrix3 α :=
  ⟨m.top.movedByHalf, m.middle.movedByHalf, m.bottom.movedByHalf⟩

theorem denominator_movedByHalf (m : Matrix3 α) (p : Point α) :
    m.movedByHalf.denominator p = m.denominator p.halfOn :=
  m.bottom.value_movedByHalf p

theorem apply_eq (m : Matrix3 α) (p : Point α) :
    m.apply p = ⟨m.top.value p / m.denominator p, m.middle.value p / m.denominator p⟩ :=
  rfl

theorem apply_movedByHalf (m : Matrix3 α) (p : Point α) :
    m.movedByHalf.apply p = m.apply p.halfOn := by
  rw [apply_eq, apply_eq, denominator_movedByHalf]
  simp only [movedByHalf, Row.value_movedByHalf]

/-- What a step along both axes adds to the first row beyond half of its scale. -/
theorem value_top_halfOn (m : Matrix3 α) (p : Point α) :
    m.top.value p.halfOn = m.halfShift.top.value p + m.top.b / 2 := by
  simp only [Row.value, Point.halfOn_eq, halfShift, ExactScalar.ofInt_one, ExactScalar.ofInt_ofNat]
  ring

/-- What a step along both axes adds to the second row beyond half of its scale. -/
theorem value_middle_halfOn (m : Matrix3 α) (p : Point α) :
    m.middle.value p.halfOn = m.halfShift.middle.value p + m.middle.a / 2 := by
  simp only [Row.value, Point.halfOn_eq, halfShift, ExactScalar.ofInt_one, ExactScalar.ofInt_ofNat]
  ring

/-- The last row of an invertible matrix is no multiple of another one. -/
theorem independent_of_mul (inverse : m.toMatrix * n.toMatrix = 1) {j k : α} :
    (j • m.top.vector = k • m.bottom.vector → j = 0 ∧ k = 0) ∧
      (j • m.middle.vector = k • m.bottom.vector → j = 0 ∧ k = 0) := by
  have unit : ∀ i, m.toMatrix i ᵥ* n.toMatrix = (1 : Matrix (Fin 3) (Fin 3) α) i := by
    intro i
    rw [← mul_apply_eq_vecMul, inverse]
  have top : m.top.vector ᵥ* n.toMatrix = ![1, 0, 0] := (unit 0).trans (by rw [one_fin_three]; rfl)
  have middle : m.middle.vector ᵥ* n.toMatrix = ![0, 1, 0] :=
    (unit 1).trans (by rw [one_fin_three]; rfl)
  have bottom : m.bottom.vector ᵥ* n.toMatrix = ![0, 0, 1] :=
    (unit 2).trans (by rw [one_fin_three]; rfl)
  constructor
  · intro multiple
    have images := congrArg (· ᵥ* n.toMatrix) multiple
    simp only [smul_vecMul, top, bottom] at images
    exact ⟨by simpa using congrFun images 0, by simpa using (congrFun images 2).symm⟩
  · intro multiple
    have images := congrArg (· ᵥ* n.toMatrix) multiple
    simp only [smul_vecMul, middle, bottom] at images
    exact ⟨by simpa using congrFun images 1, by simpa using (congrFun images 2).symm⟩

theorem bottom_ne_zero_of_mul (inverse : m.toMatrix * n.toMatrix = 1) : m.bottom ≠ ⟨0, 0, 0⟩ := by
  intro zero
  have multiple : (0 : α) • m.top.vector = (1 : α) • m.bottom.vector := by
    rw [zero, Row.vector_zero, zero_smul, smul_zero]
  exact one_ne_zero ((independent_of_mul inverse).1 multiple).2

/-- Both moves are one for matrices whose entries off the scales cancel out. -/
theorem halfShift_eq_movedByHalf_iff : m.halfShift = m.movedByHalf ↔
    m.top.b = 0 ∧ m.middle.a = 0 ∧ m.bottom.a + m.bottom.b = 0 := by
  obtain ⟨⟨a, b, c⟩, ⟨d, e, f⟩, ⟨g, h, i⟩⟩ := m
  simp only [halfShift, movedByHalf, Row.movedByHalf_eq, ExactScalar.ofInt_one, ExactScalar.ofInt_ofNat,
    Matrix3.mk.injEq, Row.mk.injEq, true_and]
  constructor
  · rintro ⟨top, middle, bottom⟩
    exact ⟨by linarith, by linarith, by linarith⟩
  · rintro ⟨rfl, rfl, bottom⟩
    exact ⟨by ring, by ring, by linarith⟩

/-- The move that adds half of the scales goes where the step along both axes goes for no other
matrices. -/
theorem apply_halfShift_eq_iff (inverse : m.halfShift.toMatrix * n.toMatrix = 1) :
    (∀ p, m.halfShift.denominator p ≠ 0 → m.denominator p.halfOn ≠ 0 →
        m.halfShift.apply p = m.apply p.halfOn) ↔
      m.top.b = 0 ∧ m.middle.a = 0 ∧ m.bottom.a + m.bottom.b = 0 := by
  constructor
  · intro same
    have bottom := bottom_ne_zero_of_mul inverse
    have across : ((m.bottom.a + m.bottom.b) / 2) • m.halfShift.top.vector =
        (m.top.b / 2) • m.halfShift.bottom.vector := by
      refine Row.smul_vector_eq_of_quotients bottom fun p first second => ?_
      rw [← value_top_halfOn]
      exact (Point.mk.inj (same p first second)).1
    have up : ((m.bottom.a + m.bottom.b) / 2) • m.halfShift.middle.vector =
        (m.middle.a / 2) • m.halfShift.bottom.vector := by
      refine Row.smul_vector_eq_of_quotients bottom fun p first second => ?_
      rw [← value_middle_halfOn]
      exact (Point.mk.inj (same p first second)).2
    obtain ⟨projective, topZero⟩ := (independent_of_mul inverse).1 across
    obtain ⟨_, middleZero⟩ := (independent_of_mul inverse).2 up
    exact ⟨by linarith, by linarith, by linarith⟩
  · intro cancel p _ _
    rw [halfShift_eq_movedByHalf_iff.mpr cancel, apply_movedByHalf]

/-- Without a projective part, the two are apart by half of the entries that the move leaves out. -/
theorem apply_halfOn_of_bottom {c : α} (bottom : m.bottom = ⟨0, 0, c⟩) (p : Point α) :
    m.apply p.halfOn =
      ⟨(m.halfShift.apply p).x + m.top.b / (2 * c), (m.halfShift.apply p).y + m.middle.a / (2 * c)⟩ := by
  have shifted : m.halfShift.bottom = ⟨0, 0, c⟩ := bottom
  rw [apply_eq, apply_eq, denominator_of_bottom bottom, denominator_of_bottom shifted,
    value_top_halfOn, value_middle_halfOn, add_div, add_div, div_div, div_div]

end Matrix3

/-! ### Transforms -/

namespace AffineTransform

/-- A transform is accepted under either interpretation. -/
theorem exists_withInterpretation (t : AffineTransform α) (interpretation : PixelInterpretation) :
    ∃ u, t.withInterpretation (.known interpretation) = .ok u ∧ u.transform = t.transform ∧
      u.interpretation = interpretation :=
  ⟨_, ofMatrix_of_found t.inverse_eq t.inverseShifted_eq interpretation, rfl, rfl⟩

/-- Pixels as areas against pixels as points. Every pixel with an image goes, as an area, where the
point half a pixel further goes exactly for matrices without a rotation or a shear, the
projective entries of which cancel out. For other matrices without a projective part, points are
off by half of the entries beside the scales. -/
theorem half_pixel_convention_iff (t : AffineTransform α) :
    ∃ area point : AffineTransform α,
      t.withInterpretation (.known .area) = .ok area ∧
      t.withInterpretation (.known .point) = .ok point ∧
      ((∀ pixel, area.native.denominator pixel ≠ 0 → point.native.denominator pixel.halfOn ≠ 0 →
          area.pixelToPoint pixel = point.pixelToPoint pixel.halfOn) ↔
        t.transform.top.b = 0 ∧ t.transform.middle.a = 0 ∧
          t.transform.bottom.a + t.transform.bottom.b = 0) ∧
      ∀ c, t.transform.bottom = ⟨0, 0, c⟩ → ∀ pixel, point.pixelToPoint pixel.halfOn =
        ⟨(area.pixelToPoint pixel).x + t.transform.top.b / (2 * c),
          (area.pixelToPoint pixel).y + t.transform.middle.a / (2 * c)⟩ := by
  obtain ⟨area, asArea, areaMatrix, isArea⟩ := t.exists_withInterpretation .area
  obtain ⟨point, asPoint, pointMatrix, isPoint⟩ := t.exists_withInterpretation .point
  have areaNative : area.native = t.transform.halfShift := by
    simp only [native, shifted, isArea, areaMatrix]
  have pointNative : point.native = t.transform := by
    simp only [native, isPoint, pointMatrix]
  refine ⟨area, point, asArea, asPoint, ?_, fun c bottom pixel => ?_⟩
  · simp only [pixelToPoint, areaNative, pointNative]
    exact Matrix3.apply_halfShift_eq_iff (Matrix3.mul_inverse? t.inverseShifted_eq)
  · simp only [pixelToPoint, areaNative, pointNative]
    exact Matrix3.apply_halfOn_of_bottom bottom pixel

/-- A shear by one pixel a row. As an area, the first pixel misses the point half a pixel further by half
a pixel. -/
theorem sheared_pixel_misses :
    let shear : Matrix3 ℚ := ⟨⟨1, 1, 0⟩, ⟨0, 1, 0⟩, ⟨0, 0, 1⟩⟩
    ∃ area point : AffineTransform ℚ,
      ofMatrix shear (.known .area) = .ok area ∧ ofMatrix shear (.known .point) = .ok point ∧
      area.native.denominator ⟨0, 0⟩ ≠ 0 ∧ point.native.denominator (Point.halfOn ⟨0, 0⟩) ≠ 0 ∧
      area.pixelToPoint ⟨0, 0⟩ = ⟨1 / 2, 1 / 2⟩ ∧
      point.pixelToPoint (Point.halfOn ⟨0, 0⟩) = ⟨1, 1 / 2⟩ := by
  intro shear
  let check (t : AffineTransform ℚ) (pixel image : Point ℚ) : Bool :=
    decide (t.native.denominator pixel ≠ 0) && decide (t.pixelToPoint pixel = image)
  have asArea : ((ofMatrix shear (.known .area)).toOption.any
      fun t => check t ⟨0, 0⟩ ⟨1 / 2, 1 / 2⟩) = true := by
    decide +kernel
  have asPoint : ((ofMatrix shear (.known .point)).toOption.any
      fun t => check t (Point.halfOn ⟨0, 0⟩) ⟨1, 1 / 2⟩) = true := by
    decide +kernel
  obtain ⟨area, areaMade, areaChecked⟩ := exists_of_toOption_any asArea
  obtain ⟨point, pointMade, pointChecked⟩ := exists_of_toOption_any asPoint
  simp only [check, Bool.and_eq_true, decide_eq_true_eq] at areaChecked pointChecked
  exact ⟨area, point, areaMade, pointMade, areaChecked.1, pointChecked.1, areaChecked.2,
    pointChecked.2⟩

end AffineTransform

end GeoRaster
