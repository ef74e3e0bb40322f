import GeoRaster.Proofs.Affine
import GeoRaster.Proofs.Determinant
import GeoRaster.GeoReference.Basic
import GeoRaster.Projection.Parabolic

/-! Which matrices make a transform. Two matrices are inverted, the given one and the one that is moved
by half a pixel; the first of them without an inverse is named in the fault. The move leaves out
some entries, so it changes the determinant of a matrix that has a projective part, and may take it
to zero. -/
namespace GeoRaster

variable {α : Type} [ExactScalar α]

/-- What the move by half a pixel adds to the determinant. -/
theorem Matrix3.det_halfShift (m : Matrix3 α) : m.halfShift.toMatrix.det = m.toMatrix.det +
    (m.top.a * m.middle.a * m.bottom.b + m.middle.b * m.top.b * m.bottom.a -
      m.top.a * m.middle.b * (m.bottom.a + m.bottom.b)) / 2 := by
  simp only [det_toMatrix, halfShift, ExactScalar.ofInt_one, ExactScalar.ofInt_ofNat]
  ring

/-- Without a projective part, the determinant stays. -/
theorem Matrix3.det_halfShift_of_bottom {m : Matrix3 α} (a : m.bottom.a = 0) (b : m.bottom.b = 0) :
    m.halfShift.toMatrix.det = m.toMatrix.det := by
  rw [det_halfShift, a, b]
  ring

namespace AffineTransform

theorem invert_of_missing (kind : TransformKind) {m : Matrix3 α} (missing : m.inverse? = none) :
    invert kind m = .error (.notInvertible kind m.text) := by
  unfold invert
  revert missing
  generalize m.inverse? = result
  rintro rfl
  rfl

variable {m : Matrix3 α} (interpretation : PixelInterpretation)

theorem ofMatrix_of_singular (singular : m.toMatrix.det = 0) :
    ofMatrix m (.known interpretation) = .error (.notInvertible .given m.text) := by
  simp only [ofMatrix, m.isFinite_eq_true,
    invert_of_missing .given (Matrix3.inverse?_eq_none_iff.mpr singular)]
  rfl

theorem ofMatrix_of_singular_halfShift (regular : m.toMatrix.det ≠ 0)
    (singular : m.halfShift.toMatrix.det = 0) :
    ofMatrix m (.known interpretation) = .error (.notInvertible .shifted m.halfShift.text) := by
  obtain ⟨inverse, found⟩ := Matrix3.exists_inverse?_iff.mpr regular
  simp only [ofMatrix, m.isFinite_eq_true, invert_of_found .given found,
    invert_of_missing .shifted (Matrix3.inverse?_eq_none_iff.mpr singular)]
  rfl

theorem exists_ofMatrix (regular : m.toMatrix.det ≠ 0) (shifted : m.halfShift.toMatrix.det ≠ 0) :
    ∃ t, ofMatrix m (.known interpretation) = .ok t ∧ t.transform = m ∧
      t.interpretation = interpretation := by
  obtain ⟨inverse, found⟩ := Matrix3.exists_inverse?_iff.mpr regular
  obtain ⟨inverseShifted, foundShifted⟩ := Matrix3.exists_inverse?_iff.mpr shifted
  exact ⟨_, ofMatrix_of_found found foundShifted interpretation, rfl, rfl⟩

theorem exists_ofMatrix_iff : (∃ t, ofMatrix m (.known interpretation) = .ok t) ↔
    m.toMatrix.det ≠ 0 ∧ m.halfShift.toMatrix.det ≠ 0 := by
  constructor
  · rintro ⟨t, ok⟩
    obtain rfl := (ofMatrix_ok ok).1
    exact ⟨Matrix3.exists_inverse?_iff.mp ⟨_, t.inverse_eq⟩,
      Matrix3.exists_inverse?_iff.mp ⟨_, t.inverseShifted_eq⟩⟩
  · rintro ⟨regular, shifted⟩
    obtain ⟨t, ok, _, _⟩ := exists_ofMatrix interpretation regular shifted
    exact ⟨t, ok⟩

/-- A refusal names the first of the two matrices that has no inverse. -/
theorem fault_of_ofMatrix {fault : Fault}
    (refused : ofMatrix m (.known interpretation) = .error fault) :
    m.toMatrix.det = 0 ∧ fault = .notInvertible .given m.text ∨
      m.toMatrix.det ≠ 0 ∧ m.halfShift.toMatrix.det = 0 ∧
        fault = .notInvertible .shifted m.halfShift.text := by
  by_cases singular : m.toMatrix.det = 0
  · rw [ofMatrix_of_singular interpretation singular] at refused
    exact .inl ⟨singular, (Except.error.inj refused).symm⟩
  by_cases shifted : m.halfShift.toMatrix.det = 0
  · rw [ofMatrix_of_singular_halfShift interpretation singular shifted] at refused
    exact .inr ⟨singular, shifted, (Except.error.inj refused).symm⟩
  · obtain ⟨t, ok, _, _⟩ := exists_ofMatrix interpretation singular shifted
    rw [ok] at refused
    contradiction

end AffineTransform

namespace GeoReference

open AffineTransform

/-- A new matrix is refused as it is when a transform is made of it; else all is built anew. -/
theorem setTransform_array (g : GeoReference α) (m : Matrix3 α) :
    g.setTransform (some m.array) =
      Logged.ofExcept (ofMatrix m (.known g.affine.interpretation)) >>= fun affine =>
        g.rebuilt affine g.projection g.datum :=
  rfl

/-- A transform is made of exactly those matrices whose determinant is not zero, neither as they are nor
moved by half a pixel, under either interpretation; any other is a fault of configuration that
names the matrix without an inverse. The move takes off the determinant what it leaves out, which
is nothing without a projective part. A georeference whose transform is set refuses the same
matrices with the same faults, and goes on to build anew with all others. -/
theorem accepted_iff_regular (m : Matrix3 α) (interpretation : PixelInterpretation) :
    ((∃ t, AffineTransform.make (some m.array) (.known interpretation) = .ok t) ↔
      m.toMatrix.det ≠ 0 ∧ m.halfShift.toMatrix.det ≠ 0) ∧
    (∀ fault, AffineTransform.make (some m.array) (.known interpretation) = .error fault →
      fault.kind = .configuration ∧
        (m.toMatrix.det = 0 ∧ fault = .notInvertible .given m.text ∨
          m.toMatrix.det ≠ 0 ∧ m.halfShift.toMatrix.det = 0 ∧
            fault = .notInvertible .shifted m.halfShift.text)) ∧
    m.halfShift.toMatrix.det = m.toMatrix.det +
      (m.top.a * m.middle.a * m.bottom.b + m.middle.b * m.top.b * m.bottom.a -
        m.top.a * m.middle.b * (m.bottom.a + m.bottom.b)) / 2 ∧
    (m.bottom.a = 0 → m.bottom.b = 0 →
      ((∃ t, AffineTransform.make (some m.array) (.known interpretation) = .ok t) ↔
        m.toMatrix.det ≠ 0)) ∧
    ∀ g : GeoReference α, g.affine.interpretation = interpretation →
      (∀ fault, AffineTransform.make (some m.array) (.known interpretation) = .error fault →
        g.setTransform (some m.array) = Logged.ofExcept (.error fault)) ∧
      (m.toMatrix.det ≠ 0 → m.halfShift.toMatrix.det ≠ 0 →
        ∃ t, t.transform = m ∧ t.interpretation = interpretation ∧
          g.setTransform (some m.array) = g.rebuilt t g.projection g.datum) := by
  simp only [make_array]
  refine ⟨exists_ofMatrix_iff interpretation, ?_, m.det_halfShift, ?_, ?_⟩
  · intro fault refused
    have named := fault_of_ofMatrix interpretation refused
    refine ⟨?_, named⟩
    rcases named with ⟨_, rfl⟩ | ⟨_, _, rfl⟩ <;> rfl
  · intro a b
    rw [exists_ofMatrix_iff, Matrix3.det_halfShift_of_bottom a b, and_self]
  · rintro g rfl
    rw [setTransform_array]
    constructor
    · intro fault refused
      rw [refused]
      rfl
    · intro regular shifted
      obtain ⟨t, ok, matrix, same⟩ := exists_ofMatrix g.affine.interpretation regular shifted
      rw [ok]
      exact ⟨t, matrix, same, rfl⟩

/-- A matrix that can be inverted as it is, but not with half of its scales added to its last column. It is
refused under either interpretation, and when a georeference is to take it. -/
theorem perspective_is_refused :
    let perspective : Matrix3 ℚ := ⟨⟨1, 0, 0⟩, ⟨0, 1, 0⟩, ⟨2, 0, 1⟩⟩
    perspective.toMatrix.det = 1 ∧
      (∀ interpretation, AffineTransform.make (some perspective.array) (.known interpretation) =
        .error (.notInvertible .shifted perspective.halfShift.text)) ∧
      ∃ g : GeoReference ℚ, (make Projection.Parabolic.provider {}).result = .ok g ∧
        (g.setTransform (some perspective.array)).result =
          .error (.notInvertible .shifted perspective.halfShift.text) := by
  intro perspective
  have det : perspective.toMatrix.det = 1 := by
    rw [Matrix3.det_toMatrix]
    norm_num [perspective]
  have shifted : perspective.halfShift.toMatrix.det = 0 := by
    rw [Matrix3.det_halfShift, det]
    norm_num [perspective]
  have refused := fun interpretation =>
    ofMatrix_of_singular_halfShift interpretation (det ▸ one_ne_zero) shifted
  have made : ((make (α := ℚ) Projection.Parabolic.provider {}).result.toOption.any
      fun _ => true) = true := by
    decide +kernel
  obtain ⟨g, made, _⟩ := exists_of_toOption_any made
  refine ⟨det, refused, g, made, ?_⟩
  rw [setTransform_array, refused]
  rfl

end GeoReference

end GeoRaster
