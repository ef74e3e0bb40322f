import GeoRaster.Logged
import GeoRaster.Proofs.Matrix
import GeoRaster.Affine

/-! Pixels and points, back and forth. Whichever interpretation of pixels is in force, the matrices that
apply are inverse to each other. A transform that was given another matrix or another
interpretation is the one made from the parts given last, so this holds however it came about. -/
namespace GeoRaster

theorem Matrix3.isFinite_eq_true {α : Type} [ExactScalar α] (m : Matrix3 α) : m.isFinite = true := by
  simp only [isFinite, List.all_eq_true]
  exact fun _ _ _ _ => rfl

/-- The entries of a matrix as an array. -/
def Matrix3.array {α : Type} [Scalar α] (m : Matrix3 α) : Nested α :=
  .ofRows m.toLists

namespace AffineTransform

/-! ### Making -/

section Making

variable {α : Type} [Scalar α]

theorem make_array (m : Matrix3 α) (interpretation : GivenInterpretation) :
    make (some m.array) interpretation = ofMatrix m interpretation :=
  rfl

theorem ofMatrix_ok {m : Matrix3 α} {interpretation : GivenInterpretation} {t : AffineTransform α}
    (ok : ofMatrix m interpretation = .ok t) :
    t.transform = m ∧ interpretation = .known t.interpretation := by
  unfold ofMatrix at ok
  cases finite : m.isFinite with
  | false =>
    rw [finite] at ok
    contradiction
  | true =>
    rw [finite] at ok
    cases interpretation with
    | other quoted => contradiction
    | known interpretation =>
      obtain ⟨inverse, _, ok⟩ := bind_eq_ok.mp ok
      obtain ⟨shifted, _, ok⟩ := bind_eq_ok.mp ok
      obtain rfl := Except.ok.inj ok
      exact ⟨rfl, rfl⟩

/-- The matrix that is asked for, the identity if none is given. -/
def givenMatrix : Option (Nested α) → Except Fault (Matrix3 α)
  | none => .ok Matrix3.identity
  | some array => matrixOf array

theorem make_eq (array : Option (Nested α)) (interpretation : GivenInterpretation) :
    make array interpretation = givenMatrix array >>= fun m => ofMatrix m interpretation := by
  cases array <;> rfl

variable {array : Option (Nested α)} {interpretation : GivenInterpretation} {t : AffineTransform α}

/-- A transform that was made keeps the interpretation it was made with. -/
theorem interpretation_of_make (ok : make array interpretation = .ok t) :
    interpretation = .known t.interpretation := by
  obtain ⟨m, _, ok⟩ := bind_eq_ok.mp (make_eq array interpretation ▸ ok)
  exact (ofMatrix_ok ok).2

theorem withTransform_of_make (ok : make array interpretation = .ok t) (other : Option (Nested α)) :
    t.withTransform other = make other interpretation := by
  rw [withTransform, interpretation_of_make ok]

/-- A transform with another interpretation is made from the matrix it was made with. -/
theorem withInterpretation_of_make (ok : make array interpretation = .ok t)
    (other : GivenInterpretation) : t.withInterpretation other = make array other := by
  obtain ⟨m, given, ok⟩ := bind_eq_ok.mp (make_eq array interpretation ▸ ok)
  rw [withInterpretation, (ofMatrix_ok ok).1, make_eq, given]
  rfl

/-- Transforms as they come about, with the array and the interpretation given last. -/
inductive Arises : Option (Nested α) → GivenInterpretation → AffineTransform α → Prop
  | made {array : Option (Nested α)} {interpretation : GivenInterpretation} {t : AffineTransform α} :
    make array interpretation = .ok t → Arises array interpretation t
  | transformed {array other : Option (Nested α)} {interpretation : GivenInterpretation}
      {t u : AffineTransform α} :
    Arises array interpretation t → t.withTransform other = .ok u → Arises other interpretation u
  | reinterpreted {array : Option (Nested α)} {interpretation other : GivenInterpretation}
      {t u : AffineTransform α} :
    Arises array interpretation t → t.withInterpretation other = .ok u → Arises array other u

/-- However a transform came about, it is made from what was given last. -/
theorem Arises.make_eq_ok (arises : Arises array interpretation t) :
    make array interpretation = .ok t := by
  induction arises with
  | made ok => exact ok
  | transformed _ changed ih => rwa [withTransform_of_make ih] at changed
  | reinterpreted _ changed ih => rwa [withInterpretation_of_make ih] at changed

end Making

/-! ### Round trips -/

variable {α : Type} [ExactScalar α] (t : AffineTransform α)

/-- Nothing but a missing inverse is refused. -/
theorem invert_of_found (kind : TransformKind) {m n : Matrix3 α} (found : m.inverse? = some n) :
    invert kind m = .ok ⟨n, found⟩ := by
  unfold invert
  revert found
  generalize m.inverse? = result
  rintro rfl
  exact if_pos n.isFinite_eq_true

theorem ofMatrix_of_found {m inverse inverseShifted : Matrix3 α} (found : m.inverse? = some inverse)
    (foundShifted : m.halfShift.inverse? = some inverseShifted) (interpretation : PixelInterpretation) :
    ofMatrix m (.known interpretation) =
      .ok ⟨m, inverse, inverseShifted, interpretation, found, foundShifted⟩ := by
  simp only [ofMatrix, m.isFinite_eq_true, invert_of_found .given found,
    invert_of_found .shifted foundShifted]
  rfl

theorem native_inverse? : t.native.inverse? = some t.nativeInverse := by
  unfold native nativeInverse shifted
  cases t.interpretation with
  | area => exact t.inverseShifted_eq
  | point => exact t.inverse_eq

/-- The move by half a pixel leaves the last row alone. -/
theorem native_bottom : t.native.bottom = t.transform.bottom := by
  unfold native shifted
  cases t.interpretation <;> rfl

/-- Without a projective part, every pixel has a point and every point a pixel. -/
theorem nonzero_denominators {c : α} (bottom : t.transform.bottom = ⟨0, 0, c⟩) :
    (∀ pixel, t.native.denominator pixel ≠ 0) ∧ ∀ point, t.nativeInverse.denominator point ≠ 0 := by
  have bottom : t.native.bottom = ⟨0, 0, c⟩ := t.native_bottom.trans bottom
  obtain ⟨nonzero, inverse⟩ :=
    Matrix3.bottom_of_mul (Matrix3.mul_inverse? t.native_inverse?) bottom
  refine ⟨fun pixel => ?_, fun point => ?_⟩
  · rwa [Matrix3.denominator_of_bottom bottom]
  · rw [Matrix3.denominator_of_bottom inverse]
    exact inv_ne_zero nonzero

theorem pointToPixel_pixelToPoint {pixel : Point α} (nonzero : t.native.denominator pixel ≠ 0) :
    t.pointToPixel (t.pixelToPoint pixel) = pixel :=
  (Matrix3.apply_apply_of_mul (Matrix3.mul_of_inverse? t.native_inverse?) nonzero).2

theorem pixelToPoint_pointToPixel {point : Point α}
    (nonzero : t.nativeInverse.denominator point ≠ 0) :
    t.pixelToPoint (t.pointToPixel point) = point :=
  (Matrix3.apply_apply_of_mul (Matrix3.mul_inverse? t.native_inverse?) nonzero).2

/-- The denominator on the way back is the reciprocal of that on the way there. -/
theorem denominator_pixelToPoint {pixel : Point α} (nonzero : t.native.denominator pixel ≠ 0) :
    t.nativeInverse.denominator (t.pixelToPoint pixel) = (t.native.denominator pixel)⁻¹ :=
  (Matrix3.apply_apply_of_mul (Matrix3.mul_of_inverse? t.native_inverse?) nonzero).1

theorem denominator_pointToPixel {point : Point α}
    (nonzero : t.nativeInverse.denominator point ≠ 0) :
    t.native.denominator (t.pointToPixel point) = (t.nativeInverse.denominator point)⁻¹ :=
  (Matrix3.apply_apply_of_mul (Matrix3.mul_inverse? t.native_inverse?) nonzero).1

/-- The matrices of a transform undo each other, and so do its conversions wherever the first of them
has a value; the second one then has a value too. -/
structure RoundTrips (t : AffineTransform α) : Prop where
  inverse_mul : t.inverse.toMatrix * t.transform.toMatrix = 1
  mul_inverse : t.transform.toMatrix * t.inverse.toMatrix = 1
  inverseShifted_mul : t.inverseShifted.toMatrix * t.shifted.toMatrix = 1
  mul_inverseShifted : t.shifted.toMatrix * t.inverseShifted.toMatrix = 1
  pixel : ∀ pixel, t.native.denominator pixel ≠ 0 →
    t.nativeInverse.denominator (t.pixelToPoint pixel) ≠ 0 ∧
      t.pointToPixel (t.pixelToPoint pixel) = pixel
  point : ∀ point, t.nativeInverse.denominator point ≠ 0 →
    t.native.denominator (t.pointToPixel point) ≠ 0 ∧
      t.pixelToPoint (t.pointToPixel point) = point

theorem roundTrips : RoundTrips t where
  inverse_mul := Matrix3.mul_of_inverse? t.inverse_eq
  mul_inverse := Matrix3.mul_inverse? t.inverse_eq
  inverseShifted_mul := Matrix3.mul_of_inverse? t.inverseShifted_eq
  mul_inverseShifted := Matrix3.mul_inverse? t.inverseShifted_eq
  pixel := by
    intro pixel nonzero
    refine ⟨?_, t.pointToPixel_pixelToPoint nonzero⟩
    rw [t.denominator_pixelToPoint nonzero]
    exact inv_ne_zero nonzero
  point := by
    intro point nonzero
    refine ⟨?_, t.pixelToPoint_pointToPixel nonzero⟩
    rw [t.denominator_pointToPixel nonzero]
    exact inv_ne_zero nonzero

/-- Pixels and points come back, whatever matrices and interpretations a transform was given on the way.
It is the transform made from the ones given last. -/
theorem Arises.affine_round_trip {array : Option (Nested α)} {interpretation : GivenInterpretation}
    {t : AffineTransform α} (arises : Arises array interpretation t) :
    make array interpretation = .ok t ∧ t.RoundTrips :=
  ⟨arises.make_eq_ok, t.roundTrips⟩

/-- A projective matrix whose rows are exchanged when it is inverted, given after the identity; the
interpretation changes twice. One pixel has no point. -/
theorem projective_pixels_come_back :
    ∃ first second third t : AffineTransform ℚ,
      make none (.known .area) = .ok first ∧
      first.withTransform (some (.ofRows [[0, 2, 5], [3, 2, -1], [1, 0, 4]])) = .ok second ∧
      second.withInterpretation (.known .point) = .ok third ∧
      third.withInterpretation (.known .area) = .ok t ∧
      t.inverseShifted.toMatrix * t.shifted.toMatrix = 1 ∧
      t.native.denominator ⟨-4, 1⟩ = 0 ∧
      t.pixelToPoint ⟨2, 4⟩ = ⟨13 / 6, 7 / 3⟩ ∧ t.pointToPixel ⟨13 / 6, 7 / 3⟩ = ⟨2, 4⟩ := by
  let check (t : AffineTransform ℚ) : Bool :=
    decide (t.native.denominator ⟨-4, 1⟩ = 0) && decide (t.native.denominator ⟨2, 4⟩ ≠ 0) &&
      decide (t.pixelToPoint ⟨2, 4⟩ = ⟨13 / 6, 7 / 3⟩)
  have runs : ((make (α := ℚ) none (.known .area)).toOption.any fun first =>
      (first.withTransform (some (.ofRows [[0, 2, 5], [3, 2, -1], [1, 0, 4]]))).toOption.any
        fun second => (second.withInterpretation (.known .point)).toOption.any
          fun third => (third.withInterpretation (.known .area)).toOption.any check) = true := by
    decide +kernel
  obtain ⟨first, made, runs⟩ := exists_of_toOption_any runs
  obtain ⟨second, transformed, runs⟩ := exists_of_toOption_any runs
  obtain ⟨third, asPoint, runs⟩ := exists_of_toOption_any runs
  obtain ⟨t, asArea, checked⟩ := exists_of_toOption_any runs
  simp only [check, Bool.and_eq_true, decide_eq_true_eq] at checked
  obtain ⟨⟨horizon, nonzero⟩, image⟩ := checked
  have arises : Arises _ _ t := (((Arises.made made).transformed transformed).reinterpreted
    asPoint).reinterpreted asArea
  obtain ⟨_, trips⟩ := arises.affine_round_trip
  have back := (trips.pixel ⟨2, 4⟩ nonzero).2
  rw [image] at back
  exact ⟨first, second, third, t, made, transformed, asPoint, asArea, trips.inverseShifted_mul,
    horizon, image, back⟩

end AffineTransform

end GeoRaster
