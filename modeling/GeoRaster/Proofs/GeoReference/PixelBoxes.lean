import GeoRaster.Proofs.Affine
import GeoRaster.Proofs.GeoReference.ExactCorners

/-! Pixel boxes there and back. Without a projective part, no box is cut by the horizon of a transform or of
its inverse, so each conversion gives the smallest box around all images. Points of a box come
back as themselves and nothing of the box is lost; a turned box comes back enlarged. Without
rotation, rows and columns are kept, and the corners of the box on the way are images of points of
the first box: nothing is gained either. -/
namespace GeoRaster

variable {α : Type} [ExactScalar α]

theorem Matrix3.keepsSign_of_bottom {m : Matrix3 α} {c : α} (bottom : m.bottom = ⟨0, 0, c⟩)
    (nonzero : c ≠ 0) (b : Box α) : m.KeepsSign b := by
  rcases nonzero.lt_or_gt with negative | positive
  · right
    intro q _
    rwa [denominator_of_bottom bottom]
  · left
    intro q _
    rwa [denominator_of_bottom bottom]

/-- A map of the plane that takes columns to columns and rows to rows. -/
def KeepsAxes (f : Point α → Point α) : Prop :=
  ∀ p q : Point α, f ⟨p.x, q.y⟩ = ⟨(f p).x, (f q).y⟩

namespace AffineTransform

variable {t : AffineTransform α} {c : α}

theorem keepsSign (bottom : t.transform.bottom = ⟨0, 0, c⟩) (b : Box α) :
    t.native.KeepsSign b ∧ t.nativeInverse.KeepsSign b := by
  have there : t.native.bottom = ⟨0, 0, c⟩ := t.native_bottom.trans bottom
  obtain ⟨nonzero, back⟩ := Matrix3.bottom_of_mul (Matrix3.mul_inverse? t.native_inverse?) there
  exact ⟨Matrix3.keepsSign_of_bottom there nonzero b,
    Matrix3.keepsSign_of_bottom back (inv_ne_zero nonzero) b⟩

/-- A transform without rotation keeps rows and columns, with or without the move by half a pixel. -/
theorem keepsAxes (bottom : t.transform.bottom = ⟨0, 0, c⟩) (top : t.transform.top.b = 0)
    (middle : t.transform.middle.a = 0) : KeepsAxes t.pixelToPoint := by
  have bottom : t.native.bottom = ⟨0, 0, c⟩ := t.native_bottom.trans bottom
  have top : t.native.top.b = 0 := by
    unfold native
    cases t.interpretation <;> exact top
  have middle : t.native.middle.a = 0 := by
    unfold native
    cases t.interpretation <;> exact middle
  intro p q
  simp only [pixelToPoint, Matrix3.apply, Matrix3.denominator_of_bottom bottom, top, middle, mul_zero,
    add_zero, zero_add]

end AffineTransform

namespace Mapping

open Box

theorem reached_transformCorners (b : Box α) (f : Point α → Point α) :
    (transformCorners b f).Reached fun q => ∃ p ∈ b.corners, f p = q := by
  cases b with
  | empty => trivial
  | span minX minY maxX maxY =>
    apply (ofPoints_spec ((span minX minY maxX maxY).corners.map f)).2.mono
    intro q member
    exact List.mem_map.mp member

/-- The corners of the box around a box's image are images of points of the box, if the map keeps rows and
columns. -/
theorem exists_of_mem_corners {f : Point α → Point α} (axes : KeepsAxes f) {b : Box α}
    (ordered : b.Ordered) (full : b.isEmpty = false) {q : Point α}
    (corner : q ∈ (transformCorners b f).corners) : ∃ p, b.contains p = true ∧ f p = q := by
  have reached := reached_transformCorners b f
  have image := (transformCorners_spec b f).2
  cases around : transformCorners b f with
  | empty =>
    rw [around, full] at image
    contradiction
  | span minX minY maxX maxY =>
    rw [around] at reached corner
    obtain ⟨⟨left, below⟩, right, above⟩ := reached
    obtain ⟨atX, atY⟩ := mem_corners_iff.mp corner
    obtain ⟨_, ⟨p, cornerP, rfl⟩, x⟩ : ∃ s, (∃ p ∈ b.corners, f p = s) ∧ s.x = q.x := by
      rcases atX with atX | atX <;> rw [atX]
      · exact left
      · exact right
    obtain ⟨_, ⟨r, cornerR, rfl⟩, y⟩ : ∃ s, (∃ p ∈ b.corners, f p = s) ∧ s.y = q.y := by
      rcases atY with atY | atY <;> rw [atY]
      · exact below
      · exact above
    -- one corner has the column, the other one the row
    refine ⟨⟨p.x, r.y⟩, ?_, ?_⟩
    · have insideP := contains_of_mem_corners ordered full cornerP
      have insideR := contains_of_mem_corners ordered full cornerR
      cases b with
      | empty => contradiction
      | span =>
        rw [contains_span_iff] at insideP insideR ⊢
        exact ⟨insideP.1, insideP.2.1, insideR.2.2⟩
    · rw [axes p r, x, y]

end Mapping

namespace GeoReference

open Box

variable {g : GeoReference α} {c : α} (bottom : g.affine.transform.bottom = ⟨0, 0, c⟩)
include bottom

theorem isHull_there {b : Box α} (ordered : b.Ordered) :
    (g.pixelToPointBox b).IsHull fun q => ∃ p, b.contains p = true ∧ g.pixelToPoint p = q :=
  isHull_pixelToPointBox (AffineTransform.keepsSign bottom b).1 ordered

theorem exists_isWholeHull_back {b : Box α} (ordered : b.Ordered) :
    ∃ pixels, g.pointToPixelBox b = .ok pixels ∧
      pixels.IsWholeHull fun q => ∃ p, b.contains p = true ∧ g.pointToPixel p = q :=
  exists_pointToPixelBox_isWholeHull (AffineTransform.keepsSign bottom b).2 ordered

theorem pointToPixel_pixelToPoint_of_bottom (pixel : Point α) :
    g.pointToPixel (g.pixelToPoint pixel) = pixel :=
  g.affine.pointToPixel_pixelToPoint ((g.affine.nonzero_denominators bottom).1 pixel)

/-- Without rotation, the points of the box on the way come from the first box. -/
theorem contains_pointToPixel (axes : KeepsAxes g.pixelToPoint) {b : Box α} (ordered : b.Ordered)
    {point : Point α} (inside : (g.pixelToPointBox b).contains point = true) :
    b.contains (g.pointToPixel point) = true := by
  cases b with
  | empty => contradiction
  | span =>
    apply (AffineTransform.keepsSign bottom _).2.contains_apply _ inside
    intro q corner
    obtain ⟨p, insideP, rfl⟩ := Mapping.exists_of_mem_corners axes ordered rfl corner
    have back := pointToPixel_pixelToPoint_of_bottom bottom p
    unfold pointToPixel AffineTransform.pointToPixel at back
    rwa [back]

theorem pixelToPointBox_mono {inner outer : Box α} (ordered : inner.Ordered)
    (outerOrdered : outer.Ordered) (within : inner.Within outer) :
    (g.pixelToPointBox inner).Within (g.pixelToPointBox outer) := by
  apply (isHull_there bottom ordered).within
  rintro q ⟨p, inside, image⟩
  exact (isHull_there bottom outerOrdered).contains q ⟨p, within.contains inside, image⟩

theorem pointToPixelBox_mono {inner outer : Box α} (ordered : inner.Ordered)
    (outerOrdered : outer.Ordered) (within : inner.Within outer) :
    ∃ small large, g.pointToPixelBox inner = .ok small ∧ g.pointToPixelBox outer = .ok large ∧
      small.Within large := by
  obtain ⟨small, smallOk, smallHull⟩ := exists_isWholeHull_back bottom ordered
  obtain ⟨large, largeOk, largeHull⟩ := exists_isWholeHull_back bottom outerOrdered
  refine ⟨small, large, smallOk, largeOk, smallHull.within largeHull.whole ?_⟩
  rintro q ⟨p, inside, image⟩
  exact largeHull.contains q ⟨p, within.contains inside, image⟩

/-- Pixel boxes come back from the boxes of their points, enlarged at most. If their bounds are whole and
there is no rotation, they come back as they were. Both conversions keep boxes in boxes. -/
theorem pixel_boxes_come_back :
    (∀ b : Box α, b.Ordered → ∃ back, g.pointToPixelBox (g.pixelToPointBox b) = .ok back ∧
      b.Within back ∧
      (b.HasWholeBounds → g.affine.transform.top.b = 0 → g.affine.transform.middle.a = 0 →
        back = b)) ∧
    ∀ inner outer : Box α, inner.Ordered → outer.Ordered → inner.Within outer →
      (g.pixelToPointBox inner).Within (g.pixelToPointBox outer) ∧
      ∃ small large, g.pointToPixelBox inner = .ok small ∧ g.pointToPixelBox outer = .ok large ∧
        small.Within large := by
  constructor
  · intro b ordered
    have there := isHull_there bottom ordered
    obtain ⟨back, converted, hull⟩ := exists_isWholeHull_back bottom there.ordered
    have kept : b.Within back := by
      apply ordered.within_iff.mpr
      intro p inside
      apply hull.contains
      exact ⟨_, there.contains _ ⟨p, inside, rfl⟩, pointToPixel_pixelToPoint_of_bottom bottom p⟩
    refine ⟨back, converted, kept, fun whole top middle => ?_⟩
    have axes : KeepsAxes g.pixelToPoint := AffineTransform.keepsAxes bottom top middle
    have gained : back.Within b := by
      apply hull.within whole
      rintro _ ⟨point, inside, rfl⟩
      exact contains_pointToPixel bottom axes ordered inside
    exact gained.antisymm kept
  · intro inner outer ordered outerOrdered within
    exact ⟨pixelToPointBox_mono bottom ordered outerOrdered within,
      pointToPixelBox_mono bottom ordered outerOrdered within⟩

omit bottom in
/-- A transform that mirrors rows and divides by a negative number: boxes come back from it as they were. -/
theorem pixel_boxes_come_back_mirrored :
    ∃ g : GeoReference ℚ,
      (make (α := ℚ) Projection.Parabolic.provider
        { transform := some (.ofRows [[3, 0, 5], [0, -2, 1], [0, 0, -4]]),
          interpretation := .known .area }).result = .ok g ∧
      g.affine.transform.bottom = ⟨0, 0, -4⟩ ∧
      g.pointToPixelBox (g.pixelToPointBox (span (-7) 0 4 1)) = .ok (span (-7) 0 4 1) ∧
      (g.pixelToPointBox (span 1 0 2 1)).Within (g.pixelToPointBox (span (-7) 0 4 1)) := by
  have runs : ((make (α := ℚ) Projection.Parabolic.provider
      { transform := some (.ofRows [[3, 0, 5], [0, -2, 1], [0, 0, -4]]),
        interpretation := .known .area }).result.toOption.any fun g =>
          decide (g.affine.transform.bottom = ⟨0, 0, -4⟩ ∧ g.affine.transform.top.b = 0 ∧
            g.affine.transform.middle.a = 0)) = true := by
    decide +kernel
  obtain ⟨g, made, checked⟩ := exists_of_toOption_any runs
  obtain ⟨bottom, top, middle⟩ := of_decide_eq_true checked
  obtain ⟨trips, nests⟩ := pixel_boxes_come_back bottom
  have ordered : (span (-7) 0 4 1 : Box ℚ).Ordered := ⟨by norm_num, by norm_num⟩
  have innerOrdered : (span 1 0 2 1 : Box ℚ).Ordered := ⟨by norm_num, by norm_num⟩
  have within : (span 1 0 2 1 : Box ℚ).Within (span (-7) 0 4 1) :=
    ⟨⟨by norm_num, by norm_num⟩, le_refl 0, le_refl 1⟩
  obtain ⟨back, converted, _, same⟩ := trips _ ordered
  have whole : (span (-7) 0 4 1 : Box ℚ).HasWholeBounds :=
    ⟨-7, 0, 4, 1, by norm_num, by norm_num, by norm_num, by norm_num⟩
  rw [same whole top middle] at converted
  exact ⟨g, made, bottom, converted, (nests _ _ innerOrdered ordered within).1⟩

end GeoReference

end GeoRaster
