import GeoRaster.Proofs.Mapping.ProjectiveCorners
import GeoRaster.GeoReference.BoxConversion
import GeoRaster.Projection.Parabolic

/-! Exact boxes between pixels and points. Corners tell everything here, for every transform that a
georeference takes, rotations and projective maps among them: what they span is the smallest box around
the images of all points, as long as no point of the box is sent to infinity. -/
namespace GeoRaster.GeoReference

open Box
open Mapping (transformCorners)

variable {α : Type} [ExactScalar α]

theorem isHull_pixelToPointBox {g : GeoReference α} {b : Box α} (keeps : g.affine.native.KeepsSign b)
    (ordered : b.Ordered) :
    (g.pixelToPointBox b).IsHull fun q => ∃ p, b.contains p = true ∧ g.pixelToPoint p = q :=
  keeps.isHull_transformCorners ordered

theorem exists_pointToPixelBox_isWholeHull {g : GeoReference α} {b : Box α}
    (keeps : g.affine.nativeInverse.KeepsSign b) (ordered : b.Ordered) :
    ∃ pixels, g.pointToPixelBox b = .ok pixels ∧
      pixels.IsWholeHull fun q => ∃ p, b.contains p = true ∧ g.pointToPixel p = q :=
  IsHull.exists_growToInt (keeps.isHull_transformCorners ordered)

/-- Boxes of pixels and of points are converted exactly. If the denominator of the matrix in use keeps its
sign in the corners of a box, every point of the box has an image, and the conversion gives the smallest
box around the images of all of them, from points to pixels the smallest one with whole bounds. Empty boxes
stay empty. -/
theorem boxes_exact (g : GeoReference α) {b : Box α} (ordered : b.Ordered) :
    (g.affine.native.KeepsSign b →
      (∀ p, b.contains p = true → g.affine.native.denominator p ≠ 0) ∧
      (g.pixelToPointBox b).IsHull fun q => ∃ p, b.contains p = true ∧ g.pixelToPoint p = q) ∧
    (g.affine.nativeInverse.KeepsSign b →
      (∀ p, b.contains p = true → g.affine.nativeInverse.denominator p ≠ 0) ∧
      ∃ pixels, g.pointToPixelBox b = .ok pixels ∧
        pixels.IsWholeHull fun q => ∃ p, b.contains p = true ∧ g.pointToPixel p = q) ∧
    (b.isEmpty = true → g.pixelToPointBox b = .empty ∧ g.pointToPixelBox b = .ok .empty) := by
  refine ⟨fun keeps => ?_, fun keeps => ?_, fun isEmpty => ?_⟩
  · exact ⟨fun _ inside => keeps.denominator_ne_zero inside, isHull_pixelToPointBox keeps ordered⟩
  · exact ⟨fun _ inside => keeps.denominator_ne_zero inside,
      exists_pointToPixelBox_isWholeHull keeps ordered⟩
  · cases b with
    | empty => exact ⟨rfl, rfl⟩
    | span => contradiction

/-- A projective transform that also mirrors: all over this box its denominator is negative, and so is that
of its inverse. -/
theorem boxes_exact_in_perspective :
    let b : Box ℚ := span 0 0 4 2
    ∃ g : GeoReference ℚ,
      (make (α := ℚ) Projection.Parabolic.provider
        { transform := some (.ofRows [[0, 1, 0], [1, 0, 0], [-1, 0, -1]]),
          interpretation := .known .point }).result = .ok g ∧
      ((g.pixelToPointBox b).IsHull fun q => ∃ p, b.contains p = true ∧ g.pixelToPoint p = q) ∧
      ∃ pixels, g.pointToPixelBox b = .ok pixels ∧
        pixels.IsWholeHull fun q => ∃ p, b.contains p = true ∧ g.pointToPixel p = q := by
  intro b
  have runs : ((make (α := ℚ) Projection.Parabolic.provider
      { transform := some (.ofRows [[0, 1, 0], [1, 0, 0], [-1, 0, -1]]),
        interpretation := .known .point }).result.toOption.any fun g =>
          decide (g.affine.native.KeepsSign b ∧ g.affine.nativeInverse.KeepsSign b)) = true := by
    decide +kernel
  obtain ⟨g, made, keeps⟩ := exists_of_toOption_any runs
  obtain ⟨there, back⟩ := of_decide_eq_true keeps
  have ordered : b.Ordered := ⟨by norm_num, by norm_num⟩
  obtain ⟨points, pixels, _⟩ := g.boxes_exact ordered
  exact ⟨g, made, (points there).2, (pixels back).2⟩

end GeoRaster.GeoReference
