import GeoRaster.GeoReference.BoxConversion

/-! Georeferences that convert alike. What a georeference makes of coordinates and boxes depends on
its transform, its window, whether it is projected, and the evaluator its provider has set up;
the strings of its projection have no other say in it. -/
namespace GeoRaster.GeoReference

variable {α : Type} [Scalar α]

/-- The same in everything that conversions look at. -/
structure Alike (g h : GeoReference α) : Prop where
  affine : g.affine = h.affine
  window : g.window = h.window
  projected : g.engine.isProjected = h.engine.isProjected
  evaluator : g.engine.session.evaluator = h.engine.session.evaluator

/-- The same in everything that conversions look at, where of the transform they look at what it does to
pixels and points. -/
structure ActsAlike (g h : GeoReference α) : Prop where
  pixelToPoint : g.pixelToPoint = h.pixelToPoint
  pointToPixel : g.pointToPixel = h.pointToPixel
  window : g.window = h.window
  projected : g.engine.isProjected = h.engine.isProjected
  evaluator : g.engine.session.evaluator = h.engine.session.evaluator

/-- Every conversion gives the same, be it a value, a failure with its wording, or a box with the
log of how many samples had no image. The reprojection error is a function of the offset. -/
structure ConvertsAlike (g h : GeoReference α) : Prop where
  pixelToPoint : g.pixelToPoint = h.pixelToPoint
  pointToPixel : g.pointToPixel = h.pointToPixel
  pointToLonLat : g.pointToLonLat = h.pointToLonLat
  pointToLonLatRaw : g.pointToLonLatRaw = h.pointToLonLatRaw
  lonLatToPoint : g.lonLatToPoint = h.lonLatToPoint
  pixelToLonLat : g.pixelToLonLat = h.pixelToLonLat
  lonLatToPixel : g.lonLatToPixel = h.lonLatToPixel
  tryPointToLonLat : g.tryPointToLonLat = h.tryPointToLonLat
  tryLonLatToPoint : g.tryLonLatToPoint = h.tryLonLatToPoint
  tryPixelToLonLat : g.tryPixelToLonLat = h.tryPixelToLonLat
  reprojectionOffset : g.reprojectionOffset = h.reprojectionOffset
  pointToLonLatOf : g.pointToLonLatOf = h.pointToLonLatOf
  tryPointToLonLatOf : g.tryPointToLonLatOf = h.tryPointToLonLatOf
  pixelToPointBox : g.pixelToPointBox = h.pixelToPointBox
  pointToPixelBox : g.pointToPixelBox = h.pointToPixelBox
  pixelToLonLatBox : g.pixelToLonLatBox = h.pixelToLonLatBox
  lonLatToPointBox : g.lonLatToPointBox = h.lonLatToPointBox
  pointToLonLatBox : g.pointToLonLatBox = h.pointToLonLatBox
  lonLatToPixelBox : g.lonLatToPixelBox = h.lonLatToPixelBox

namespace ActsAlike

variable {g h : GeoReference α} (same : ActsAlike g h)
include same

theorem isProjected : g.isProjected = h.isProjected :=
  same.projected

theorem wrapped : g.wrapped = h.wrapped := by
  unfold GeoReference.wrapped
  rw [same.window]

theorem forward : g.engine.forward = h.engine.forward := by
  unfold Projection.Engine.forward
  rw [same.projected, same.evaluator]

theorem tryForward : g.engine.tryForward = h.engine.tryForward := by
  unfold Projection.Engine.tryForward
  rw [same.projected, same.evaluator]

theorem inverse : g.engine.inverse = h.engine.inverse := by
  unfold Projection.Engine.inverse
  rw [same.projected, same.evaluator]

theorem tryInverse : g.engine.tryInverse = h.engine.tryInverse := by
  unfold Projection.Engine.tryInverse
  rw [same.projected, same.evaluator]

theorem inverseOf : g.engine.inverseOf = h.engine.inverseOf := by
  unfold Projection.Engine.inverseOf
  rw [same.projected, same.inverse]

theorem tryInverseOf : g.engine.tryInverseOf = h.engine.tryInverseOf := by
  unfold Projection.Engine.tryInverseOf
  rw [same.projected, same.tryInverse]

theorem pointToLonLat : g.pointToLonLat = h.pointToLonLat := by
  unfold GeoReference.pointToLonLat
  rw [same.inverse, same.wrapped]

theorem lonLatToPoint : g.lonLatToPoint = h.lonLatToPoint := by
  unfold GeoReference.lonLatToPoint
  rw [same.forward, same.wrapped]

theorem pixelToLonLat : g.pixelToLonLat = h.pixelToLonLat := by
  unfold GeoReference.pixelToLonLat
  rw [same.pointToLonLat, same.pixelToPoint]

theorem lonLatToPixel : g.lonLatToPixel = h.lonLatToPixel := by
  unfold GeoReference.lonLatToPixel
  rw [same.lonLatToPoint, same.pointToPixel]

theorem tryPointToLonLat : g.tryPointToLonLat = h.tryPointToLonLat := by
  unfold GeoReference.tryPointToLonLat
  rw [same.tryInverse, same.wrapped]

theorem pointToPixelBox : g.pointToPixelBox = h.pointToPixelBox := by
  unfold GeoReference.pointToPixelBox
  rw [same.pointToPixel]

theorem pixelToPointBox : g.pixelToPointBox = h.pixelToPointBox := by
  unfold GeoReference.pixelToPointBox
  rw [same.pixelToPoint]

theorem lonLatToPointBox : g.lonLatToPointBox = h.lonLatToPointBox := by
  unfold GeoReference.lonLatToPointBox
  rw [same.isProjected, same.tryForward, same.wrapped]

theorem convertsAlike : ConvertsAlike g h where
  pixelToPoint := same.pixelToPoint
  pointToPixel := same.pointToPixel
  pointToLonLat := same.pointToLonLat
  pointToLonLatRaw := same.inverse
  lonLatToPoint := same.lonLatToPoint
  pixelToLonLat := same.pixelToLonLat
  lonLatToPixel := same.lonLatToPixel
  tryPointToLonLat := same.tryPointToLonLat
  tryLonLatToPoint := by
    unfold tryLonLatToPoint
    rw [same.tryForward, same.wrapped]
  tryPixelToLonLat := by
    unfold tryPixelToLonLat
    rw [same.tryPointToLonLat, same.pixelToPoint]
  reprojectionOffset := by
    unfold reprojectionOffset
    rw [same.pixelToLonLat, same.lonLatToPixel]
  pointToLonLatOf := by
    unfold pointToLonLatOf
    rw [same.inverseOf, same.wrapped]
  tryPointToLonLatOf := by
    unfold tryPointToLonLatOf
    rw [same.tryInverseOf, same.wrapped]
  pixelToPointBox := same.pixelToPointBox
  pointToPixelBox := same.pointToPixelBox
  pixelToLonLatBox := by
    unfold pixelToLonLatBox
    rw [same.isProjected, same.tryInverse, same.pixelToPoint, same.wrapped, same.pixelToPointBox]
  lonLatToPointBox := same.lonLatToPointBox
  pointToLonLatBox := by
    unfold pointToLonLatBox
    rw [same.isProjected, same.tryInverse, same.wrapped]
  lonLatToPixelBox := by
    unfold lonLatToPixelBox
    rw [same.isProjected, same.pointToPixelBox, same.lonLatToPointBox]

end ActsAlike

theorem Alike.convertsAlike {g h : GeoReference α} (same : Alike g h) : ConvertsAlike g h := by
  have acts : ActsAlike g h := by
    refine ⟨?_, ?_, same.window, same.projected, same.evaluator⟩
    · unfold pixelToPoint
      rw [same.affine]
    · unfold pointToPixel
      rw [same.affine]
  exact acts.convertsAlike

end GeoRaster.GeoReference
