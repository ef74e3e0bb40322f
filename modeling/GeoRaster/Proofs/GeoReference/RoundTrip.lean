import GeoRaster.Proofs.Affine
import GeoRaster.Proofs.Projection.Evaluation
import GeoRaster.GeoReference.Conversion
import GeoRaster.Projection.Parabolic

/-! Round trips in exact arithmetic. Between a pixel and its longitude and latitude, wrapping is all that
can go wrong: a pixel comes back where the longitude lies in the window. Longitudes come back wrapped
from any provider that returns them up to whole turns, and latitudes come back clamped. -/
namespace GeoRaster

open Projection (Engine Parabolic hasToken latitudeBound latitudeLimit overToken)
open Scalar (radians)

namespace GeoReference

section Exact

variable {α : Type} [ExactScalar α] {g : GeoReference α}

theorem wrapped_of_holds {lonLat : Point α} (holds : g.window.Holds lonLat.x) :
    g.wrapped lonLat = lonLat := by
  rw [wrapped, Longitude.wrap_of_holds holds]

theorem wrapped_eq_self_iff {lonLat : Point α} : g.wrapped lonLat = lonLat ↔ g.window.Holds lonLat.x := by
  rw [← Longitude.wrap_eq_self_iff, wrapped]
  constructor
  · exact congrArg Point.x
  · intro same
    rw [same]

theorem wrapped_wrapped (lonLat : Point α) : g.wrapped (g.wrapped lonLat) = g.wrapped lonLat := by
  simp only [wrapped, Longitude.wrap_wrap]

/-! ### Pixels -/

/-- A pixel comes back from its longitude and latitude, if no wrapping and no clamping comes between and
the provider takes back what it unprojects. -/
theorem lonLatToPixel_pixelToLonLat {pixel lonLat : Point α}
    (nonzero : g.affine.native.denominator pixel ≠ 0)
    (raw : g.pointToLonLatRaw (g.pixelToPoint pixel) = .ok lonLat) (holds : g.window.Holds lonLat.x)
    (takesBack : g.isProjected = true → |radians lonLat.y| ≤ latitudeBound ∧
      g.engine.session.evaluator.TakesBack (g.pixelToPoint pixel)) :
    g.pixelToLonLat pixel = .ok lonLat ∧ g.lonLatToPixel lonLat = .ok pixel := by
  have unprojects : g.engine.inverse (g.pixelToPoint pixel) = .ok lonLat := raw
  constructor
  · simp only [pixelToLonLat, pointToLonLat, unprojects, Except.map, wrapped_of_holds holds]
  · have back : g.pointToPixel (g.pixelToPoint pixel) = pixel :=
      g.affine.pointToPixel_pixelToPoint nonzero
    simp only [lonLatToPixel, lonLatToPoint, wrapped_of_holds holds,
      Engine.forward_of_inverse unprojects takesBack, Except.map, back]

/-- An unprojected pixel goes to its point and back with nothing but wrapping between. -/
theorem lonLatToPixel_of_unprojected (unprojected : g.isProjected = false) (pixel : Point α) :
    (g.pixelToLonLat pixel >>= g.lonLatToPixel) =
      .ok (g.pointToPixel (g.wrapped (g.pixelToPoint pixel))) := by
  have inverse := Engine.inverse_of_unprojected unprojected
  have forward := Engine.forward_of_unprojected unprojected
  simp only [pixelToLonLat, pointToLonLat, inverse, Except.map, bind, Except.bind, lonLatToPixel,
    lonLatToPoint, forward, wrapped_wrapped]

/-- Without projection and projective part, a pixel comes back exactly if no wrapping comes between. -/
theorem pointToPixel_wrapped_eq_iff {c : α} (bottom : g.affine.transform.bottom = ⟨0, 0, c⟩)
    (pixel : Point α) :
    g.pointToPixel (g.wrapped (g.pixelToPoint pixel)) = pixel ↔
      g.window.Holds (g.pixelToPoint pixel).x := by
  obtain ⟨pixels, points⟩ := g.affine.nonzero_denominators bottom
  rw [← wrapped_eq_self_iff]
  constructor
  · intro back
    have there : g.pixelToPoint (g.pointToPixel (g.wrapped (g.pixelToPoint pixel))) =
        g.wrapped (g.pixelToPoint pixel) := g.affine.pixelToPoint_pointToPixel (points _)
    rw [← there, back]
  · intro same
    rw [same]
    exact g.affine.pointToPixel_pixelToPoint (pixels pixel)

/-! ### Longitudes and latitudes -/

theorem pointToLonLat_of_unprojected (unprojected : g.isProjected = false) (lonLat : Point α) :
    (g.lonLatToPoint lonLat >>= g.pointToLonLat) = .ok (g.wrapped lonLat) := by
  refine bind_eq_ok.mpr ⟨g.wrapped lonLat, Engine.forward_of_unprojected unprojected _, ?_⟩
  rw [pointToLonLat, Engine.inverse_of_unprojected unprojected, Except.map, wrapped_wrapped]

/-- Turns that the provider puts between are taken off by the second wrapping. -/
theorem pointToLonLat_of_returns (projected : g.isProjected = true) {lonLat : Point α}
    (returns : g.engine.session.evaluator.ReturnsUpToTurns (Engine.angles (g.wrapped lonLat))) :
    (g.lonLatToPoint lonLat >>= g.pointToLonLat) =
      .ok ⟨Longitude.wrap g.window lonLat.x, max (-latitudeLimit) (min latitudeLimit lonLat.y)⟩ := by
  obtain ⟨point, forward, n, inverse⟩ := Engine.inverse_of_forward projected returns
  refine bind_eq_ok.mpr ⟨point, forward, ?_⟩
  rw [pointToLonLat, inverse, Except.map]
  simp only [wrapped, Longitude.wrap_add_turns, Longitude.wrap_wrap]

/-- Longitudes and latitudes there and back. Without a projection, the longitude is wrapped and nothing else
happens. With a provider that returns longitudes up to turns, the latitude is clamped besides; one within
the bound is left alone. -/
theorem lonLat_round_trip (g : GeoReference α) (lonLat : Point α) :
    (g.isProjected = false →
      (g.lonLatToPoint lonLat >>= g.pointToLonLat) =
        .ok ⟨Longitude.wrap g.window lonLat.x, lonLat.y⟩) ∧
    (g.isProjected = true →
      g.engine.session.evaluator.ReturnsUpToTurns (Engine.angles (g.wrapped lonLat)) →
      (g.lonLatToPoint lonLat >>= g.pointToLonLat) =
          .ok ⟨Longitude.wrap g.window lonLat.x, max (-latitudeLimit) (min latitudeLimit lonLat.y)⟩ ∧
        (|lonLat.y| ≤ latitudeLimit →
          (g.lonLatToPoint lonLat >>= g.pointToLonLat) =
            .ok ⟨Longitude.wrap g.window lonLat.x, lonLat.y⟩)) := by
  constructor
  · intro unprojected
    exact pointToLonLat_of_unprojected unprojected lonLat
  · intro projected returns
    have back := pointToLonLat_of_returns projected returns
    refine ⟨back, fun within => ?_⟩
    obtain ⟨above, below⟩ := abs_le.mp within
    rwa [min_eq_right below, max_eq_right above] at back

/-- Without `+over`, and in a window of the caller's choice, a longitude takes a turn in the provider, and a
latitude beyond the pole is clamped. Without a projection it is not. -/
theorem lonLats_come_back_wrapped :
    (∃ g first : GeoReference ℚ,
      (make Parabolic.provider { projection := some "+proj=sinu +lon_0=-10" }).result = .ok first ∧
      first.setWindow .around180 = g ∧ hasToken g.projection overToken = false ∧
      (g.lonLatToPoint ⟨-160, 95⟩ >>= g.pointToLonLat) = .ok ⟨200, latitudeLimit⟩) ∧
    ∃ g : GeoReference ℚ, (make Parabolic.provider {}).result = .ok g ∧ g.isProjected = false ∧
      (g.lonLatToPoint ⟨-160, 95⟩ >>= g.pointToLonLat) = .ok ⟨200, 95⟩ := by
  have east : Longitude.wrap .around180 (-160 : ℚ) = 200 := by
    decide +kernel
  constructor
  · let turns (g : GeoReference ℚ) (angles : Point ℚ) : Bool :=
      (g.engine.session.evaluator.forward angles).toOption.any fun point =>
        (g.engine.session.evaluator.inverse point).toOption.any fun back =>
          decide (back = ⟨angles.x + (-1 : ℤ) * (2 * Scalar.pi), angles.y⟩)
    let check (g : GeoReference ℚ) : Bool :=
      !hasToken g.projection overToken && g.isProjected && decide (g.window = .around180) &&
        turns g (Engine.angles (g.wrapped ⟨-160, 95⟩))
    have runs : ((make (α := ℚ) Parabolic.provider
        { projection := some "+proj=sinu +lon_0=-10" }).result.toOption.any fun first =>
          check (first.setWindow .around180)) = true := by
      decide +kernel
    obtain ⟨first, made, checked⟩ := exists_of_toOption_any runs
    generalize chosen : first.setWindow .around180 = g at checked
    simp only [check, turns, Bool.and_eq_true, Bool.not_eq_true', decide_eq_true_eq] at checked
    obtain ⟨⟨⟨cleared, projected⟩, window⟩, turned⟩ := checked
    obtain ⟨point, forward, turned⟩ := exists_of_toOption_any turned
    obtain ⟨back, inverse, same⟩ := exists_of_toOption_any turned
    have returns : g.engine.session.evaluator.ReturnsUpToTurns (Engine.angles (g.wrapped ⟨-160, 95⟩)) :=
      ⟨point, forward, -1, inverse.trans (congrArg _ (of_decide_eq_true same))⟩
    have comesBack := ((g.lonLat_round_trip ⟨-160, 95⟩).2 projected returns).1
    have north : max (-latitudeLimit) (min latitudeLimit (95 : ℚ)) = latitudeLimit := by
      decide +kernel
    rw [window, east, north] at comesBack
    exact ⟨g, first, made, chosen, cleared, comesBack⟩
  · have runs : ((make (α := ℚ) Parabolic.provider {}).result.toOption.any fun g =>
        !g.isProjected && decide (g.window = .around180)) = true := by
      decide +kernel
    obtain ⟨g, made, checked⟩ := exists_of_toOption_any runs
    simp only [Bool.and_eq_true, Bool.not_eq_true', decide_eq_true_eq] at checked
    obtain ⟨unprojected, window⟩ := checked
    have comesBack := (g.lonLat_round_trip ⟨-160, 95⟩).1 unprojected
    rw [window, east] at comesBack
    exact ⟨g, made, unprojected, comesBack⟩

end Exact

section Metric

variable {α : Type} [ExactMetricScalar α] {g : GeoReference α}

/-- The error of a pixel that comes back is zero if it comes back as itself. -/
theorem reprojectionError_eq_zero_iff {pixel back : Point α}
    (trip : (g.pixelToLonLat pixel >>= g.lonLatToPixel) = .ok back) :
    g.reprojectionError pixel = .ok 0 ↔ back = pixel := by
  obtain ⟨lonLat, there, returned⟩ := bind_eq_ok.mp trip
  have error : g.reprojectionError pixel =
      .ok (MetricScalar.hypot (back.x - pixel.x) (back.y - pixel.y)) := by
    simp only [reprojectionError, reprojectionOffset, there, returned, bind, Except.bind, pure,
      Except.pure, Except.map]
  rw [error, Except.ok.injEq, ExactMetricScalar.hypot_eq_zero_iff, sub_eq_zero, sub_eq_zero]
  obtain ⟨x, y⟩ := pixel
  obtain ⟨x', y'⟩ := back
  rw [Point.mk.injEq]

/-- Pixels there and back. A pixel with a point comes back, and its error is zero, if its longitude lies in
the window, and with a projection, if its latitude is within the bound and the provider takes back
what it unprojects. Without projection and projective part, all hangs on the window. -/
theorem pixel_round_trip (g : GeoReference α) (pixel : Point α) :
    (∀ lonLat, g.affine.native.denominator pixel ≠ 0 →
      g.pointToLonLatRaw (g.pixelToPoint pixel) = .ok lonLat → g.window.Holds lonLat.x →
      (g.isProjected = true → |radians lonLat.y| ≤ latitudeBound ∧
        g.engine.session.evaluator.TakesBack (g.pixelToPoint pixel)) →
      (g.pixelToLonLat pixel >>= g.lonLatToPixel) = .ok pixel ∧
        g.reprojectionError pixel = .ok 0) ∧
    ∀ c, g.isProjected = false → g.affine.transform.bottom = ⟨0, 0, c⟩ →
      g.pointToLonLatRaw (g.pixelToPoint pixel) = .ok (g.pixelToPoint pixel) ∧
        ∃ back, (g.pixelToLonLat pixel >>= g.lonLatToPixel) = .ok back ∧
          (back = pixel ↔ g.window.Holds (g.pixelToPoint pixel).x) ∧
          (g.reprojectionError pixel = .ok 0 ↔ g.window.Holds (g.pixelToPoint pixel).x) := by
  constructor
  · intro lonLat nonzero raw holds takesBack
    have trip : (g.pixelToLonLat pixel >>= g.lonLatToPixel) = .ok pixel :=
      bind_eq_ok.mpr ⟨lonLat, lonLatToPixel_pixelToLonLat nonzero raw holds takesBack⟩
    exact ⟨trip, (reprojectionError_eq_zero_iff trip).mpr rfl⟩
  · intro c unprojected bottom
    have trip := lonLatToPixel_of_unprojected unprojected pixel
    have comesBack := pointToPixel_wrapped_eq_iff bottom pixel
    exact ⟨Engine.inverse_of_unprojected unprojected _, _, trip, comesBack,
      (reprojectionError_eq_zero_iff trip).trans comesBack⟩

/-- Meridians are bent in the first georeference; the pixel comes back all the same. In the second one, a
pixel to the west of the window does not. -/
theorem pixels_come_back_or_not :
    (∃ g : GeoReference ℚ,
      (make Parabolic.provider { projection := some "+proj=sinu +q=2 +lon_0=7" }).result = .ok g ∧
      g.isProjected = true ∧ (g.pixelToLonLat ⟨20, 3⟩ >>= g.lonLatToPixel) = .ok ⟨20, 3⟩ ∧
      g.reprojectionError ⟨20, 3⟩ = .ok 0) ∧
    ∃ g : GeoReference ℚ, (make Parabolic.provider {}).result = .ok g ∧ g.isProjected = false ∧
      ∃ back, (g.pixelToLonLat ⟨-5, 3⟩ >>= g.lonLatToPixel) = .ok back ∧ back ≠ ⟨-5, 3⟩ := by
  constructor
  · let takesBack (g : GeoReference ℚ) (point : Point ℚ) : Bool :=
      (g.engine.session.evaluator.inverse point).toOption.all fun angles =>
        (g.engine.session.evaluator.forward angles).toOption.any fun back => decide (back = point)
    let check (g : GeoReference ℚ) : Bool :=
      g.isProjected && decide (g.affine.native.denominator ⟨20, 3⟩ ≠ 0) &&
        takesBack g (g.pixelToPoint ⟨20, 3⟩) &&
        (g.pointToLonLatRaw (g.pixelToPoint ⟨20, 3⟩)).toOption.any fun lonLat =>
          decide (g.window.Holds lonLat.x ∧ |radians lonLat.y| ≤ latitudeBound)
    have runs : ((make (α := ℚ) Parabolic.provider
        { projection := some "+proj=sinu +q=2 +lon_0=7" }).result.toOption.any check) = true := by
      decide +kernel
    obtain ⟨g, made, checked⟩ := exists_of_toOption_any runs
    simp only [check, Bool.and_eq_true, decide_eq_true_eq] at checked
    obtain ⟨⟨⟨projected, nonzero⟩, undone⟩, converted⟩ := checked
    obtain ⟨lonLat, raw, within⟩ := exists_of_toOption_any converted
    obtain ⟨holds, bounded⟩ := of_decide_eq_true within
    have takesBack : g.engine.session.evaluator.TakesBack (g.pixelToPoint ⟨20, 3⟩) := by
      intro angles inverse
      simp only [takesBack, inverse] at undone
      obtain ⟨back, forward, same⟩ := exists_of_toOption_any undone
      rw [forward, of_decide_eq_true same]
    exact ⟨g, made, projected,
      (g.pixel_round_trip ⟨20, 3⟩).1 lonLat nonzero raw holds fun _ => ⟨bounded, takesBack⟩⟩
  · let check (g : GeoReference ℚ) : Bool :=
      !g.isProjected && decide (g.affine.transform.bottom = ⟨0, 0, 1⟩) &&
        decide (¬ g.window.Holds (g.pixelToPoint ⟨-5, 3⟩).x)
    have runs : ((make (α := ℚ) Parabolic.provider {}).result.toOption.any check) = true := by
      decide +kernel
    obtain ⟨g, made, checked⟩ := exists_of_toOption_any runs
    simp only [check, Bool.and_eq_true, Bool.not_eq_true', decide_eq_true_eq] at checked
    obtain ⟨⟨unprojected, bottom⟩, outside⟩ := checked
    obtain ⟨_, back, trip, comesBack, _⟩ := (g.pixel_round_trip ⟨-5, 3⟩).2 1 unprojected bottom
    exact ⟨g, made, unprojected, back, trip, fun same => outside (comesBack.mp same)⟩

end Metric

end GeoReference

end GeoRaster
