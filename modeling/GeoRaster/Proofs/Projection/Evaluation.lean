import GeoRaster.Proofs.Longitude
import GeoRaster.Projection.Engine

/-! Engines in exact arithmetic. Degrees and radians are converted back and forth without loss, a turn of
the one is a turn of the other, and latitudes are only changed beyond the bound near the poles.
So what an engine does with degrees is what its provider does with radians. -/
namespace GeoRaster

open Scalar (radians degrees)

variable {α : Type} [ExactScalar α]

namespace ExactScalar

theorem pi_pos : 0 < (Scalar.pi : α) :=
  halfTurn_pos

theorem radians_degrees (angle : α) : radians (degrees angle) = angle := by
  have pi_ne := (pi_pos (α := α)).ne'
  unfold radians degrees
  rw [ofInt_ofNat]
  field_simp

theorem degrees_radians (angle : α) : degrees (radians angle) = angle := by
  have pi_ne := (pi_pos (α := α)).ne'
  unfold radians degrees
  rw [ofInt_ofNat]
  field_simp

theorem degrees_add_turns (angle : α) (n : ℤ) :
    degrees (angle + n * (2 * Scalar.pi)) = degrees angle + n * 360 := by
  have pi_ne := (pi_pos (α := α)).ne'
  unfold degrees
  rw [ofInt_ofNat]
  field_simp
  ring

theorem radians_add_turns (angle : α) (n : ℤ) :
    radians (angle + n * 360) = radians angle + n * (2 * Scalar.pi) := by
  have turned := degrees_add_turns (radians angle) n
  rw [degrees_radians] at turned
  rw [← turned, radians_degrees]

theorem degrees_mono : Monotone (degrees : α → α) := by
  intro a b le
  exact mul_le_mul_of_nonneg_right le (div_nonneg (Int.cast_nonneg (by decide)) pi_pos.le)

theorem radians_mono : Monotone (radians : α → α) := by
  intro a b le
  exact mul_le_mul_of_nonneg_right le (div_nonneg pi_pos.le (Int.cast_nonneg (by decide)))

theorem degrees_neg (angle : α) : degrees (-angle) = -degrees angle :=
  neg_mul _ _

end ExactScalar

namespace Projection

/-- The bound of latitudes, in degrees. -/
def latitudeLimit : α :=
  degrees latitudeBound

/-- Latitudes are kept between two bounds, the same distance north and south. -/
theorem clampLatitude_eq (latitude : α) :
    clampLatitude latitude = max (-latitudeBound) (min latitudeBound latitude) := by
  have low : (if latitude < latitudeBound then latitude else latitudeBound) =
      min latitudeBound latitude := by
    split
    · exact (min_eq_right ‹_ < _›.le).symm
    · exact (min_eq_left (not_lt.mp ‹_›)).symm
  unfold clampLatitude
  simp only [low]
  split
  · exact (max_eq_right ‹_ < _›.le).symm
  · exact (max_eq_left (not_lt.mp ‹_›)).symm

theorem clampLatitude_of_abs_le {latitude : α} (within : |latitude| ≤ latitudeBound) :
    clampLatitude latitude = latitude := by
  obtain ⟨above, below⟩ := abs_le.mp within
  rw [clampLatitude_eq, min_eq_right below, max_eq_right above]

/-- Where half a turn measures at least one radian, there are latitudes that are kept as they are. -/
theorem latitudeBound_nonneg (wide : 1 ≤ (Scalar.pi : α)) : 0 ≤ (latitudeBound : α) := by
  have small : (Scalar.ofDecimal 1 (-10) : α) = 1 / 10 ^ 10 := by
    simp [Scalar.ofDecimal, Scalar.ofNumeral?, ExactScalar.ofNumeral?]
  unfold latitudeBound
  rw [small]
  simp only [ExactScalar.ofInt_eq]
  norm_num
  linarith

theorem abs_clampLatitude_le (wide : 1 ≤ (Scalar.pi : α)) (latitude : α) :
    |clampLatitude latitude| ≤ latitudeBound := by
  have nonneg := latitudeBound_nonneg wide
  rw [clampLatitude_eq, abs_le]
  exact ⟨le_max_left _ _, max_le (by linarith) (min_le_left _ _)⟩

namespace Evaluator

/-- The forward map undoes the inverse one at a projected point. -/
def TakesBack (e : Evaluator α) (point : Point α) : Prop :=
  ∀ angles, e.inverse point = .ok angles → e.forward angles = .ok point

/-- The inverse map undoes the forward one at a longitude and latitude, but for whole turns of the
longitude. -/
def ReturnsUpToTurns (e : Evaluator α) (angles : Point α) : Prop :=
  ∃ point, e.forward angles = .ok point ∧
    ∃ n : ℤ, e.inverse point = .ok ⟨angles.x + n * (2 * Scalar.pi), angles.y⟩

end Evaluator

namespace Engine

variable {e : Engine α}

theorem angles_map_degrees {angles : Point α} (within : |angles.y| ≤ latitudeBound) :
    Engine.angles (angles.map degrees) = angles := by
  simp only [Engine.angles, Point.map, ExactScalar.radians_degrees, clampLatitude_of_abs_le within]

theorem map_degrees_angles (lonLat : Point α) :
    (Engine.angles lonLat).map degrees =
      ⟨lonLat.x, max (-latitudeLimit) (min latitudeLimit lonLat.y)⟩ := by
  simp only [Engine.angles, Point.map, ExactScalar.degrees_radians, clampLatitude_eq,
    ExactScalar.degrees_mono.map_max, ExactScalar.degrees_mono.map_min, ExactScalar.degrees_neg,
    latitudeLimit]

theorem forward_of_unprojected (unprojected : e.isProjected = false) (lonLat : Point α) :
    e.forward lonLat = .ok lonLat := by
  unfold forward
  rw [unprojected]
  rfl

theorem inverse_of_unprojected (unprojected : e.isProjected = false) (point : Point α) :
    e.inverse point = .ok point := by
  unfold inverse
  rw [unprojected]
  rfl

theorem forward_of_ok (projected : e.isProjected = true) {lonLat point : Point α}
    (evaluated : e.session.evaluator.forward (angles lonLat) = .ok point) :
    e.forward lonLat = .ok point := by
  unfold forward
  rw [if_pos projected, evaluated]
  rfl

theorem inverse_eq_ok_iff (projected : e.isProjected = true) {point lonLat : Point α} :
    e.inverse point = .ok lonLat ↔
      ∃ angles, e.session.evaluator.inverse point = .ok angles ∧ angles.map degrees = lonLat := by
  unfold inverse
  rw [if_pos projected]
  cases e.session.evaluator.inverse point with
  | error reason => simp [inverseAnswer]
  | ok angles => simp [inverseAnswer]

/-- Where the provider takes back what it unprojects, so does the engine, off the poles. -/
theorem forward_of_inverse {point lonLat : Point α} (unprojects : e.inverse point = .ok lonLat)
    (takesBack : e.isProjected = true →
      |radians lonLat.y| ≤ latitudeBound ∧ e.session.evaluator.TakesBack point) :
    e.forward lonLat = .ok point := by
  cases projected : e.isProjected with
  | false =>
    rw [inverse_of_unprojected projected] at unprojects
    rw [forward_of_unprojected projected, unprojects]
  | true =>
    obtain ⟨within, undone⟩ := takesBack projected
    obtain ⟨angles, evaluated, rfl⟩ := (inverse_eq_ok_iff projected).mp unprojects
    have within : |angles.y| ≤ latitudeBound := by
      simpa only [Point.map, ExactScalar.radians_degrees] using within
    apply forward_of_ok projected
    rw [angles_map_degrees within]
    exact undone angles evaluated

/-- What the provider returns up to turns, the engine returns up to turns, its latitude kept off the
poles. -/
theorem inverse_of_forward (projected : e.isProjected = true) {lonLat : Point α}
    (returns : e.session.evaluator.ReturnsUpToTurns (angles lonLat)) :
    ∃ point, e.forward lonLat = .ok point ∧
      ∃ n : ℤ, e.inverse point =
        .ok ⟨lonLat.x + n * 360, max (-latitudeLimit) (min latitudeLimit lonLat.y)⟩ := by
  obtain ⟨point, forward, n, inverse⟩ := returns
  refine ⟨point, forward_of_ok projected forward, n, (inverse_eq_ok_iff projected).mpr ⟨_, inverse, ?_⟩⟩
  have kept := map_degrees_angles lonLat
  rw [Point.map, Point.mk.injEq] at kept
  rw [Point.map, ExactScalar.degrees_add_turns, kept.1, kept.2]

end Engine

end Projection

end GeoRaster
