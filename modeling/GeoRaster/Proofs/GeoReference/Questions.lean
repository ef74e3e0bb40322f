import GeoRaster.Proofs.Projection.Evaluation
import GeoRaster.Proofs.GeoReference.Dialogue
import GeoRaster.Projection.Parabolic

/-! What georeferences ask their providers. A projected georeference asks for a projected point with the
longitude in its window and the latitude off the poles, whichever conversion it is carrying out
and however the longitude was given or sampled; one that is not projected asks nothing. -/
namespace GeoRaster

open Scalar (radians degrees)
open Projection (Engine Evaluator Question latitudeBound)

namespace GeoReference

section AnyArithmetic

variable {α : Type} [MetricScalar α] (g : GeoReference α)

/-- What the provider is asked during a conversion, in order. -/
def questions (c : Conversion α) : List (Question α) :=
  (g.converse c).questions g.engine.session.evaluator

/-- The projected points that a conversion is to find longitudes and latitudes of. -/
def pointsToUnproject : Conversion α → List (Point α)
  | .pointToLonLat point | .pointToLonLatRaw point | .tryPointToLonLat point => [point]
  | .pixelToLonLat pixel | .tryPixelToLonLat pixel | .reprojectionError pixel =>
    [g.pixelToPoint pixel]
  | .pixelToLonLatBox pixels => (Mapping.pixelsOf pixels).map g.pixelToPoint
  | .pointToLonLatBox points count => Mapping.samplesOf points count
  | _ => []

/-- The longitudes and latitudes, given or sampled, that a conversion is to find projected points of. -/
def lonLatsToProject : Conversion α → List (Point α)
  | .lonLatToPoint lonLat | .lonLatToPixel lonLat | .tryLonLatToPoint lonLat => [lonLat]
  | .reprojectionError pixel => (g.pixelToLonLat pixel).toOption.toList
  | .lonLatToPointBox lonLats count | .lonLatToPixelBox lonLats count =>
    Mapping.samplesOf lonLats count
  | _ => []

theorem questions_eq (c : Conversion α) :
    g.questions c = (g.pointsToUnproject c).flatMap (g.engine.asks .inverse) ++
      (g.lonLatsToProject c).flatMap fun lonLat => g.engine.asks .forward (g.wrapped lonLat) := by
  cases c <;> simp [questions, converse, pointsToUnproject, lonLatsToProject, List.flatMap_map]

theorem questions_of_unprojected (unprojected : g.isProjected = false) (c : Conversion α) :
    g.questions c = [] := by
  have asks : ∀ direction p, g.engine.asks direction p = [] :=
    Engine.asks_of_unprojected unprojected
  simp [questions_eq, asks]

/-- What the provider is asked to project during a conversion, in order. -/
def forwardQuestions (c : Conversion α) : List (Question α) :=
  (g.questions c).filter fun q => q.direction = .forward

theorem forwardQuestions_of_projected (projected : g.isProjected = true) (c : Conversion α) :
    g.forwardQuestions c =
      (g.lonLatsToProject c).map fun lonLat => ⟨.forward, Engine.angles (g.wrapped lonLat)⟩ := by
  have projects : ∀ lonLat, g.engine.asks .forward lonLat = [⟨.forward, Engine.angles lonLat⟩] :=
    Engine.asks_forward projected
  have unprojects : ∀ point, g.engine.asks .inverse point = [⟨.inverse, point⟩] :=
    Engine.asks_inverse projected
  unfold forwardQuestions
  rw [questions_eq, List.filter_append, List.filter_flatMap, List.filter_flatMap, List.map_eq_flatMap]
  simp [projects, unprojects]

end AnyArithmetic

variable {α : Type} [ExactMetricScalar α]

/-- How a question is about a longitude and latitude: the longitude is put into the window by whole
turns, and the latitude is kept where it is off the poles. -/
structure IsAbout (g : GeoReference α) (q : Question α) (lonLat : Point α) : Prop where
  inWindow : g.window.Holds (degrees q.point.x)
  turned : ∃ n : ℤ, degrees q.point.x = lonLat.x + n * 360
  offPoles : |q.point.y| ≤ latitudeBound
  kept : |radians lonLat.y| ≤ latitudeBound → q.point.y = radians lonLat.y

theorem isAbout_angles (wide : 1 ≤ (Scalar.pi : α)) (g : GeoReference α) (lonLat : Point α) :
    g.IsAbout ⟨.forward, Engine.angles (g.wrapped lonLat)⟩ lonLat := by
  have longitude : degrees (Engine.angles (g.wrapped lonLat)).x = Longitude.wrap g.window lonLat.x :=
    ExactScalar.degrees_radians _
  refine ⟨?_, ⟨-Longitude.turns g.window lonLat.x, ?_⟩, ?_, ?_⟩
  · rw [longitude]
    exact Longitude.wrap_holds g.window lonLat.x
  · rw [longitude, Longitude.wrap_eq]
    push_cast
    ring
  · exact Projection.abs_clampLatitude_le wide _
  · exact Projection.clampLatitude_of_abs_le

/-- A conversion comes to what a dialogue with any evaluator in the provider's place comes to. A projected
georeference asks its provider for one projected point for each longitude and latitude that is
given or sampled, in their order, with the longitude in the window and the latitude off the
poles. A georeference that is not projected asks nothing in any conversion. -/
theorem provider_is_asked_in_bounds (wide : 1 ≤ (Scalar.pi : α)) (g : GeoReference α)
    (c : Conversion α) :
    (∀ e, (g.converse c).result e = (g.answeredBy e).convert c) ∧
      (g.isProjected = true → List.Forall₂ g.IsAbout (g.forwardQuestions c) (g.lonLatsToProject c)) ∧
      (g.isProjected = false → g.questions c = []) := by
  refine ⟨fun e => result_converse_answeredBy g e c, fun projected => ?_, fun unprojected => ?_⟩
  · rw [forwardQuestions_of_projected g projected, List.forall₂_map_left_iff, List.forall₂_same]
    exact fun lonLat _ => isAbout_angles wide g lonLat
  · exact questions_of_unprojected g unprojected c

/-- A longitude beyond the window and a latitude beyond the pole are asked about at 160 degrees east and
at the bound of latitudes. A box of several turns that reaches beyond both poles is sampled
there, and is asked about within the bounds. Longitudes and latitudes that stand for themselves
are not asked about. -/
theorem asked_beyond_poles :
    1 ≤ (Scalar.pi : ℚ) ∧
      (∃ g, (make (α := ℚ) Projection.Parabolic.provider
          { projection := some "+proj=sinu" }).result = .ok g ∧
        (∃ q, g.forwardQuestions (.lonLatToPixel ⟨-560, 95⟩) = [q] ∧
          q.point = ⟨radians 160, latitudeBound⟩ ∧ g.IsAbout q ⟨-560, 95⟩) ∧
        ∃ samples, g.lonLatsToProject (.lonLatToPointBox (.span (-560) (-95) 700 95) 3) = samples ∧
          ⟨-560, 95⟩ ∈ samples ∧
          List.Forall₂ g.IsAbout
            (g.forwardQuestions (.lonLatToPointBox (.span (-560) (-95) 700 95) 3)) samples) ∧
      ∃ g, (make (α := ℚ) Projection.Parabolic.provider {}).result = .ok g ∧
        g.questions (.reprojectionError ⟨3, 4⟩) = [] := by
  have wide : 1 ≤ (Scalar.pi : ℚ) := by decide +kernel
  have runs : ((make (α := ℚ) Projection.Parabolic.provider
      { projection := some "+proj=sinu" }).result.toOption.any fun g =>
        g.isProjected && decide ((g.forwardQuestions (.lonLatToPixel ⟨-560, 95⟩)).map (·.point) =
          [⟨radians 160, latitudeBound⟩])) = true := by
    decide +kernel
  have plain : ((make (α := ℚ) Projection.Parabolic.provider {}).result.toOption.any fun g =>
      !g.isProjected) = true := by
    decide +kernel
  refine ⟨wide, ?_, ?_⟩
  · obtain ⟨g, made, checked⟩ := exists_of_toOption_any runs
    rw [Bool.and_eq_true, decide_eq_true_iff] at checked
    obtain ⟨projected, points⟩ := checked
    have asks := fun c => (provider_is_asked_in_bounds wide g c).2.1 projected
    refine ⟨g, made, ?_, _, rfl, ?_, asks _⟩
    · obtain ⟨q, rest, isAbout, others, asked⟩ :=
        List.forall₂_cons_right_iff.mp (asks (.lonLatToPixel ⟨-560, 95⟩))
      obtain rfl := List.forall₂_nil_right_iff.mp others
      rw [asked] at points
      exact ⟨q, asked, List.head_eq_of_cons_eq points, isAbout⟩
    · have sampled : (Mapping.samplesOf (α := ℚ) (.span (-560) (-95) 700 95) 3)[3]? =
          some ⟨-560, 95⟩ := by
        decide +kernel
      exact List.mem_of_getElem? sampled
  · obtain ⟨g, made, checked⟩ := exists_of_toOption_any plain
    have unprojected : g.isProjected = false := by simpa using checked
    exact ⟨g, made, (provider_is_asked_in_bounds wide g _).2.2 unprojected⟩

end GeoReference

end GeoRaster
