import GeoRaster.Proofs.GeoReference.Boxes
import GeoRaster.Proofs.GeoReference.RoundTrip
import GeoRaster.Proofs.GeoReference.Sound
import GeoRaster.Proofs.Mapping.Corners

/-! Boxes of longitudes at the end of a window. A box may reach up to the end of the window, which belongs
to the window no more: samples there are wrapped to its start. The samples next to them are one
step short of the end, so the image of the last step is lost, and nothing else is. -/
namespace GeoRaster

open Mapping (continuousSamples stepped)
open Projection (latitudeBound)
open Scalar (ofInt radians)

namespace Projection

variable {α : Type} [ExactScalar α]

/-- The forward map takes every longitude and latitude, and is affine. -/
def Evaluator.IsAffine (e : Evaluator α) : Prop :=
  ∃ f, GeoRaster.IsAffine f ∧ ∀ angles, e.forward angles = .ok (f angles)

/-- Degrees make no difference to an affine map. -/
theorem Evaluator.IsAffine.exists_degrees {e : Evaluator α} (affine : e.IsAffine) :
    ∃ f, GeoRaster.IsAffine f ∧ ∀ lonLat : Point α, e.forward (lonLat.map radians) = .ok (f lonLat) := by
  obtain ⟨f, ⟨across, up, maps⟩, forward⟩ := affine
  let scaled (form : Row α) : Row α :=
    ⟨form.a * (Scalar.pi / ofInt 180), form.b * (Scalar.pi / ofInt 180), form.c⟩
  refine ⟨fun lonLat => f (lonLat.map radians), ⟨scaled across, scaled up, fun lonLat => ?_⟩,
    fun lonLat => forward _⟩
  simp only [maps, scaled, Row.value, Point.map, radians, Point.mk.injEq]
  constructor <;> ring

theorem Parabolic.isAffine {c : Parabolic α} (straight : c.q = 0) (everywhere : c.maxDistance = none) :
    Evaluator.IsAffine ⟨c.forward, c.inverse⟩ := by
  refine ⟨fun angles => ⟨(Scalar.degrees angles.x - c.centralLongitude) * c.k + c.falseEasting,
    Scalar.degrees angles.y * c.k + c.falseNorthing⟩, ?_, fun angles => ?_⟩
  · refine ⟨⟨ofInt 180 / Scalar.pi * c.k, 0, c.falseEasting - c.centralLongitude * c.k⟩,
      ⟨0, ofInt 180 / Scalar.pi * c.k, c.falseNorthing⟩, fun angles => ?_⟩
    simp only [Row.value, Scalar.degrees, Point.mk.injEq]
    constructor <;> ring
  · simp only [Parabolic.forward, everywhere, straight, Option.any_none, Bool.false_eq_true, if_false,
      zero_mul, add_zero]

end Projection

namespace Mapping

open Box

variable {α : Type} [ExactScalar α]

/-- The points of a box of longitudes that wrapped samples account for: all of them, if the box ends
before the window does; otherwise those as far as the last column of samples but one, and those at the
end of the window itself. -/
def Accounted (window : LonWindow) (b : Box α) (count : Int) (p : Point α) : Prop :=
  b.maxX < window.upper ∨ p.x ≤ b.maxX - b.width / ofInt count ∨ p.x = window.upper

section Samples

variable {window : LonWindow} {minX minY maxX maxY : α} {count : Int} {samples : List (Point α)}
  (reported : window.Reports maxX) (positive : 1 ≤ count)
  (sampled : continuousSamples (span minX minY maxX maxY) count = .ok samples)
include reported positive sampled

/-- East of a point that is accounted for and not at the end of the window, there is a column of samples
that is not there either. -/
theorem exists_column {p : Point α} (inside : (span minX minY maxX maxY).contains p = true)
    (before : p.x < window.upper) (accounted : Accounted window (span minX minY maxX maxY) count p) :
    ∃ x, p.x ≤ x ∧ x < window.upper ∧ ∀ y, y = minY ∨ y = maxY → ⟨x, y⟩ ∈ samples := by
  obtain ⟨left, right, _⟩ := contains_span_iff.mp inside
  rcases reported.2.lt_or_eq with ends | reaches
  · refine ⟨stepped minX maxX count count, ?_, ?_, fun y =>
      edge_mem_continuousSamples positive sampled (by omega)⟩
    · rwa [Mapping.stepped_count positive]
    · rwa [Mapping.stepped_count positive]
  · have accounted : p.x ≤ stepped minX maxX count (count - 1) := by
      rw [stepped_pred positive]
      rcases accounted with ends | upTo | atEnd
      · exact absurd reaches ends.ne
      · exact upTo
      · exact absurd atEnd before.ne
    refine ⟨stepped minX maxX count (count - 1), accounted, ?_, fun y =>
      edge_mem_continuousSamples positive sampled (by omega)⟩
    -- a box with an extent steps off its end; one without does not reach it
    have positive' : (0 : α) < ofInt count := Int.cast_pos.mpr (by omega)
    have step : 0 < (maxX - minX) / ofInt count := div_pos (by linarith) positive'
    rw [stepped_pred positive]
    linarith

/-- A box that contains the images of all samples, wrapped, contains those of all points that are
accounted for, wrapped. -/
theorem contains_of_wrapped_samples {f : Point α → Point α} (affine : IsAffine f) {image : Box α}
    (starts : window.lower ≤ minX)
    (covers : ∀ s ∈ samples, image.contains (f ⟨Longitude.wrap window s.x, s.y⟩) = true)
    {p : Point α} (inside : (span minX minY maxX maxY).contains p = true)
    (accounted : Accounted window (span minX minY maxX maxY) count p) :
    image.contains (f ⟨Longitude.wrap window p.x, p.y⟩) = true := by
  obtain ⟨left, right, vertical⟩ := contains_span_iff.mp inside
  -- two columns with covered ends cover what lies between them
  have between : ∀ {x₁ x₂ x : α}, x₁ ≤ x → x ≤ x₂ →
      (∀ y, y = minY ∨ y = maxY → image.contains (f ⟨x₁, y⟩) = true ∧ image.contains (f ⟨x₂, y⟩) = true) →
      image.contains (f ⟨x, p.y⟩) = true := by
    intro x₁ x₂ x east west ends
    refine contains_of_corners affine (b := span x₁ minY x₂ maxY) ?_
      (contains_span_iff.mpr ⟨east, west, vertical⟩)
    rintro ⟨x, y⟩ corner
    obtain ⟨rfl | rfl, atY⟩ := mem_corners_iff.mp corner
    · exact (ends y atY).1
    · exact (ends y atY).2
  rcases (right.trans reported.2).lt_or_eq with before | atEnd
  · obtain ⟨x, west, beforeX, column⟩ :=
      exists_column reported positive sampled inside before accounted
    have first : ∀ y, y = minY ∨ y = maxY → (⟨minX, y⟩ : Point α) ∈ samples := by
      intro y bound
      have member := edge_mem_continuousSamples positive sampled (i := 0) (by omega) bound
      rwa [stepped_zero] at member
    have covered : ∀ {x y : α}, window.lower ≤ x → x < window.upper → (⟨x, y⟩ : Point α) ∈ samples →
        image.contains (f ⟨x, y⟩) = true := by
      intro x y lower upper member
      have covered := covers _ member
      rwa [Longitude.wrap_of_holds ⟨lower, upper⟩] at covered
    rw [Longitude.wrap_of_holds ⟨starts.trans left, before⟩]
    exact between left west fun y bound =>
      ⟨covered starts (left.trans_lt before) (first y bound),
        covered (starts.trans (left.trans west)) beforeX (column y bound)⟩
  · have last : ∀ y, y = minY ∨ y = maxY → image.contains (f ⟨window.lower, y⟩) = true := by
      intro y bound
      have member := edge_mem_continuousSamples positive sampled (i := count) (by omega) bound
      have covered := covers _ member
      rwa [stepped_count positive, le_antisymm reported.2 (atEnd ▸ right),
        Longitude.wrap_upper] at covered
    rw [atEnd, Longitude.wrap_upper]
    exact between le_rfl le_rfl fun y bound => ⟨last y bound, last y bound⟩

/-- Samples are accounted for. -/
theorem accounted_of_mem (ordered : (span minX minY maxX maxY).Ordered) {s : Point α} (member : s ∈ samples) :
    Accounted window (span minX minY maxX maxY) count s := by
  obtain ⟨i, j, between, _, rfl⟩ := exists_steps_of_mem positive sampled member
  rcases reported.2.lt_or_eq with ends | reaches
  · exact .inl ends
  · rcases between.2.lt_or_eq with before | rfl
    · refine .inr (.inl ?_)
      have nonneg : 0 ≤ count := by omega
      have steps := stepped_mono ordered.1 nonneg (Int.le_sub_one_of_lt before)
      rwa [stepped_pred positive] at steps
    · exact .inr (.inr ((stepped_count positive minX maxX).trans reaches))

end Samples

end Mapping

namespace GeoReference

variable {α : Type} [ExactScalar α] {g : GeoReference α}

/-- With an affine projection, the wrapped longitude and the latitude have a point, which depends on them
as an affine map does, as long as the latitude is not clamped. -/
theorem exists_forward_of_isAffine (projected : g.isProjected = true)
    (affine : g.engine.session.evaluator.IsAffine) :
    ∃ f : Point α → Point α, IsAffine f ∧ ∀ p : Point α, |radians p.y| ≤ latitudeBound →
      g.lonLatToPoint p = .ok (f (g.wrapped p)) ∧ g.tryLonLatToPoint p = some (f (g.wrapped p)) := by
  obtain ⟨f, affine, forward⟩ := affine.exists_degrees
  refine ⟨f, affine, fun p within => ?_⟩
  have angles : Projection.Engine.angles (g.wrapped p) = (g.wrapped p).map radians := by
    have kept : Projection.clampLatitude (radians (g.wrapped p).y) = radians (g.wrapped p).y :=
      Projection.clampLatitude_of_abs_le within
    rw [Projection.Engine.angles, kept]
    rfl
  have evaluated := forward (g.wrapped p)
  rw [← angles] at evaluated
  refine ⟨Projection.Engine.forward_of_ok projected evaluated, ?_⟩
  have projected : g.engine.isProjected = true := projected
  rw [tryLonLatToPoint, Projection.Engine.tryForward, if_pos projected, evaluated]
  rfl

/-- What a box of longitudes and latitudes is converted to, if the projection is affine and the longitudes
are as they are reported. Every point of the box has a projected point; the converted box is the hull
of those of all points but the ones in the last step before the end of the window, if the box reaches
that far. -/
theorem lonLatToPointBox_up_to_window_end (g : GeoReference α) {b : Box α} {count : Int}
    (projected : g.isProjected = true) (affine : g.engine.session.evaluator.IsAffine) (ordered : b.Ordered)
    (full : b.isEmpty = false) (positive : 1 ≤ count)
    (reported : ∀ p, b.contains p = true → g.window.Reports p.x ∧ |radians p.y| ≤ latitudeBound) :
    (∀ p, b.contains p = true → ∃ q, g.lonLatToPoint p = .ok q) ∧
      ∃ box, (g.lonLatToPointBox b count).result = .ok box ∧
        box.IsHull fun q => ∃ p, b.contains p = true ∧ Mapping.Accounted g.window b count p ∧
          g.lonLatToPoint p = .ok q := by
  obtain ⟨f, affine, converts⟩ := exists_forward_of_isAffine projected affine
  refine ⟨fun p inside => ⟨_, (converts p (reported p inside).2).1⟩, ?_⟩
  obtain ⟨samples, sampled⟩ := Mapping.exists_continuousSamples b positive
  obtain ⟨box, converted, hull, _⟩ := lonLatToPointBox_spec projected full sampled
  have inBox := (Mapping.continuousSamples_spec ordered full positive sampled).2
  cases b with
  | empty => contradiction
  | span minX minY maxX maxY =>
    have start := (reported _ (Box.contains_lower ordered)).1
    have stop := (reported _ (Box.contains_upper ordered)).1
    refine ⟨box, converted, hull.extend ?_ ?_⟩
    · rintro q ⟨s, member, image⟩
      obtain ⟨there, tried⟩ := converts s (reported s (inBox s member)).2
      refine ⟨s, inBox s member, Mapping.accounted_of_mem stop positive sampled ordered member, ?_⟩
      rw [there, Except.ok.injEq, ← Option.some.injEq, ← tried, image]
    · rintro q ⟨p, inside, accounted, image⟩
      rw [(converts p (reported p inside).2).1, Except.ok.injEq] at image
      subst image
      refine Mapping.contains_of_wrapped_samples stop positive sampled affine start.1 ?_ inside accounted
      intro s member
      exact hull.contains _ ⟨s, member, (converts s (reported s (inBox s member)).2).2⟩

/-- A georeference on the parabolic provider evaluates what its own string asks for. -/
theorem evaluator_of_parabolic {spec : GeoReferenceSpec α}
    (made : (make Projection.Parabolic.provider spec).result = .ok g) {c : Projection.Parabolic α}
    (read : Projection.Parabolic.ofString g.engine.overall = .ok c) :
    g.engine.session.evaluator = ⟨c.forward, c.inverse⟩ := by
  have configured := (make_sound made).configured
  obtain ⟨_, _, _, _, built⟩ := make_ok_iff.mp made
  rw [built.provider_eq] at configured
  simp only [Projection.Parabolic.provider, Logged.result_ofExcept, read, Except.map,
    Except.ok.injEq] at configured
  rw [← configured]

/-- What holds of the bounds of a box holds all over the box. -/
theorem reported_of_bounds {window : LonWindow} {minX minY maxX maxY : α}
    (start : window.Reports minX) (stop : window.Reports maxX) (south : |radians minY| ≤ latitudeBound)
    (north : |radians maxY| ≤ latitudeBound) {p : Point α}
    (inside : (Box.span minX minY maxX maxY).contains p = true) :
    window.Reports p.x ∧ |radians p.y| ≤ latitudeBound := by
  obtain ⟨left, right, below, above⟩ := Box.contains_span_iff.mp inside
  refine ⟨⟨start.1.trans left, right.trans stop.2⟩, abs_le.mpr ⟨?_, ?_⟩⟩
  · exact (abs_le.mp south).1.trans (ExactScalar.radians_mono below)
  · exact (ExactScalar.radians_mono above).trans (abs_le.mp north).2

/-- A straight projection in the window around the antimeridian, and a box from end to end of the window. -/
theorem exists_straight : ∃ g : GeoReference ℚ,
    (make Projection.Parabolic.provider { projection := some "+proj=sinu" }).result = .ok g ∧
      g.isProjected = true ∧ g.window = .around180 ∧ g.engine.session.evaluator.IsAffine ∧
      ∀ p : Point ℚ, (Box.span 0 (-45) 360 45).contains p = true →
        g.window.Reports p.x ∧ |radians p.y| ≤ latitudeBound := by
  let check (g : GeoReference ℚ) : Bool := g.isProjected && decide (g.window = .around180) &&
    (Projection.Parabolic.ofString (α := ℚ) g.engine.overall).toOption.any fun c =>
      decide (c.q = 0) && decide (c.maxDistance = none)
  have runs : ((make (α := ℚ) Projection.Parabolic.provider
      { projection := some "+proj=sinu" }).result.toOption.any check) = true := by
    decide +kernel
  obtain ⟨g, made, checked⟩ := exists_of_toOption_any runs
  simp only [check, Bool.and_eq_true, decide_eq_true_eq] at checked
  obtain ⟨⟨projected, window⟩, reads⟩ := checked
  obtain ⟨c, read, checked⟩ := exists_of_toOption_any reads
  simp only [Bool.and_eq_true, decide_eq_true_eq] at checked
  obtain ⟨straight, everywhere⟩ := checked
  refine ⟨g, made, projected, window, ?_, fun p inside => ?_⟩
  · rw [evaluator_of_parabolic made read]
    exact Projection.Parabolic.isAffine straight everywhere
  · rw [window]
    refine reported_of_bounds ?_ ?_ ?_ ?_ inside
    all_goals decide +kernel

/-- In two steps, the eastern hemisphere of a box around the antimeridian is converted to points of the
converted box. -/
theorem first_step_is_converted :
    let b : Box ℚ := .span 0 (-45) 360 45
    ∃ g : GeoReference ℚ,
      (make Projection.Parabolic.provider { projection := some "+proj=sinu" }).result = .ok g ∧
      g.isProjected = true ∧ g.engine.session.evaluator.IsAffine ∧ b.Ordered ∧
      (∀ p, b.contains p = true → g.window.Reports p.x ∧ |radians p.y| ≤ latitudeBound) ∧
      ∃ box, (g.lonLatToPointBox b 2).result = .ok box ∧
        ∀ p, b.contains p = true → p.x ≤ 180 → ∃ q, g.lonLatToPoint p = .ok q ∧ box.contains q = true := by
  intro b
  obtain ⟨g, made, projected, _, affine, reported⟩ := exists_straight
  have ordered : b.Ordered := by
    constructor <;> norm_num
  have positive : (1 : Int) ≤ 2 := by decide
  obtain ⟨everywhere, box, converted, hull⟩ :=
    g.lonLatToPointBox_up_to_window_end projected affine ordered rfl positive reported
  refine ⟨g, made, projected, affine, ordered, reported, box, converted, fun p inside west => ?_⟩
  obtain ⟨q, image⟩ := everywhere p inside
  refine ⟨q, image, hull.contains q ⟨p, inside, .inr (.inl (west.trans ?_)), image⟩⟩
  decide +kernel

/-- The other step is lost: three quarters around, a point of the box has its projected point outside of
the converted box, though its longitude is well before the end of the window. -/
theorem last_step_is_lost :
    let b : Box ℚ := .span 0 (-45) 360 45
    ∃ g : GeoReference ℚ,
      (make Projection.Parabolic.provider { projection := some "+proj=sinu" }).result = .ok g ∧
      g.isProjected = true ∧ g.engine.session.evaluator.IsAffine ∧ b.Ordered ∧
      (∀ p, b.contains p = true → g.window.Reports p.x ∧ |radians p.y| ≤ latitudeBound) ∧
      b.contains ⟨270, 0⟩ = true ∧ (270 : ℚ) < g.window.upper ∧
      ∃ box q, (g.lonLatToPointBox b 2).result = .ok box ∧ g.lonLatToPoint ⟨270, 0⟩ = .ok q ∧
        box.contains q = false := by
  intro b
  obtain ⟨g, made, projected, window, affine, reported⟩ := exists_straight
  have runs : ((make (α := ℚ) Projection.Parabolic.provider
      { projection := some "+proj=sinu" }).result.toOption.any fun g =>
        (g.lonLatToPointBox b 2).result.toOption.any fun box =>
          (g.lonLatToPoint ⟨270, 0⟩).toOption.any fun q => !box.contains q) = true := by
    decide +kernel
  rw [made, Except.toOption, Option.any_some] at runs
  obtain ⟨box, converted, missed⟩ := exists_of_toOption_any runs
  obtain ⟨q, image, missed⟩ := exists_of_toOption_any missed
  refine ⟨g, made, projected, affine, ⟨by norm_num, by norm_num⟩, reported, by decide +kernel, ?_,
    box, q, converted, image, by simpa using missed⟩
  rw [window]
  decide +kernel

end GeoReference

end GeoRaster
