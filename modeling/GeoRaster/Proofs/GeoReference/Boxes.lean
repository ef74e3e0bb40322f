import GeoRaster.Proofs.Longitude
import GeoRaster.Proofs.Mapping.Sampling
import GeoRaster.GeoReference.BoxConversion
import GeoRaster.Projection.Parabolic

/-! Conversions of boxes agree with those of single coordinates. The box of a projected georeference is
the hull of what its samples are converted to one by one, whichever of them cannot be converted
and whichever window is in force. -/
namespace GeoRaster

open Mapping (pixelSamples continuousSamples boxPixels gridPoint areOnGrid)
open Scalar (ofInt)

variable {α : Type} [ExactScalar α]

/-- A box whose least and greatest longitudes lie in a window, or an empty one. -/
def Box.LiesIn (window : LonWindow) : Box α → Prop
  | .empty => True
  | .span minX _ maxX _ => window.Holds minX ∧ window.Holds maxX

/-- Bounds that are longitudes of points lie where those do. -/
theorem Box.Reached.liesIn {box : Box α} {points : Point α → Prop} {window : LonWindow}
    (reached : box.Reached points) (holds : ∀ p, points p → window.Holds p.x) :
    box.LiesIn window := by
  cases box with
  | empty => trivial
  | span minX minY maxX maxY =>
    obtain ⟨⟨⟨l, foundL, rfl⟩, _⟩, ⟨r, foundR, rfl⟩, _⟩ := reached
    exact ⟨holds l foundL, holds r foundR⟩

namespace GeoReference

variable {g : GeoReference α}

theorem holds_of_tryPointToLonLat {point lonLat : Point α}
    (converted : g.tryPointToLonLat point = some lonLat) : g.window.Holds lonLat.x := by
  obtain ⟨raw, _, rfl⟩ := Option.map_eq_some_iff.mp converted
  exact Longitude.wrap_holds g.window raw.x

/-- The box of what samples are converted to. -/
theorem exists_spanOf_lonLats {β : Type} (samples : List β) (place : β → Point α) :
    ∃ box, Mapping.spanOf (samples.filterMap fun s => g.tryPointToLonLat (place s)) = .ok box ∧
      box.IsHullOf samples (fun s => g.tryPointToLonLat (place s)) ∧ box.LiesIn g.window := by
  obtain ⟨box, spanned, hull, reached⟩ :=
    Mapping.spanOf_filterMap_spec samples fun s => g.tryPointToLonLat (place s)
  refine ⟨box, spanned, hull, reached.liesIn ?_⟩
  rintro lonLat ⟨s, _, converted⟩
  exact holds_of_tryPointToLonLat converted

theorem pixelToLonLatBox_spec (projected : g.isProjected = true) {x₀ y₀ x₁ y₁ : Int}
    (wide : x₀ < x₁) (high : y₀ < y₁) (onGrid : areOnGrid x₀ y₀ x₁ y₁ = true) :
    ∃ box, (g.pixelToLonLatBox (.span (ofInt x₀) (ofInt y₀) (ofInt x₁) (ofInt y₁))).result = .ok box ∧
      box.IsHullOf (pixelSamples x₀ y₀ x₁ y₁) (fun s => g.tryPixelToLonLat (gridPoint s)) ∧
      box.LiesIn g.window := by
  obtain ⟨box, spanned, hull, liesIn⟩ := g.exists_spanOf_lonLats (pixelSamples x₀ y₀ x₁ y₁)
    fun s => g.pixelToPoint (gridPoint s)
  refine ⟨box, ?_, hull, liesIn⟩
  unfold pixelToLonLatBox
  rw [if_pos projected, Mapping.result_samplePixels wide high, if_pos onGrid]
  exact spanned

theorem pixelToLonLatBox_beyondGrid (projected : g.isProjected = true) {x₀ y₀ x₁ y₁ : Int}
    (wide : x₀ < x₁) (high : y₀ < y₁) (beyond : areOnGrid x₀ y₀ x₁ y₁ = false) :
    (g.pixelToLonLatBox (.span (ofInt x₀) (ofInt y₀) (ofInt x₁) (ofInt y₁))).result =
      .error .beyondGrid := by
  unfold pixelToLonLatBox
  rw [if_pos projected, Mapping.result_samplePixels wide high, beyond]
  rfl

theorem pointToLonLatBox_spec (projected : g.isProjected = true) {b : Box α} (full : b.isEmpty = false)
    {count : Int} {samples : List (Point α)} (sampled : continuousSamples b count = .ok samples) :
    ∃ box, (g.pointToLonLatBox b count).result = .ok box ∧
      box.IsHullOf samples g.tryPointToLonLat ∧ box.LiesIn g.window := by
  obtain ⟨box, spanned, hull, liesIn⟩ := g.exists_spanOf_lonLats samples id
  refine ⟨box, ?_, hull, liesIn⟩
  cases b with
  | empty => contradiction
  | span =>
    unfold pointToLonLatBox
    rw [if_pos projected, Mapping.result_sampleBox sampled]
    exact spanned

theorem lonLatToPointBox_spec (projected : g.isProjected = true) {b : Box α} (full : b.isEmpty = false)
    {count : Int} {samples : List (Point α)} (sampled : continuousSamples b count = .ok samples) :
    ∃ box, (g.lonLatToPointBox b count).result = .ok box ∧
      box.IsHullOf samples g.tryLonLatToPoint := by
  obtain ⟨box, converted, hull⟩ :=
    Mapping.exists_sampleBox full sampled g.engine.tryForward g.wrapped id
  simp only [Option.map_id, id] at hull
  refine ⟨box, ?_, hull⟩
  unfold lonLatToPointBox
  rw [if_pos projected]
  exact converted

/-- A box with ordered bounds has a pixel box, empty if it is empty itself. -/
theorem exists_pointToPixelBox (g : GeoReference α) (points : Box α) :
    ∃ pixels, g.pointToPixelBox points = .ok pixels ∧ pixels.isEmpty = points.isEmpty := by
  obtain ⟨ordered, isEmpty⟩ := Mapping.transformCorners_spec points g.pointToPixel
  obtain ⟨pixels, grown, same, _⟩ := ordered.exists_growToInt
  exact ⟨pixels, grown, same.trans isEmpty⟩

/-- Conversions of boxes by a projected georeference. A pixel box with whole bounds and an extent
both ways is converted to the hull of what its samples are converted to, unless no grid reaches
that far and it has no samples; other boxes to the hull of what their continuous samples are
converted to, and to the pixel box of that. A box of longitudes and latitudes keeps to the window in force. -/
theorem boxes_agree_with_samples (projected : g.isProjected = true) :
    (∀ x₀ y₀ x₁ y₁ : Int, x₀ < x₁ → y₀ < y₁ →
      (boxPixels (.span (ofInt x₀ : α) (ofInt y₀) (ofInt x₁) (ofInt y₁)) =
          .ok (pixelSamples x₀ y₀ x₁ y₁) ∧
        ∃ box, (g.pixelToLonLatBox (.span (ofInt x₀) (ofInt y₀) (ofInt x₁) (ofInt y₁))).result =
            .ok box ∧
          box.IsHullOf (pixelSamples x₀ y₀ x₁ y₁) (fun s => g.tryPixelToLonLat (gridPoint s)) ∧
          box.LiesIn g.window) ∨
      (areOnGrid x₀ y₀ x₁ y₁ = false ∧
        boxPixels (.span (ofInt x₀ : α) (ofInt y₀) (ofInt x₁) (ofInt y₁)) = .error .beyondGrid ∧
        (g.pixelToLonLatBox (.span (ofInt x₀) (ofInt y₀) (ofInt x₁) (ofInt y₁))).result =
          .error .beyondGrid)) ∧
    ∀ (b : Box α) (count : Int), b.isEmpty = false → 1 ≤ count →
      ∃ samples, continuousSamples b count = .ok samples ∧
        (∃ box, (g.pointToLonLatBox b count).result = .ok box ∧
          box.IsHullOf samples g.tryPointToLonLat ∧ box.LiesIn g.window) ∧
        ∃ points pixels, (g.lonLatToPointBox b count).result = .ok points ∧
          points.IsHullOf samples g.tryLonLatToPoint ∧
          g.pointToPixelBox points = .ok pixels ∧
          (g.lonLatToPixelBox b count).result = .ok pixels ∧
          (pixels.isEmpty = true ↔ ∀ s ∈ samples, g.tryLonLatToPoint s = none) := by
  constructor
  · intro x₀ y₀ x₁ y₁ wide high
    rw [Mapping.boxPixels_ofInt]
    cases onGrid : areOnGrid x₀ y₀ x₁ y₁ with
    | true => exact .inl ⟨rfl, pixelToLonLatBox_spec projected wide high onGrid⟩
    | false => exact .inr ⟨rfl, rfl, pixelToLonLatBox_beyondGrid projected wide high onGrid⟩
  · intro b count full positive
    obtain ⟨samples, sampled⟩ := Mapping.exists_continuousSamples b positive
    refine ⟨samples, sampled, pointToLonLatBox_spec projected full sampled, ?_⟩
    obtain ⟨points, converted, hull⟩ := lonLatToPointBox_spec projected full sampled
    obtain ⟨pixels, grown, isEmpty⟩ := g.exists_pointToPixelBox points
    refine ⟨points, pixels, converted, hull, grown, ?_, ?_⟩
    · unfold lonLatToPixelBox
      rw [if_pos projected]
      exact Logged.result_bind_eq_ok.mpr ⟨points, converted, grown⟩
    · rw [isEmpty]
      exact hull.isEmpty_iff

/-- The image is a disk; what lies beyond it is not converted. -/
theorem boxes_agree_on_disk :
    ∃ g : GeoReference ℚ,
      (make Projection.Parabolic.provider { projection := some "+proj=sinu +disk=2" }).result = .ok g ∧
      g.isProjected = true ∧
      ∃ box, (g.pixelToLonLatBox (.span 0 0 4 1)).result = .ok box ∧
        box.IsHullOf (pixelSamples 0 0 4 1) (fun s => g.tryPixelToLonLat (gridPoint s)) ∧
        box.LiesIn g.window := by
  have runs : ((make (α := ℚ) Projection.Parabolic.provider
      { projection := some "+proj=sinu +disk=2" }).result.toOption.any
        fun g => g.isProjected) = true := by
    decide +kernel
  obtain ⟨g, made, projected⟩ := exists_of_toOption_any runs
  refine ⟨g, made, projected, ?_⟩
  rcases (boxes_agree_with_samples projected).1 0 0 4 1 (by decide) (by decide) with
    ⟨_, converted⟩ | ⟨beyond, _⟩
  · exact converted
  · exact absurd beyond (by decide)

end GeoReference

end GeoRaster
