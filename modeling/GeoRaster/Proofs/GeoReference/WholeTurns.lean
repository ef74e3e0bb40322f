import GeoRaster.Proofs.Longitude
import GeoRaster.GeoReference.BoxConversion
import GeoRaster.Projection.Parabolic

/-! Longitudes are taken modulo whole turns. A box is sampled where it lies and its samples are wrapped
afterwards: moving the box by whole turns moves all of its samples, and wrapping brings each of
them to where it was, also where the box reaches across the end of the window. -/
namespace GeoRaster

open Scalar (ofInt)

variable {α : Type} [ExactScalar α]

/-- The point at a longitude that is whole turns further east. -/
def Point.turned (n : ℤ) (p : Point α) : Point α :=
  ⟨p.x + ofInt (n * 360), p.y⟩

namespace Box

/-- The box of longitudes and latitudes that is whole turns further east. -/
def turned (n : ℤ) : Box α → Box α
  | empty => empty
  | span minX minY maxX maxY => span (minX + ofInt (n * 360)) minY (maxX + ofInt (n * 360)) maxY

/-- Turns do not change an extent. -/
theorem width_turned (n : ℤ) (b : Box α) : (b.turned n).width = b.width := by
  cases b with
  | empty => rfl
  | span minX minY maxX maxY => exact add_sub_add_right_eq_sub maxX minX _

end Box

namespace Mapping

open Box

theorem continuousSamples_turned (n : ℤ) (minX minY maxX maxY : α) (count : Int) :
    continuousSamples ((span minX minY maxX maxY).turned n) count =
      (continuousSamples (span minX minY maxX maxY) count).map (List.map (Point.turned n)) := by
  have along : ∀ k : α, minX + ofInt (n * 360) + k = minX + k + ofInt (n * 360) :=
    fun k => add_right_comm _ _ k
  have across : ∀ k : α, k + (minX + ofInt (n * 360)) = k + minX + ofInt (n * 360) :=
    fun k => (add_assoc k _ _).symm
  unfold continuousSamples
  split
  · rfl
  · rw [width_turned]
    simp only [turned, Box.minX, Box.minY, Box.maxX, Box.maxY, height, Except.map, List.map_append,
      List.map_map, Function.comp_def, Point.turned, along, across]

/-- Samples that are prepared alike wherever they are turned to have the same box of images. -/
theorem sampleBox_turned (n : ℤ) (b : Box α) (f : Point α → Option (Point α)) (count : Int)
    {prepare : Point α → Point α} (alike : ∀ p : Point α, prepare (p.turned n) = prepare p)
    (finish : Point α → Point α) :
    sampleBox (b.turned n) f count prepare finish = sampleBox b f count prepare finish := by
  cases b with
  | empty => rfl
  | span minX minY maxX maxY =>
    have samples := continuousSamples_turned n minX minY maxX maxY count
    simp only [turned] at samples ⊢
    simp only [sampleBox, samples]
    cases continuousSamples (span minX minY maxX maxY) count with
    | error fault => rfl
    | ok samples =>
      have same : (samples.map (Point.turned n)).map prepare = samples.map prepare := by
        rw [List.map_map]
        exact List.map_congr_left fun p _ => alike p
      simp only [Except.map, Logged.ofExcept_ok, pure_bind, same]

end Mapping

namespace GeoReference

/-- Wherever turns lead, the window brings a longitude back. -/
theorem wrapped_turned (g : GeoReference α) (n : ℤ) (lonLat : Point α) :
    g.wrapped (lonLat.turned n) = g.wrapped lonLat := by
  rw [wrapped, wrapped, Point.turned, ExactScalar.ofInt_eq, Int.cast_mul, Int.cast_ofNat,
    Longitude.wrap_add_turns]

theorem lonLatToPoint_turned (g : GeoReference α) (n : ℤ) (lonLat : Point α) :
    g.lonLatToPoint (lonLat.turned n) = g.lonLatToPoint lonLat := by
  rw [lonLatToPoint, lonLatToPoint, wrapped_turned]

theorem lonLatToPointBox_turned {g : GeoReference α} (projected : g.isProjected = true) (n : ℤ)
    (b : Box α) (count : Int) :
    g.lonLatToPointBox (b.turned n) count = g.lonLatToPointBox b count := by
  rw [lonLatToPointBox, lonLatToPointBox, if_pos projected, if_pos projected,
    Mapping.sampleBox_turned n b _ count (g.wrapped_turned n)]

/-- Whole turns make no difference to what longitudes and latitudes are converted to: the result is the
same, and so is the failure if there is none, for single coordinates and for boxes that are
sampled, however many of their samples are skipped. -/
theorem conversions_modulo_turns (g : GeoReference α) (n : ℤ) :
    (∀ lonLat : Point α,
      g.lonLatToPoint (lonLat.turned n) = g.lonLatToPoint lonLat ∧
        g.lonLatToPixel (lonLat.turned n) = g.lonLatToPixel lonLat ∧
        g.tryLonLatToPoint (lonLat.turned n) = g.tryLonLatToPoint lonLat) ∧
      (g.isProjected = true → ∀ (b : Box α) (count : Int),
        g.lonLatToPointBox (b.turned n) count = g.lonLatToPointBox b count ∧
          g.lonLatToPixelBox (b.turned n) count = g.lonLatToPixelBox b count) := by
  constructor
  · intro lonLat
    have toPoint := g.lonLatToPoint_turned n lonLat
    refine ⟨toPoint, ?_, ?_⟩
    · rw [lonLatToPixel, lonLatToPixel, toPoint]
    · rw [tryLonLatToPoint, tryLonLatToPoint, wrapped_turned]
  · intro projected b count
    have toPointBox := lonLatToPointBox_turned projected n b count
    refine ⟨toPointBox, ?_⟩
    rw [lonLatToPixelBox, lonLatToPixelBox, if_pos projected, if_pos projected, toPointBox]

/-- The box reaches across the start of the window, and its samples west of that have no image. -/
theorem conversions_modulo_turns_across_edge :
    ∃ g : GeoReference ℚ,
      (make Projection.Parabolic.provider
        { projection := some "+proj=sinu +maxlon=100" }).result = .ok g ∧
      g.window = .around180 ∧ g.tryLonLatToPoint ⟨-10, 1⟩ = none ∧
      (g.tryLonLatToPoint ⟨370, 1⟩).isSome = true ∧
      g.lonLatToPointBox (.span 350 (-1) 370 1) 2 = g.lonLatToPointBox (.span (-10) (-1) 10 1) 2 := by
  have runs : ((make (α := ℚ) Projection.Parabolic.provider
      { projection := some "+proj=sinu +maxlon=100" }).result.toOption.any fun g =>
        g.isProjected && decide (g.window = .around180) && (g.tryLonLatToPoint ⟨-10, 1⟩).isNone &&
          (g.tryLonLatToPoint ⟨10, 1⟩).isSome) = true := by
    decide +kernel
  obtain ⟨g, made, checked⟩ := exists_of_toOption_any runs
  simp only [Bool.and_eq_true, decide_eq_true_eq, Option.isNone_iff_eq_none] at checked
  obtain ⟨⟨⟨projected, window⟩, hidden⟩, seen⟩ := checked
  obtain ⟨points, boxes⟩ := g.conversions_modulo_turns 1
  have turnedPoint : (⟨10, 1⟩ : Point ℚ).turned 1 = ⟨370, 1⟩ := by
    norm_num [Point.turned, ExactScalar.ofInt_eq]
  have turnedBox : (Box.span (-10) (-1) 10 1 : Box ℚ).turned 1 = .span 350 (-1) 370 1 := by
    norm_num [Box.turned, ExactScalar.ofInt_eq]
  refine ⟨g, made, window, hidden, ?_, ?_⟩
  · rw [← turnedPoint, (points _).2.2]
    exact seen
  · rw [← turnedBox]
    exact (boxes projected _ 2).1

end GeoReference

end GeoRaster
