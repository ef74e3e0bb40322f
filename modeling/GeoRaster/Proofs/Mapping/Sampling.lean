import GeoRaster.Proofs.Box

/-! Boxes of sampled images. Failures are left out first and images are finished afterwards, column by
column in effect; in exact arithmetic the box is the hull of what the samples are mapped to one
by one. -/
namespace GeoRaster

namespace Box

variable {α β : Type} [ExactScalar α]

/-- The hull of what a partial map makes of some samples, empty if it makes nothing of any. -/
structure IsHullOf (box : Box α) (samples : List β) (f : β → Option (Point α)) : Prop where
  hull : box.IsHull fun q => ∃ s ∈ samples, f s = some q
  isEmpty_iff : box.isEmpty = true ↔ ∀ s ∈ samples, f s = none

theorem isHullOf_of_isHull {box : Box α} {samples : List β} {f : β → Option (Point α)}
    (hull : box.IsHull fun q => ∃ s ∈ samples, f s = some q) : box.IsHullOf samples f := by
  refine ⟨hull, hull.isEmpty_iff.trans ?_⟩
  constructor
  · intro none s member
    cases image : f s with
    | none => rfl
    | some q => exact absurd ⟨s, member, image⟩ (none q)
  · rintro none q ⟨s, member, image⟩
    rw [none s member] at image
    contradiction

end Box

namespace Mapping

open Scalar (ofInt)

section AnyArithmetic

variable {α : Type} [Scalar α]

theorem result_boxOfImages (samples : List (Point α)) (f : Point α → Option (Point α))
    (finish : Point α → Point α) :
    (boxOfImages samples f finish).result =
      spanOf (samples.filterMap fun s => (f s).map finish) := by
  unfold boxOfImages
  rw [← List.map_filterMap]
  simp only [Logged.result_bind, Logged.result_ofExcept]
  cases spanOf ((samples.filterMap f).map finish) with
  | error fault => rfl
  | ok box =>
    simp only [Except.bind]
    split <;> rfl

/-- Samples of boxes with bounds are put through the preparing map, the partial map and the
finishing map one by one. -/
theorem result_sampleBox {minX minY maxX maxY : α} {count : Int} {samples : List (Point α)}
    (sampled : continuousSamples (.span minX minY maxX maxY) count = .ok samples)
    (f : Point α → Option (Point α)) (prepare finish : Point α → Point α) :
    (sampleBox (.span minX minY maxX maxY) f count prepare finish).result =
      spanOf (samples.filterMap fun s => (f (prepare s)).map finish) := by
  simp only [sampleBox, sampled, Logged.result_bind, Logged.result_ofExcept, Except.bind,
    result_boxOfImages, List.filterMap_map]
  rfl

theorem exists_continuousSamples (b : Box α) {count : Int} (positive : 1 ≤ count) :
    ∃ samples, continuousSamples b count = .ok samples := by
  unfold continuousSamples
  rw [if_neg (by omega)]
  exact ⟨_, rfl⟩

/-! ### Maps with the same finished images -/

section Congruence

variable {f f' : Point α → Option (Point α)} {finish : Point α → Point α}

theorem boxOfImages_congr {samples : List (Point α)}
    (same : ∀ s ∈ samples, (f s).map finish = (f' s).map finish) :
    boxOfImages samples f finish = boxOfImages samples f' finish := by
  have images : (samples.filterMap f).map finish = (samples.filterMap f').map finish := by
    rw [List.map_filterMap, List.map_filterMap]
    exact List.filterMap_congr same
  have counts : (samples.filterMap f).length = (samples.filterMap f').length := by
    simpa only [List.length_map] using congrArg List.length images
  simp only [boxOfImages, images, counts]

theorem samplePixels_congr (same : ∀ pixel, (f pixel).map finish = (f' pixel).map finish) (b : Box α) :
    samplePixels b f finish = samplePixels b f' finish := by
  simp only [samplePixels, boxOfImages_congr fun s _ => same s]

theorem sampleBox_congr {prepare : Point α → Point α}
    (same : ∀ p, (f (prepare p)).map finish = (f' (prepare p)).map finish) (b : Box α) (count : Int) :
    sampleBox b f count prepare finish = sampleBox b f' count prepare finish := by
  have images : ∀ samples : List (Point α), boxOfImages (samples.map prepare) f finish =
      boxOfImages (samples.map prepare) f' finish := fun samples =>
    boxOfImages_congr (List.forall_mem_map.mpr fun p _ => same p)
  simp only [sampleBox, images]

end Congruence

end AnyArithmetic

variable {α : Type} [ExactScalar α]

/-- What samples are mapped to has a box, the hull of it, whose bounds are reached. -/
theorem spanOf_filterMap_spec {β : Type} (samples : List β) (f : β → Option (Point α)) :
    ∃ box, spanOf (samples.filterMap f) = .ok box ∧ box.IsHullOf samples f ∧
      box.Reached fun q => ∃ s ∈ samples, f s = some q := by
  obtain ⟨box, spanned, contains, reached⟩ := spanOf_spec (samples.filterMap f)
  simp only [List.mem_filterMap] at contains reached
  exact ⟨box, spanned, Box.isHullOf_of_isHull (Box.isHull_of_reached contains reached), reached⟩

/-- Sampling a box that is not empty gives the hull of what its samples are mapped to. -/
theorem exists_sampleBox {b : Box α} (full : b.isEmpty = false) {count : Int} {samples : List (Point α)}
    (sampled : continuousSamples b count = .ok samples) (f : Point α → Option (Point α))
    (prepare finish : Point α → Point α) :
    ∃ box, (sampleBox b f count prepare finish).result = .ok box ∧
      box.IsHullOf samples fun s => (f (prepare s)).map finish := by
  obtain ⟨box, spanned, hull, _⟩ := spanOf_filterMap_spec samples fun s => (f (prepare s)).map finish
  refine ⟨box, ?_, hull⟩
  cases b with
  | empty => contradiction
  | span =>
    rw [result_sampleBox sampled]
    exact spanned

theorem wholePart_ofInt (n : Int) : Box.wholePart (ofInt n : α) = .ok n := by
  unfold Box.wholePart Scalar.truncate? Scalar.ceil?
  split
  · show (Except.ok (-⌊-(n : α)⌋)).mapError _ = _
    rw [Int.floor_neg, Int.ceil_intCast, neg_neg]
    rfl
  · show (Except.ok ⌊(n : α)⌋).mapError _ = _
    rw [Int.floor_intCast]
    rfl

/-- Whether a grid reaches as far as the bounds of a pixel box. -/
def areOnGrid (x₀ y₀ x₁ y₁ : Int) : Bool :=
  isOnGrid x₀ && isOnGrid y₀ && isOnGrid x₁ && isOnGrid y₁

theorem gridCorners_ofInt (x₀ y₀ x₁ y₁ : Int) :
    gridCorners (ofInt x₀ : α) (ofInt y₀) (ofInt x₁) (ofInt y₁) =
      if areOnGrid x₀ y₀ x₁ y₁ then .ok ((x₀, y₀), (x₁, y₁)) else .error .beyondGrid := by
  unfold gridCorners
  simp only [wholePart_ofInt]
  rfl

/-- The pixels of a box with whole bounds, if a grid reaches that far. -/
theorem boxPixels_ofInt (x₀ y₀ x₁ y₁ : Int) :
    boxPixels (.span (ofInt x₀ : α) (ofInt y₀) (ofInt x₁) (ofInt y₁)) =
      if areOnGrid x₀ y₀ x₁ y₁ then .ok (pixelSamples x₀ y₀ x₁ y₁) else .error .beyondGrid := by
  simp only [boxPixels, Box.minX, Box.minY, Box.maxX, Box.maxY, gridCorners_ofInt]
  split <;> rfl

/-- The diagonals between whole bounds, if a grid reaches that far. -/
theorem diagonalLines_ofInt (x₀ y₀ x₁ y₁ : Int) :
    diagonalLines (ofInt x₀ : α) (ofInt y₀) (ofInt x₁) (ofInt y₁) =
      if areOnGrid x₀ y₀ x₁ y₁ then .ok (LineWalk.diagonals x₀ y₀ x₁ y₁)
      else .error .beyondGrid := by
  rw [diagonalLines, gridCorners_ofInt]
  split <;> rfl

/-- Pixel boxes with whole bounds are not taken for empty if they have an extent both ways. -/
theorem result_samplePixels {x₀ y₀ x₁ y₁ : Int} (wide : x₀ < x₁) (high : y₀ < y₁)
    (f : Point α → Option (Point α)) (finish : Point α → Point α) :
    (samplePixels (.span (ofInt x₀) (ofInt y₀) (ofInt x₁) (ofInt y₁)) f finish).result =
      if areOnGrid x₀ y₀ x₁ y₁ then
        spanOf ((pixelSamples x₀ y₀ x₁ y₁).filterMap fun s => (f (gridPoint s)).map finish)
      else .error .beyondGrid := by
  have extent : ∀ {a b : Int}, a < b → ((ofInt b - ofInt a : α) == ofInt 0) = false := by
    intro a b less
    rw [← Bool.not_eq_true, ExactScalar.beq_iff, ExactScalar.ofInt_eq, ExactScalar.ofInt_eq,
      ExactScalar.ofInt_eq, Int.cast_zero, sub_eq_zero, Int.cast_inj]
    omega
  unfold samplePixels
  simp only [Box.isEmpty, Box.width, Box.height, extent wide, extent high, Bool.or_self,
    Bool.false_eq_true, if_false, boxPixels_ofInt]
  split
  · simp only [Logged.result_bind, Logged.result_ofExcept, Except.bind, result_boxOfImages,
      List.filterMap_map]
    rfl
  · rfl

end Mapping

end GeoRaster
