import GeoRaster.Proofs.LineWalk.Segments
import GeoRaster.Proofs.Mapping.Sampling
import GeoRaster.Proofs.Matrix

/-! Corners against samples. A linear form takes its extremes over a box in the corners; the samples of a
box reach its corners and do not leave it. So for an affine map the box of the corners' images
is the box of all samples' images. -/
namespace GeoRaster

open Scalar (ofInt)

variable {α : Type} [ExactScalar α]

/-- A coordinate between two bounds can be moved to one of them without raising its multiple. -/
theorem exists_bound_mul_le {low high x : α} (above : low ≤ x) (below : x ≤ high) (k : α) :
    ∃ bound, (bound = low ∨ bound = high) ∧ bound * k ≤ x * k := by
  rcases le_total 0 k with rising | falling
  · exact ⟨low, .inl rfl, mul_le_mul_of_nonneg_right above rising⟩
  · exact ⟨high, .inr rfl, mul_le_mul_of_nonpos_right below falling⟩

namespace Box

theorem mem_corners_iff {minX minY maxX maxY : α} {p : Point α} :
    p ∈ (span minX minY maxX maxY).corners ↔
      (p.x = minX ∨ p.x = maxX) ∧ (p.y = minY ∨ p.y = maxY) := by
  obtain ⟨x, y⟩ := p
  simp only [corners, Box.minX, Box.minY, Box.maxX, Box.maxY, List.mem_cons, Point.mk.injEq,
    List.not_mem_nil, or_false]
  tauto

/-- A linear form is nowhere in a box less than in all corners. -/
theorem exists_corner_value_le {b : Box α} {p : Point α} (inside : b.contains p = true)
    (form : Row α) : ∃ q ∈ b.corners, form.value q ≤ form.value p := by
  cases b with
  | empty => simp at inside
  | span minX minY maxX maxY =>
    obtain ⟨left, right, below, above⟩ := contains_span_iff.mp inside
    obtain ⟨x, atX, leX⟩ := exists_bound_mul_le left right form.a
    obtain ⟨y, atY, leY⟩ := exists_bound_mul_le below above form.b
    refine ⟨⟨x, y⟩, mem_corners_iff.mpr ⟨atX, atY⟩, ?_⟩
    unfold Row.value
    linarith

theorem exists_corner_le_value {b : Box α} {p : Point α} (inside : b.contains p = true)
    (form : Row α) : ∃ q ∈ b.corners, form.value p ≤ form.value q := by
  obtain ⟨q, corner, le⟩ := exists_corner_value_le inside ⟨-form.a, -form.b, -form.c⟩
  refine ⟨q, corner, ?_⟩
  simp only [Row.value] at le ⊢
  linarith

end Box

/-- A map of the plane whose coordinates are linear forms. -/
def IsAffine (f : Point α → Point α) : Prop :=
  ∃ across up : Row α, ∀ p, f p = ⟨across.value p, up.value p⟩

namespace Mapping

open Box

/-- A box that contains the images of a box's corners under an affine map contains those of all its
points. -/
theorem contains_of_corners {f : Point α → Point α} (affine : IsAffine f) {b image : Box α}
    (corners : ∀ q ∈ b.corners, image.contains (f q) = true) {p : Point α}
    (inside : b.contains p = true) : image.contains (f p) = true := by
  obtain ⟨across, up, maps⟩ := affine
  simp only [maps] at corners ⊢
  obtain ⟨l, cornerL, left⟩ := exists_corner_value_le inside across
  obtain ⟨r, cornerR, right⟩ := exists_corner_le_value inside across
  obtain ⟨d, cornerD, below⟩ := exists_corner_value_le inside up
  obtain ⟨u, cornerU, above⟩ := exists_corner_le_value inside up
  cases image with
  | empty => exact absurd (corners l cornerL) (by simp)
  | span minX minY maxX maxY =>
    have atL := contains_span_iff.mp (corners l cornerL)
    have atR := contains_span_iff.mp (corners r cornerR)
    have atD := contains_span_iff.mp (corners d cornerD)
    have atU := contains_span_iff.mp (corners u cornerU)
    rw [contains_span_iff]
    exact ⟨atL.1.trans left, right.trans atR.2.1, atD.2.2.1.trans below, above.trans atU.2.2.2⟩

/-- The corners of a box span the hull of the images of some points, the corners among them, if every box
around the corners' images is one around all of these. -/
theorem isHull_transformCorners_of_covers {f : Point α → Point α} {b : Box α} (full : b.isEmpty = false)
    {samples : Point α → Prop} (corners : ∀ q ∈ b.corners, samples q)
    (covers : ∀ image : Box α, (∀ q ∈ b.corners, image.contains (f q) = true) →
      ∀ p, samples p → image.contains (f p) = true) :
    (transformCorners b f).IsHull fun q => ∃ p, samples p ∧ f p = q := by
  have spanned : transformCorners b f = ofPoints (b.corners.map f) := by
    cases b with
    | empty => contradiction
    | span => rfl
  rw [spanned]
  have hull := isHull_ofPoints (b.corners.map f)
  refine hull.extend ?_ ?_
  · intro q member
    obtain ⟨p, corner, rfl⟩ := List.mem_map.mp member
    exact ⟨p, corners p corner, rfl⟩
  · rintro q ⟨p, sampled, rfl⟩
    exact covers _ (fun c corner => hull.contains (f c) (List.mem_map_of_mem corner)) p sampled

/-- The corners of a box span the hull of the images of any of its points, the corners among them. -/
theorem isHull_transformCorners {f : Point α → Point α} (affine : IsAffine f) {b : Box α}
    (full : b.isEmpty = false) {samples : Point α → Prop} (corners : ∀ q ∈ b.corners, samples q)
    (inside : ∀ p, samples p → b.contains p = true) :
    (transformCorners b f).IsHull fun q => ∃ p, samples p ∧ f p = q :=
  isHull_transformCorners_of_covers full corners fun _ covered p sampled =>
    contains_of_corners affine covered (inside p sampled)

/-! ### Samples reach the corners and stay inside -/

theorem mem_range_iff {start stop n : Int} : n ∈ range start stop ↔ start ≤ n ∧ n < stop := by
  simp only [range, List.mem_map, List.mem_range]
  constructor
  · rintro ⟨i, below, rfl⟩
    omega
  · rintro ⟨above, below⟩
    exact ⟨(n - start).toNat, by omega, by omega⟩

/-- The coordinate after some of the even steps that lead from one bound to another. -/
def stepped (low high : α) (count i : Int) : α :=
  low + ofInt i * ((high - low) / ofInt count)

theorem stepped_zero (low high : α) (count : Int) : stepped low high count 0 = low := by
  rw [stepped, ExactScalar.ofInt_zero, zero_mul, add_zero]

theorem stepped_add {count : Int} (positive : 1 ≤ count) (low high : α) (i : Int) :
    stepped low high count (count + i) = high + ofInt i * ((high - low) / ofInt count) := by
  have nonzero : (count : α) ≠ 0 := Int.cast_ne_zero.mpr (by omega)
  simp only [stepped, ExactScalar.ofInt_eq, Int.cast_add, add_mul]
  rw [mul_div_cancel₀ _ nonzero]
  ring

theorem stepped_count {count : Int} (positive : 1 ≤ count) (low high : α) :
    stepped low high count count = high := by
  have last := stepped_add positive low high 0
  rwa [add_zero, ExactScalar.ofInt_zero, zero_mul, add_zero] at last

theorem stepped_pred {count : Int} (positive : 1 ≤ count) (low high : α) :
    stepped low high count (count - 1) = high - (high - low) / ofInt count := by
  rw [sub_eq_add_neg count, stepped_add positive, ExactScalar.ofInt_eq (-1), Int.cast_neg,
    Int.cast_one, neg_one_mul, ← sub_eq_add_neg]

theorem stepped_mono {low high : α} (ordered : low ≤ high) {count i j : Int} (nonneg : 0 ≤ count)
    (le : i ≤ j) : stepped low high count i ≤ stepped low high count j := by
  have step : 0 ≤ (high - low) / ofInt count :=
    div_nonneg (sub_nonneg.mpr ordered) (Int.cast_nonneg nonneg)
  exact add_le_add le_rfl (mul_le_mul_of_nonneg_right (Int.cast_le.mpr le) step)

/-- Steps from one bound to another stay between them. -/
theorem between_of_steps {low high : α} (ordered : low ≤ high) {count i : Int} (positive : 1 ≤ count)
    (between : 0 ≤ i ∧ i ≤ count) : low ≤ stepped low high count i ∧ stepped low high count i ≤ high := by
  have nonneg : 0 ≤ count := by omega
  have first := stepped_mono ordered nonneg between.1
  have last := stepped_mono ordered nonneg between.2
  rw [stepped_zero] at first
  rw [stepped_count positive] at last
  exact ⟨first, last⟩

/-- The bounds themselves are reached after no step and after the last one. -/
theorem exists_steps {low high x : α} {count : Int} (positive : 1 ≤ count)
    (bound : x = low ∨ x = high) : ∃ i, (i = 0 ∨ i = count) ∧ stepped low high count i = x := by
  rcases bound with rfl | rfl
  · exact ⟨0, .inl rfl, stepped_zero x high count⟩
  · exact ⟨count, .inr rfl, stepped_count positive low x⟩

section Samples

variable {minX minY maxX maxY : α} {count : Int} {samples : List (Point α)}
  (positive : 1 ≤ count) (sampled : continuousSamples (span minX minY maxX maxY) count = .ok samples)
include positive sampled

/-- The samples of a box: on its lower and upper edge and on its left and right one, a row or column of
them each, which ends a step before the corner, and the points of the diagonals. -/
theorem mem_continuousSamples_iff {s : Point α} : s ∈ samples ↔
    ∃ i j, s = ⟨stepped minX maxX count i, stepped minY maxY count j⟩ ∧
      ((0 ≤ i ∧ i < count) ∧ (j = 0 ∨ j = count) ∨ (i = 0 ∨ i = count) ∧ (0 ≤ j ∧ j < count) ∨
        (i, j) ∈ LineWalk.diagonals 0 0 count count) := by
  simp only [continuousSamples, if_neg (show ¬ count < 1 by omega), Box.minX, Box.minY, Box.maxX,
    Box.maxY, Box.width, Box.height, Except.ok.injEq] at sampled
  subst sampled
  have low (a b : α) : stepped a b count 0 = a := stepped_zero a b count
  have high (a b : α) : stepped a b count count = b := stepped_count positive a b
  simp only [List.mem_append, List.mem_map, exists_exists_and_eq_and, mem_range_iff]
  constructor
  · rintro ((((⟨i, between, rfl⟩ | ⟨i, between, rfl⟩) | ⟨j, between, rfl⟩) | ⟨j, between, rfl⟩) |
      ⟨p, diagonal, rfl⟩)
    · exact ⟨i, 0, by rw [low]; rfl, .inl ⟨between, .inl rfl⟩⟩
    · exact ⟨i, count, by rw [high]; rfl, .inl ⟨between, .inr rfl⟩⟩
    · exact ⟨0, j, by rw [low]; rfl, .inr (.inl ⟨.inl rfl, between⟩)⟩
    · exact ⟨count, j, by rw [high]; rfl, .inr (.inl ⟨.inr rfl, between⟩)⟩
    · exact ⟨p.1, p.2, by rw [stepped, stepped, add_comm, add_comm (ofInt p.2 * _)], .inr (.inr diagonal)⟩
  · rintro ⟨i, j, rfl, (⟨between, rfl | rfl⟩ | ⟨rfl | rfl, between⟩ | diagonal)⟩
    · exact .inl (.inl (.inl (.inl ⟨i, between, by rw [low]; rfl⟩)))
    · exact .inl (.inl (.inl (.inr ⟨i, between, by rw [high]; rfl⟩)))
    · exact .inl (.inl (.inr ⟨j, between, by rw [low]; rfl⟩))
    · exact .inl (.inr ⟨j, between, by rw [high]; rfl⟩)
    · exact .inr ⟨(i, j), diagonal, by rw [stepped, stepped, add_comm, add_comm (ofInt j * _)]⟩

/-- Columns of samples start and end on the edges of the box. -/
theorem edge_mem_continuousSamples {i : Int} (between : 0 ≤ i ∧ i ≤ count) {y : α}
    (bound : y = minY ∨ y = maxY) : ⟨stepped minX maxX count i, y⟩ ∈ samples := by
  obtain ⟨j, atJ, rfl⟩ := exists_steps positive bound
  refine (mem_continuousSamples_iff positive sampled).mpr ⟨i, j, rfl, ?_⟩
  rcases between.2.lt_or_eq with before | rfl
  · exact .inl ⟨⟨between.1, before⟩, atJ⟩
  · exact .inr (.inr (LineWalk.corner_mem_diagonals (.inr rfl) atJ))

/-- Samples stand in the rows and columns of the steps. -/
theorem exists_steps_of_mem {s : Point α} (member : s ∈ samples) :
    ∃ i j, (0 ≤ i ∧ i ≤ count) ∧ (0 ≤ j ∧ j ≤ count) ∧
      s = ⟨stepped minX maxX count i, stepped minY maxY count j⟩ := by
  obtain ⟨i, j, rfl, edges⟩ := (mem_continuousSamples_iff positive sampled).mp member
  refine ⟨i, j, ?_, ?_, rfl⟩ <;> rcases edges with edge | edge | diagonal
  · omega
  · omega
  · exact (LineWalk.between_of_mem_diagonals (by omega) (by omega) diagonal).1
  · omega
  · omega
  · exact (LineWalk.between_of_mem_diagonals (by omega) (by omega) diagonal).2

end Samples

/-- The continuous samples of a box: the corners are among them, and none lies outside. -/
theorem continuousSamples_spec {b : Box α} (ordered : b.Ordered) (full : b.isEmpty = false)
    {count : Int} (positive : 1 ≤ count) {samples : List (Point α)}
    (sampled : continuousSamples b count = .ok samples) :
    (∀ q ∈ b.corners, q ∈ samples) ∧ ∀ s ∈ samples, b.contains s = true := by
  cases b with
  | empty => contradiction
  | span minX minY maxX maxY =>
    constructor
    · rintro ⟨x, y⟩ corner
      obtain ⟨atX, atY⟩ := mem_corners_iff.mp corner
      obtain ⟨i, atI, rfl⟩ := exists_steps positive atX
      exact edge_mem_continuousSamples positive sampled (by omega) atY
    · intro s member
      obtain ⟨i, j, betweenX, betweenY, rfl⟩ := exists_steps_of_mem positive sampled member
      have x := between_of_steps ordered.1 positive betweenX
      have y := between_of_steps ordered.2 positive betweenY
      exact contains_span_iff.mpr ⟨x.1, x.2, y.1, y.2⟩

/-! ### The box of the samples is that of the corners -/

end Mapping

end GeoRaster
