import GeoRaster.Proofs.Mapping.Corners

/-! Corners under projective maps. A projective map divides two linear forms by a third one. Where that one
has the same sign in all corners of a box, it has it all over the box, and a bound on a quotient is
a bound on one more linear form: so the quotients take their extremes in the corners, too. -/
namespace GeoRaster

variable {α : Type} [ExactScalar α]

namespace Box

variable {b : Box α} {p : Point α}

/-- A linear form that is positive in the corners of a box is positive in the box. -/
theorem value_pos_of_corners {form : Row α} (positive : ∀ q ∈ b.corners, 0 < form.value q)
    (inside : b.contains p = true) : 0 < form.value p := by
  obtain ⟨q, corner, le⟩ := exists_corner_value_le inside form
  exact (positive q corner).trans_le le

/-- A quotient of linear forms is nowhere in a box less than in all corners. -/
theorem le_div_of_corners {num den : Row α} (positive : ∀ q ∈ b.corners, 0 < den.value q) {low : α}
    (bound : ∀ q ∈ b.corners, low ≤ num.value q / den.value q) (inside : b.contains p = true) :
    low ≤ num.value p / den.value p := by
  -- the numerator less the bounded denominator is one form, not negative in the corners
  obtain ⟨q, corner, le⟩ := exists_corner_value_le inside (num.minus (den.scale low))
  have atCorner := (le_div_iff₀ (positive q corner)).mp (bound q corner)
  simp only [Row.value_minus, Row.value_scale] at le
  rw [le_div_iff₀ (value_pos_of_corners positive inside)]
  linarith

theorem div_le_of_corners {num den : Row α} (positive : ∀ q ∈ b.corners, 0 < den.value q) {high : α}
    (bound : ∀ q ∈ b.corners, num.value q / den.value q ≤ high) (inside : b.contains p = true) :
    num.value p / den.value p ≤ high := by
  have opposite : ∀ q, (num.scale (-1)).value q / den.value q = -(num.value q / den.value q) := by
    intro q
    rw [Row.value_scale, neg_one_mul, neg_div]
  have bound : ∀ q ∈ b.corners, -high ≤ (num.scale (-1)).value q / den.value q := by
    intro q corner
    rw [opposite]
    exact neg_le_neg (bound q corner)
  have above := le_div_of_corners positive bound inside
  rw [opposite] at above
  exact neg_le_neg_iff.mp above

theorem contains_of_mem_corners (ordered : b.Ordered) (full : b.isEmpty = false) (corner : p ∈ b.corners) :
    b.contains p = true := by
  cases b with
  | empty => contradiction
  | span minX minY maxX maxY =>
    obtain ⟨atX, atY⟩ := mem_corners_iff.mp corner
    rw [contains_span_iff]
    rcases atX with atX | atX <;> rcases atY with atY | atY <;> rw [atX, atY]
    · exact ⟨le_refl _, ordered.1, le_refl _, ordered.2⟩
    · exact ⟨le_refl _, ordered.1, ordered.2, le_refl _⟩
    · exact ⟨ordered.1, le_refl _, le_refl _, ordered.2⟩
    · exact ⟨ordered.1, le_refl _, ordered.2, le_refl _⟩

end Box

namespace Matrix3

variable {m : Matrix3 α} {b : Box α}

/-- The denominator of a matrix has the same sign in all corners of a box, and is zero in none. -/
def KeepsSign (m : Matrix3 α) (b : Box α) : Prop :=
  (∀ q ∈ b.corners, 0 < m.denominator q) ∨ ∀ q ∈ b.corners, m.denominator q < 0

instance (m : Matrix3 α) (b : Box α) : Decidable (m.KeepsSign b) :=
  inferInstanceAs (Decidable (_ ∨ _))

/-- Up to a factor, the sign that is kept is positive. -/
theorem KeepsSign.exists_scale (keeps : m.KeepsSign b) :
    ∃ k : α, k ≠ 0 ∧ ∀ q ∈ b.corners, 0 < (m.scale k).denominator q := by
  rcases keeps with positive | negative
  · refine ⟨1, one_ne_zero, fun q corner => ?_⟩
    rw [denominator_scale, one_mul]
    exact positive q corner
  · refine ⟨-1, neg_ne_zero.mpr one_ne_zero, fun q corner => ?_⟩
    rw [denominator_scale, neg_one_mul]
    exact neg_pos.mpr (negative q corner)

/-- No point of the box is without an image. -/
theorem KeepsSign.denominator_ne_zero (keeps : m.KeepsSign b) {p : Point α}
    (inside : b.contains p = true) : m.denominator p ≠ 0 := by
  obtain ⟨k, _, positive⟩ := keeps.exists_scale
  have inBox : 0 < (m.scale k).denominator p := Box.value_pos_of_corners positive inside
  rw [denominator_scale] at inBox
  exact right_ne_zero_of_mul inBox.ne'

/-- A box that contains the images of a box's corners contains those of all its points. -/
theorem KeepsSign.contains_apply (keeps : m.KeepsSign b) {image : Box α}
    (corners : ∀ q ∈ b.corners, image.contains (m.apply q) = true) {p : Point α}
    (inside : b.contains p = true) : image.contains (m.apply p) = true := by
  obtain ⟨k, nonzero, positive⟩ := keeps.exists_scale
  simp only [← apply_scale nonzero m] at corners ⊢
  obtain ⟨q, corner, _⟩ := Box.exists_corner_value_le inside m.bottom
  cases image with
  | empty => exact absurd (corners q corner) (by simp)
  | span minX minY maxX maxY =>
    simp only [Box.contains_span_iff] at corners ⊢
    exact ⟨Box.le_div_of_corners positive (fun q corner => (corners q corner).1) inside,
      Box.div_le_of_corners positive (fun q corner => (corners q corner).2.1) inside,
      Box.le_div_of_corners positive (fun q corner => (corners q corner).2.2.1) inside,
      Box.div_le_of_corners positive (fun q corner => (corners q corner).2.2.2) inside⟩

/-- The corners of a box span the hull of the images of all its points. -/
theorem KeepsSign.isHull_transformCorners (keeps : m.KeepsSign b) (ordered : b.Ordered) :
    (Mapping.transformCorners b m.apply).IsHull
      fun q => ∃ p, b.contains p = true ∧ m.apply p = q := by
  cases full : b.isEmpty with
  | false =>
    exact Mapping.isHull_transformCorners_of_covers full
      (fun q corner => Box.contains_of_mem_corners ordered full corner)
      fun _ corners p inside => keeps.contains_apply corners inside
  | true =>
    cases b with
    | empty => exact Box.isHull_of_reached (by simp) trivial
    | span => contradiction

end Matrix3

end GeoRaster
