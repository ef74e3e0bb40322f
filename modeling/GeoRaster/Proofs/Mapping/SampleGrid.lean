import GeoRaster.Proofs.Mapping.Corners

/-! Which samples a box has. The grid that divides each side of a box into as many steps as there are
samples on an edge carries all of them: they are its places on the border and on both diagonals,
and no others. Rows and columns of samples each end a step before their last corner; the
diagonals supply the corners that are missed. -/
namespace GeoRaster.Mapping

open Box Scalar

/-- A place of a grid that is on its border or on one of its diagonals. -/
structure IsSampled (count i j : Int) : Prop where
  across : 0 ≤ i ∧ i ≤ count
  up : 0 ≤ j ∧ j ≤ count
  marked : (i = 0 ∨ i = count) ∨ (j = 0 ∨ j = count) ∨ i = j ∨ i + j = count

/-- The half-open rows and columns and the walks along the diagonals meet the border and the diagonals. -/
theorem isSampled_iff {count i j : Int} (positive : 1 ≤ count) :
    IsSampled count i j ↔
      (0 ≤ i ∧ i < count) ∧ (j = 0 ∨ j = count) ∨ (i = 0 ∨ i = count) ∧ (0 ≤ j ∧ j < count) ∨
        (i, j) ∈ LineWalk.diagonals 0 0 count count := by
  rw [LineWalk.mem_diagonals_square (by omega)]
  constructor
  · rintro ⟨across, up, border | border | diagonal⟩
    · omega
    · omega
    · exact .inr (.inr ⟨across, diagonal⟩)
  · rintro (⟨between, border⟩ | ⟨border, between⟩ | ⟨between, diagonal⟩)
    · exact ⟨by omega, by omega, .inr (.inl border)⟩
    · exact ⟨by omega, by omega, .inl border⟩
    · exact ⟨between, by omega, .inr (.inr diagonal)⟩

theorem length_range (start stop : Int) : (range start stop).length = (stop - start).toNat := by
  rw [range, List.length_map, List.length_range]

variable {α : Type} [ExactScalar α]

theorem length_continuousSamples {b : Box α} {count : Int} (positive : 1 ≤ count)
    {samples : List (Point α)} (sampled : continuousSamples b count = .ok samples) :
    (samples.length : Int) = 4 * count + 2 * (count + 1) := by
  rw [continuousSamples, if_neg (by omega)] at sampled
  obtain rfl := Except.ok.inj sampled
  have diagonals : ((LineWalk.diagonals 0 0 count count).length : Int) = 2 * (count + 1) :=
    LineWalk.length_diagonals_square (by omega)
  simp only [List.length_append, List.length_map, length_range]
  omega

/-- The point of a box at a place of the grid that divides its sides into steps. -/
def gridPlace (b : Box α) (count i j : Int) : Point α :=
  ⟨b.minX + ofInt i * (b.width / ofInt count), b.minY + ofInt j * (b.height / ofInt count)⟩

theorem mem_continuousSamples {b : Box α} (full : b.isEmpty = false) {count : Int}
    (positive : 1 ≤ count) {samples : List (Point α)}
    (sampled : continuousSamples b count = .ok samples) (s : Point α) :
    s ∈ samples ↔ ∃ i j, IsSampled count i j ∧ s = gridPlace b count i j := by
  cases b with
  | empty => contradiction
  | span minX minY maxX maxY =>
    rw [mem_continuousSamples_iff positive sampled]
    constructor
    · rintro ⟨i, j, place, edges⟩
      exact ⟨i, j, (isSampled_iff positive).mpr edges, place⟩
    · rintro ⟨i, j, isSampled, place⟩
      exact ⟨i, j, place, (isSampled_iff positive).mp isSampled⟩

/-- The samples of a box are those places of its grid that are on the border or on a diagonal, the corners
among them and none outside; fewer than one sample to an edge are refused. -/
theorem continuousSamples_exact (b : Box α) (count : Int) :
    (count < 1 → continuousSamples b count = .error (.sampleCount count)) ∧
      (b.Ordered → b.isEmpty = false → 1 ≤ count →
        ∃ samples, continuousSamples b count = .ok samples ∧
          (samples.length : Int) = 4 * count + 2 * (count + 1) ∧
          (∀ s, s ∈ samples ↔ ∃ i j, IsSampled count i j ∧ s = gridPlace b count i j) ∧
          (∀ corner ∈ b.corners, corner ∈ samples) ∧
          ∀ s ∈ samples, b.contains s = true) := by
  constructor
  · intro tooFew
    exact if_pos tooFew
  · intro ordered full positive
    obtain ⟨samples, sampled⟩ := exists_continuousSamples b positive
    obtain ⟨corners, inside⟩ := continuousSamples_spec ordered full positive sampled
    exact ⟨samples, sampled, length_continuousSamples positive sampled,
      mem_continuousSamples full positive sampled, corners, inside⟩

/-- A box without height keeps its samples on the one row that it has. -/
theorem continuousSamples_flat :
    continuousSamples (span 0 5 6 5 : Box ℚ) 0 = .error (.sampleCount 0) ∧
      ∃ samples, continuousSamples (span 0 5 6 5 : Box ℚ) 3 = .ok samples ∧ samples.length = 20 ∧
        (⟨6, 5⟩ ∈ samples ∧ ⟨4, 5⟩ ∈ samples) ∧ ∀ s ∈ samples, s.y = 5 := by
  have ordered : (span 0 5 6 5 : Box ℚ).Ordered := ⟨by norm_num, le_refl 5⟩
  refine ⟨(continuousSamples_exact _ 0).1 (by decide), ?_⟩
  obtain ⟨samples, sampled, length, marked, corners, inside⟩ :=
    (continuousSamples_exact (span 0 5 6 5 : Box ℚ) 3).2 ordered rfl (by decide)
  have lastCorner := corners ⟨6, 5⟩ (mem_corners_iff.mpr ⟨.inr rfl, .inl rfl⟩)
  have onDiagonal : (⟨4, 5⟩ : Point ℚ) = gridPlace (span 0 5 6 5) 3 2 1 := by
    simp only [gridPlace, Box.minX, Box.minY, width, height, ExactScalar.ofInt_eq]
    norm_num
  refine ⟨samples, sampled, by omega, ⟨lastCorner, ?_⟩, ?_⟩
  · exact (marked _).mpr ⟨2, 1, ⟨by decide, by decide, by decide⟩, onDiagonal⟩
  · intro s member
    obtain ⟨_, _, below, above⟩ := contains_span_iff.mp (inside s member)
    exact le_antisymm above below

end GeoRaster.Mapping
