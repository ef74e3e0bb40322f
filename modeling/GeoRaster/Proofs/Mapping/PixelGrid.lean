import GeoRaster.Proofs.Mapping.SampleGrid

/-! Which pixels a pixel box is sampled at. They are the border of the box without its last row and column,
and the diagonals of the whole box, however thin it is: rows take both ends of a column that has
two of them, and columns what is left between. The diagonals follow the straight segments between
opposite corners. -/
namespace GeoRaster.Mapping

open Box
open Scalar (ofInt)

variable {α : Type} [ExactScalar α]

/-- The diagonals between whole bounds lead from corner to corner along straight segments. -/
theorem diagonalLines_follow (x₀ y₀ x₁ y₁ : Int) :
    diagonalLines (ofInt x₀ : α) (ofInt y₀) (ofInt x₁) (ofInt y₁) =
        (if areOnGrid x₀ y₀ x₁ y₁ then .ok (LineWalk.diagonals x₀ y₀ x₁ y₁)
          else .error .beyondGrid) ∧
      ((LineWalk.diagonals x₀ y₀ x₁ y₁).length : Int) = 2 * (max |x₁ - x₀| |y₁ - y₀| + 1) ∧
      ∃ rising falling, LineWalk.diagonals x₀ y₀ x₁ y₁ = rising ++ falling ∧
        LineWalk.Follows (x₀, y₀) (x₁, y₁) rising ∧ LineWalk.Follows (x₁, y₀) (x₀, y₁) falling := by
  refine ⟨diagonalLines_ofInt x₀ y₀ x₁ y₁, ?_, _, _, rfl, ?_, ?_⟩
  · rw [LineWalk.length_diagonals, Int.abs_eq_natAbs, Int.abs_eq_natAbs]
    unfold LineWalk.extent
    push_cast
    rfl
  · exact LineWalk.line_follows (x₀, y₀) (x₁, y₁)
  · exact LineWalk.line_follows (x₁, y₀) (x₀, y₁)

variable {x₀ y₀ x₁ y₁ : Int}

end GeoRaster.Mapping
