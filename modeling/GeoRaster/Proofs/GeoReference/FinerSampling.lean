import GeoRaster.Proofs.Mapping.SampleGrid
import GeoRaster.GeoReference.BoxConversion

/-! Finer sampling. A grid with a multiple of the steps has the places of the coarser one, on the border
and on the diagonals alike. So whatever is sampled is sampled again, and the box of the images
can only grow, however many of the samples have no image. -/
namespace GeoRaster

variable {α : Type} [ExactScalar α]

namespace Mapping

open Box
open Scalar (ofInt)

/-- Both boxes come about, and the first one lies in the second. -/
def Nests (inner outer : Logged (Box α)) : Prop :=
  ∃ small large, inner.result = .ok small ∧ outer.result = .ok large ∧ small.Within large

/-- A step of a grid is a whole number of steps of a finer one. -/
theorem finer_step {times : Int} (more : 1 ≤ times) (length : α) (count i : Int) :
    ofInt (times * i) * (length / ofInt (times * count)) = ofInt i * (length / ofInt count) := by
  have nonzero : (times : α) ≠ 0 := Int.cast_ne_zero.mpr (by omega)
  simp only [ExactScalar.ofInt_eq, Int.cast_mul]
  calc (times : α) * i * (length / (times * count))
      = times * (i * length) / (times * count) := by ring
    _ = i * length / count := mul_div_mul_left _ _ nonzero
    _ = i * (length / count) := by ring

theorem gridPlace_finer {times : Int} (more : 1 ≤ times) (b : Box α) (count i j : Int) :
    gridPlace b (times * count) (times * i) (times * j) = gridPlace b count i j := by
  simp only [gridPlace, finer_step more]

/-- What is marked on a grid is marked on a finer one. -/
theorem IsSampled.finer {count i j times : Int} (isSampled : IsSampled count i j) (more : 1 ≤ times) :
    IsSampled (times * count) (times * i) (times * j) := by
  have nonneg : 0 ≤ times := by omega
  obtain ⟨across, up, marked⟩ := isSampled
  constructor
  · exact ⟨mul_nonneg nonneg across.1, mul_le_mul_of_nonneg_left across.2 nonneg⟩
  · exact ⟨mul_nonneg nonneg up.1, mul_le_mul_of_nonneg_left up.2 nonneg⟩
  · rcases marked with (rfl | rfl) | (rfl | rfl) | rfl | rfl
    · exact .inl (.inl (mul_zero times))
    · exact .inl (.inr rfl)
    · exact .inr (.inl (.inl (mul_zero times)))
    · exact .inr (.inl (.inr rfl))
    · exact .inr (.inr (.inl rfl))
    · exact .inr (.inr (.inr (mul_add times i j).symm))

section Finer

variable {count times : Int} (positive : 1 ≤ count) (more : 1 ≤ times)
include positive more

theorem one_le_finer : 1 ≤ times * count :=
  one_le_mul_of_one_le_of_one_le more positive

/-- No sample is lost. -/
theorem mem_finer {b : Box α} (full : b.isEmpty = false) {samples finer : List (Point α)}
    (sampled : continuousSamples b count = .ok samples)
    (sampledFiner : continuousSamples b (times * count) = .ok finer) {s : Point α}
    (member : s ∈ samples) : s ∈ finer := by
  obtain ⟨i, j, isSampled, rfl⟩ := (mem_continuousSamples full positive sampled s).mp member
  apply (mem_continuousSamples full (one_le_finer positive more) sampledFiner _).mpr
  exact ⟨times * i, times * j, isSampled.finer more, (gridPlace_finer more b count i j).symm⟩

theorem sampleBox_nests (b : Box α) (f : Point α → Option (Point α))
    (prepare finish : Point α → Point α) :
    Nests (sampleBox b f count prepare finish) (sampleBox b f (times * count) prepare finish) := by
  cases b with
  | empty => exact ⟨.empty, .empty, rfl, rfl, trivial⟩
  | span minX minY maxX maxY =>
    have full : (span minX minY maxX maxY).isEmpty = false := rfl
    obtain ⟨samples, sampled⟩ := exists_continuousSamples (span minX minY maxX maxY) positive
    obtain ⟨finer, sampledFiner⟩ :=
      exists_continuousSamples (span minX minY maxX maxY) (one_le_finer positive more)
    obtain ⟨small, smallOk, smallHull⟩ := exists_sampleBox full sampled f prepare finish
    obtain ⟨large, largeOk, largeHull⟩ := exists_sampleBox full sampledFiner f prepare finish
    refine ⟨small, large, smallOk, largeOk, smallHull.hull.within ?_⟩
    rintro q ⟨s, member, image⟩
    apply largeHull.hull.contains
    exact ⟨s, mem_finer positive more full sampled sampledFiner member, image⟩

end Finer

end Mapping

namespace GeoReference

open Box
open Mapping (sampleBox Nests)

/-- Boxes of images grow with the number of samples along multiples, whichever samples have an image, and
with them boxes of points and boxes of longitudes and latitudes. -/
theorem boxes_nest {count times : Int} (positive : 1 ≤ count) (more : 1 ≤ times) :
    (∀ (b : Box α) (f : Point α → Option (Point α)) (prepare finish : Point α → Point α),
      Nests (sampleBox b f count prepare finish) (sampleBox b f (times * count) prepare finish)) ∧
    ∀ (g : GeoReference α) (b : Box α),
      Nests (g.lonLatToPointBox b count) (g.lonLatToPointBox b (times * count)) ∧
        Nests (g.pointToLonLatBox b count) (g.pointToLonLatBox b (times * count)) := by
  have nests := @Mapping.sampleBox_nests α _ count times positive more
  refine ⟨nests, fun g b => ⟨?_, ?_⟩⟩
  · unfold lonLatToPointBox
    cases g.isProjected with
    | true => exact nests b g.engine.tryForward g.wrapped id
    | false => exact ⟨_, _, rfl, rfl, Within.refl _⟩
  · unfold pointToLonLatBox
    cases g.isProjected with
    | true => exact nests b g.engine.tryInverse id g.wrapped
    | false => exact ⟨_, _, rfl, rfl, Within.refl _⟩

/-- A map that is defined inside a box only. The diagonals meet it, the edges do not. -/
theorem boxes_nest_inside :
    let b : Box ℚ := span (-1) (-1) 1 1
    let f : Point ℚ → Option (Point ℚ) := fun p => if |p.x| < 1 ∧ |p.y| < 1 then some p else none
    (1 : Int) ≤ 2 ∧ ∃ small large, (sampleBox b f 2).result = .ok small ∧
      (sampleBox b f (2 * 2)).result = .ok large ∧ small.Within large ∧ ¬ large.Within small := by
  intro b f
  obtain ⟨small, large, smallOk, largeOk, within⟩ :=
    (boxes_nest (by decide : (1 : Int) ≤ 2) (by decide : (1 : Int) ≤ 2)).1 b f id id
  refine ⟨by decide, small, large, smallOk, largeOk, within, fun back => ?_⟩
  have coarse : ((sampleBox b f 2).result.toOption.any fun box => !box.contains ⟨1 / 2, 1 / 2⟩) = true := by
    decide +kernel
  have fine : ((sampleBox b f (2 * 2)).result.toOption.any fun box =>
      box.contains ⟨1 / 2, 1 / 2⟩) = true := by
    decide +kernel
  rw [smallOk] at coarse
  rw [largeOk] at fine
  have outside : (!small.contains ⟨1 / 2, 1 / 2⟩) = true := coarse
  rw [back.contains fine] at outside
  contradiction

end GeoReference

end GeoRaster
