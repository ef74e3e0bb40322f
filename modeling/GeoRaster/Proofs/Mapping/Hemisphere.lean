import GeoRaster.Proofs.Longitude.Distance
import GeoRaster.Mapping.WindowChoice

/-! Windows for orthographic projections. Half of the globe is visible, a quarter turn to both sides of the
central longitude. The window whose center is nearer to it has that much room on both sides, so its
ends lie outside of the visible hemisphere, or on the rim. -/
namespace GeoRaster.Mapping

open Projection (isOrthographic isUTM extractValue)
open Longitude (distance wrap)

theorem isUTM_of_isOrthographic {projection : String} (orthographic : isOrthographic projection = true) :
    isUTM projection = false := by
  unfold isOrthographic at orthographic
  unfold isUTM
  rw [of_decide_eq_true orthographic]
  decide

variable {α : Type} [ExactScalar α]

theorem choose_of_orthographic {projection : String} (orthographic : isOrthographic projection = true)
    {middle : α} (given : extractValue projection "lon_0" = some middle) (xScale : α)
    (attempt : Unit → Except Fault α) :
    WindowChoice.choose projection xScale attempt =
      .ok (WindowChoice.forOrthographic (some middle)) := by
  simp only [WindowChoice.choose, isUTM_of_isOrthographic orthographic, orthographic, given,
    Bool.false_eq_true, if_false, if_true]

theorem window_forOrthographic (middle : α) :
    (WindowChoice.forOrthographic (some middle)).window =
      if distance middle 180 < distance middle 0 then .around180 else .aroundZero := by
  simp only [WindowChoice.forOrthographic, ExactScalar.ofInt_zero, ExactScalar.ofInt_ofNat]
  split <;> rfl

/-- The nearer of the two centers is no more than a quarter turn away. -/
theorem distance_center_forOrthographic (middle : α) :
    distance middle ((WindowChoice.forOrthographic (some middle)).window.center : α) ≤ 90 := by
  have apart := Longitude.distance_zero_add_distance_180 middle
  rw [window_forOrthographic]
  split
  · rw [Longitude.center_around180]
    linarith
  · rw [Longitude.center_aroundZero]
    linarith

/-- Whole turns of the central longitude make no difference to the window. -/
theorem window_forOrthographic_add_turns (middle : α) (n : ℤ) :
    (WindowChoice.forOrthographic (some (middle + n * 360))).window =
      (WindowChoice.forOrthographic (some middle)).window := by
  rw [window_forOrthographic, window_forOrthographic, Longitude.add_turns_distance,
    Longitude.add_turns_distance]

/-- Where the projection is orthographic, the chosen window shows the visible hemisphere in one piece:
longitudes less than a quarter turn from the central one are as far from it in the window as they
are on the globe. The choice is the same for a central longitude with other turns. -/
theorem choose_keeps_hemisphere {projection : String} (orthographic : isOrthographic projection = true)
    {middle : α} (given : extractValue projection "lon_0" = some middle) (xScale : α)
    (attempt : Unit → Except Fault α) :
    ∃ choice, WindowChoice.choose projection xScale attempt = .ok choice ∧
      (∀ lon, distance lon middle < 90 →
        |wrap choice.window lon - wrap choice.window middle| = distance lon middle) ∧
      ∀ (other : String) (n : ℤ), isOrthographic other = true →
        extractValue other "lon_0" = some (middle + n * 360) →
        ∀ (xScale' : α) (attempt' : Unit → Except Fault α),
          ∃ choice', WindowChoice.choose other xScale' attempt' = .ok choice' ∧
            choice'.window = choice.window := by
  refine ⟨_, choose_of_orthographic orthographic given xScale attempt, ?_, ?_⟩
  · intro lon near
    exact Longitude.abs_wrap_sub_wrap (distance_center_forOrthographic middle) near
  · intro other n orthographic' given' xScale' attempt'
    exact ⟨_, choose_of_orthographic orthographic' given' xScale' attempt',
      window_forOrthographic_add_turns middle n⟩

/-- A central longitude given with turns, nearer to the antimeridian, and one that is as near to both
centers. The first one's hemisphere lies across the antimeridian. -/
theorem hemispheres_in_one_piece :
    (∃ choice, WindowChoice.choose (α := ℚ) "+proj=ortho +lon_0=-460 +over" 1
        (fun _ => .error .unconfigured) = .ok choice ∧
      |wrap choice.window (175 : ℚ) - wrap choice.window (-460)| = 85 ∧
      ∃ choice', WindowChoice.choose (α := ℚ) "+lon_0=-100 +proj=ortho" (-1)
          (fun _ => .ok 0) = .ok choice' ∧ choice'.window = choice.window) ∧
    ∃ choice, WindowChoice.choose (α := ℚ) "+proj=ortho +lon_0=90" 1
        (fun _ => .error .unconfigured) = .ok choice ∧
      |wrap choice.window (179 : ℚ) - wrap choice.window 90| = 89 := by
  have first : isOrthographic "+proj=ortho +lon_0=-460 +over" = true := by decide +kernel
  have moved : isOrthographic "+lon_0=-100 +proj=ortho" = true := by decide +kernel
  have rim : isOrthographic "+proj=ortho +lon_0=90" = true := by decide +kernel
  have given : extractValue (α := ℚ) "+proj=ortho +lon_0=-460 +over" "lon_0" = some (-460) := by
    decide +kernel
  have turned : extractValue (α := ℚ) "+lon_0=-100 +proj=ortho" "lon_0" =
      some (-460 + ((1 : ℤ) : ℚ) * 360) := by
    decide +kernel
  have givenRim : extractValue (α := ℚ) "+proj=ortho +lon_0=90" "lon_0" = some 90 := by
    decide +kernel
  have across : distance (175 : ℚ) (-460) = 85 := by decide +kernel
  have inside : distance (179 : ℚ) 90 = 89 := by decide +kernel
  constructor
  · obtain ⟨choice, chosen, shown, turns⟩ :=
      choose_keeps_hemisphere first given 1 (fun _ => .error .unconfigured)
    refine ⟨choice, chosen, ?_, turns _ 1 moved turned (-1) (fun _ => .ok 0)⟩
    rw [shown 175 (by rw [across]; norm_num), across]
  · obtain ⟨choice, chosen, shown, _⟩ :=
      choose_keeps_hemisphere rim givenRim 1 (fun _ => .error .unconfigured)
    refine ⟨choice, chosen, ?_⟩
    rw [shown 179 (by rw [inside]; norm_num), inside]

end GeoRaster.Mapping
