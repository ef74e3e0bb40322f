import GeoRaster.Proofs.Longitude
import GeoRaster.Mapping.WindowChoice

/-! Windows against footprints. Where the first pixel decides, its longitude may lie in both windows, and
the footprint grows from there along the rows. The window around the antimeridian has room for
half a turn eastwards, the one around the prime meridian for half a turn westwards; but the
antimeridian itself is the end of the latter and does not belong to it. -/
namespace GeoRaster.Mapping

open Projection (isOrthographic isUTM)

variable {α : Type} [ExactScalar α]

/-- The longitude at a distance from the start of a footprint, in the direction in which it grows. -/
def alongRow (xScale start distance : α) : α :=
  if 0 < xScale then start + distance else start - distance

theorem alongRow_of_pos {xScale : α} (increasing : 0 < xScale) (start distance : α) :
    alongRow xScale start distance = start + distance :=
  if_pos increasing

theorem alongRow_of_nonpos {xScale : α} (decreasing : ¬ 0 < xScale) (start distance : α) :
    alongRow xScale start distance = start - distance :=
  if_neg decreasing

/-- East of the prime meridian and up to the antimeridian, the direction alone decides. -/
theorem window_forStart {xScale start : α} (nonneg : 0 ≤ start) (atMost : start ≤ 180) :
    (WindowChoice.forStart xScale start).window =
      if 0 < xScale then .around180 else .aroundZero := by
  simp only [WindowChoice.forStart, ExactScalar.ofInt_zero, ExactScalar.ofInt_ofNat]
  rw [if_neg atMost.not_gt, if_neg nonneg.not_gt]
  split <;> rfl

/-- The first pixel decides for all projections but two kinds. -/
theorem choose_of_start {projection : String} (notUTM : isUTM projection = false)
    (notOrthographic : isOrthographic projection = false) (xScale : α) {start : α}
    {attempt : Unit → Except Fault α} (started : attempt () = .ok start) :
    WindowChoice.choose projection xScale attempt = .ok (WindowChoice.forStart xScale start) := by
  simp only [WindowChoice.choose, notUTM, notOrthographic, Bool.false_eq_true, if_false, started,
    WindowChoice.ofAttempt]

/-- Whether the direction of the rows decides: the first pixel is asked, and both windows hold it. -/
def DirectionDecides (projection : String) (start : Except Fault α) : Prop :=
  isUTM projection = false ∧ isOrthographic projection = false ∧
    ∃ lon, start = .ok lon ∧ 0 ≤ lon ∧ lon ≤ 180

theorem window_of_directionDecides {projection : String} (xScale : α)
    (attempt : Unit → Except Fault α) (decides : DirectionDecides projection (attempt ())) :
    ∃ choice, WindowChoice.choose projection xScale attempt = .ok choice ∧
      choice.window = if 0 < xScale then .around180 else .aroundZero := by
  obtain ⟨notUTM, notOrthographic, lon, started, nonneg, atMost⟩ := decides
  exact ⟨_, choose_of_start notUTM notOrthographic xScale started, window_forStart nonneg atMost⟩

theorem forStart_congr {x y : α} (same : 0 < x ↔ 0 < y) (start : α) :
    WindowChoice.forStart x start = WindowChoice.forStart y start := by
  simp only [WindowChoice.forStart, ExactScalar.ofInt_zero, same]

/-- Where the rows do not decide, their direction plays no role. -/
theorem forStart_of_outside {start : α} (outside : ¬ (0 ≤ start ∧ start ≤ 180)) (x y : α) :
    WindowChoice.forStart x start = WindowChoice.forStart y start := by
  simp only [WindowChoice.forStart, ExactScalar.ofInt_zero, ExactScalar.ofInt_ofNat]
  by_cases above : 180 < start
  · rw [if_pos above, if_pos above]
  by_cases below : start < 0
  · rw [if_neg above, if_neg above, if_pos below, if_pos below]
  · exact absurd ⟨not_lt.mp below, not_lt.mp above⟩ outside

theorem choose_congr_direction {projection : String} {x y : α} {attempt : Unit → Except Fault α}
    (alike : (0 < x ↔ 0 < y) ∨ ¬ DirectionDecides projection (attempt ())) :
    WindowChoice.choose projection x attempt = WindowChoice.choose projection y attempt := by
  unfold WindowChoice.choose
  cases utm : isUTM projection with
  | true => rfl
  | false =>
    cases orthographic : isOrthographic projection with
    | true => rfl
    | false =>
      cases started : attempt () with
      | error e => rfl
      | ok start =>
        refine congrArg Except.ok ?_
        rcases alike with same | undecided
        · exact forStart_congr same start
        · refine forStart_of_outside (fun inside => undecided ?_) x y
          exact ⟨utm, orthographic, start, started, inside⟩

section Growth

variable {xScale start : α} (nonneg : 0 ≤ start) (atMost : start ≤ 180)
include nonneg atMost

theorem holds_eastwards {distance : α} (forward : 0 ≤ distance) (short : distance < 180) :
    LonWindow.around180.Holds (start + distance) := by
  simp only [LonWindow.Holds, LonWindow.lower, LonWindow.upper, Int.cast_sub, Int.cast_ofNat]
  constructor <;> linarith

/-- Westwards only the antimeridian itself is missed. -/
theorem holds_westwards_iff {distance : α} (forward : 0 ≤ distance) (short : distance < 180) :
    LonWindow.aroundZero.Holds (start - distance) ↔ start < 180 ∨ 0 < distance := by
  simp only [LonWindow.Holds, LonWindow.lower, LonWindow.upper, Int.cast_sub, Int.cast_ofNat]
  constructor
  · rintro ⟨_, before⟩
    by_contra neither
    rw [not_or, not_lt, not_lt] at neither
    linarith
  · intro apart
    refine ⟨by linarith, ?_⟩
    rcases apart with early | moved <;> linarith

/-- The window that the first pixel decides on, at a distance from it. -/
theorem holds_alongRow_iff {distance : α} (forward : 0 ≤ distance) (short : distance < 180) :
    (WindowChoice.forStart xScale start).window.Holds (alongRow xScale start distance) ↔
      0 < xScale ∨ start < 180 ∨ 0 < distance := by
  rw [window_forStart nonneg atMost]
  by_cases increasing : 0 < xScale
  · rw [if_pos increasing, alongRow_of_pos increasing]
    have held := holds_eastwards nonneg atMost forward short
    exact ⟨fun _ => .inl increasing, fun _ => held⟩
  · rw [if_neg increasing, alongRow_of_nonpos increasing,
      holds_westwards_iff nonneg atMost forward short]
    exact ⟨.inr, fun held => held.resolve_left increasing⟩

end Growth

/-- The chosen window holds the far end of a footprint that starts between the prime meridian and the
antimeridian and spans less than half a turn, and wrapping leaves that longitude alone; except
that a westward footprint of no extent may start, and so end, on the antimeridian. It holds the
footprint as a whole unless that starts on the antimeridian and grows westwards. -/
theorem choose_holds_footprint {projection : String} (notUTM : isUTM projection = false)
    (notOrthographic : isOrthographic projection = false) (xScale : α) {start extent : α}
    (nonneg : 0 ≤ start) (atMost : start ≤ 180) (forward : 0 ≤ extent) (short : extent < 180)
    (attempt : Unit → Except Fault α) (started : attempt () = .ok start) :
    ∃ choice, WindowChoice.choose projection xScale attempt = .ok choice ∧
      (choice.window.Holds (alongRow xScale start extent) ↔
        0 < xScale ∨ start < 180 ∨ 0 < extent) ∧
      (Longitude.wrap choice.window (alongRow xScale start extent) = alongRow xScale start extent ↔
        0 < xScale ∨ start < 180 ∨ 0 < extent) ∧
      ((∀ distance, 0 ≤ distance → distance ≤ extent →
          choice.window.Holds (alongRow xScale start distance)) ↔
        0 < xScale ∨ start < 180) := by
  have holds : ∀ {distance : α}, 0 ≤ distance → distance ≤ extent →
      ((WindowChoice.forStart xScale start).window.Holds (alongRow xScale start distance) ↔
        0 < xScale ∨ start < 180 ∨ 0 < distance) := fun ahead within =>
    holds_alongRow_iff nonneg atMost ahead (within.trans_lt short)
  refine ⟨WindowChoice.forStart xScale start,
    choose_of_start notUTM notOrthographic xScale started, holds forward le_rfl, ?_, ?_⟩
  · rw [Longitude.wrap_eq_self_iff]
    exact holds forward le_rfl
  · constructor
    · intro whole
      -- the start is the one point at no distance from itself
      have first := (holds le_rfl forward).mp (whole 0 le_rfl forward)
      simpa only [lt_irrefl, or_false] using first
    · intro apart distance ahead within
      refine (holds ahead within).mpr ?_
      rcases apart with increasing | early
      · exact .inl increasing
      · exact .inr (.inl early)

/-- Eastwards from the antimeridian nearly half a turn is held in one piece. Westwards the far end is
held, but not the footprint as a whole. -/
theorem footprints_from_antimeridian :
    (∃ choice, WindowChoice.choose (α := ℚ) "+proj=merc +over" 30 (fun _ => .ok 180) = .ok choice ∧
      ∀ distance : ℚ, 0 ≤ distance → distance ≤ 179 → choice.window.Holds (180 + distance)) ∧
    ∃ choice, WindowChoice.choose (α := ℚ) "+proj=merc +over" (-30) (fun _ => .ok 180) = .ok choice ∧
      choice.window.Holds (180 - 179 : ℚ) ∧
      ¬ ∀ distance : ℚ, 0 ≤ distance → distance ≤ 179 → choice.window.Holds (180 - distance) := by
  have notUTM : isUTM "+proj=merc +over" = false := by decide +kernel
  have notOrthographic : isOrthographic "+proj=merc +over" = false := by decide +kernel
  have short : (179 : ℚ) < 180 := by norm_num
  have forward : (0 : ℚ) ≤ 179 := by norm_num
  have start : (0 : ℚ) ≤ 180 := by norm_num
  constructor
  · have increasing : (0 : ℚ) < 30 := by norm_num
    obtain ⟨choice, chosen, _, _, whole⟩ :=
      choose_holds_footprint notUTM notOrthographic 30 start le_rfl forward short
        (fun _ => .ok 180) rfl
    simp only [alongRow_of_pos increasing] at whole
    exact ⟨choice, chosen, whole.mpr (.inl increasing)⟩
  · have decreasing : ¬ (0 : ℚ) < -30 := by norm_num
    obtain ⟨choice, chosen, far, _, whole⟩ :=
      choose_holds_footprint notUTM notOrthographic (-30) start le_rfl forward short
        (fun _ => .ok 180) rfl
    simp only [alongRow_of_nonpos decreasing] at far whole
    refine ⟨choice, chosen, far.mpr (.inr (.inr (by norm_num))), fun held => ?_⟩
    rcases whole.mp held with increasing | early
    · exact decreasing increasing
    · exact lt_irrefl _ early

/-- The first pixel on the antimeridian, and the rows going west: the chosen window does not hold the
pixel's own longitude, which is wrapped to its other end. -/
theorem antimeridian_is_wrapped_off :
    ∃ choice, WindowChoice.choose (α := ℚ) "+proj=longlat +over" (-1) (fun _ => .ok 180) =
        .ok choice ∧
      ¬ choice.window.Holds (alongRow (-1) 180 0 : ℚ) ∧
      Longitude.wrap choice.window (alongRow (-1) 180 0 : ℚ) = -180 := by
  refine ⟨WindowChoice.forStart (-1 : ℚ) 180, ?_, ?_, ?_⟩ <;> decide +kernel

end GeoRaster.Mapping
