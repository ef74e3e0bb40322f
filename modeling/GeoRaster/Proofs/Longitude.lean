import Mathlib.Tactic.FieldSimp
import Mathlib.Tactic.Linarith
import GeoRaster.Scalar.Exact
import GeoRaster.Longitude

/-! Wrapping of exact longitudes. Without rounding, the turns that are taken off are counted right, and
the two corrections that follow are never needed. -/
namespace GeoRaster

variable {α : Type} [ExactScalar α]

/-- The longitude half a turn from both ends of a window. -/
def LonWindow.center : LonWindow → ℤ
  | .aroundZero => 0
  | .around180 => 180

/-- Whether a longitude lies in a window; the upper end does not. -/
def LonWindow.Holds (window : LonWindow) (lon : α) : Prop :=
  (window.lower : α) ≤ lon ∧ lon < window.upper

instance (window : LonWindow) (lon : α) : Decidable (window.Holds lon) :=
  inferInstanceAs (Decidable (_ ∧ _))

/-- Whether a longitude lies in a window as it is reported, with both ends. -/
def LonWindow.Reports (window : LonWindow) (lon : α) : Prop :=
  (window.lower : α) ≤ lon ∧ lon ≤ window.upper

instance (window : LonWindow) (lon : α) : Decidable (window.Reports lon) :=
  inferInstanceAs (Decidable (_ ∧ _))

namespace Longitude

/-- The whole turns that a longitude lies above the start of a window. -/
def turns (window : LonWindow) (lon : α) : ℤ :=
  ⌊(lon - window.lower) / 360⌋

theorem turns_le (window : LonWindow) (lon : α) :
    (turns window lon : α) * 360 ≤ lon - window.lower := by
  have floor := Int.floor_le ((lon - window.lower) / (360 : α))
  rwa [le_div_iff₀ (by norm_num)] at floor

theorem lt_turns (window : LonWindow) (lon : α) :
    lon - window.lower < ((turns window lon : α) + 1) * 360 := by
  have floor := Int.lt_floor_add_one ((lon - window.lower) / (360 : α))
  rwa [div_lt_iff₀ (by norm_num)] at floor

theorem upper_eq (window : LonWindow) : (window.upper : α) = window.lower + 360 := by
  simp [LonWindow.lower]

theorem holds_sub_turns (window : LonWindow) (lon : α) :
    window.Holds (lon - turns window lon * 360) := by
  have below := turns_le window lon
  have above := lt_turns window lon
  constructor
  · linarith
  · rw [upper_eq]
    linarith

theorem turns_eq_zero {window : LonWindow} {lon : α} (holds : window.Holds lon) :
    turns window lon = 0 := by
  obtain ⟨start, stop⟩ := holds
  rw [upper_eq] at stop
  rw [turns, Int.floor_eq_zero_iff]
  constructor
  · exact div_nonneg (by linarith) (by norm_num)
  · rw [div_lt_one (by norm_num)]
    linarith

/-- Wrapping takes off whole turns, as many as lie between the window's start and the longitude. -/
theorem wrap_eq (window : LonWindow) (lon : α) :
    wrap window lon = lon - turns window lon * 360 := by
  have lower : (Scalar.ofInt window.upper - Scalar.ofInt 360 : α) = (window.lower : α) := by
    simp [ExactScalar.ofInt_eq, LonWindow.lower]
  have near : (Scalar.floorQuotient (lon - (window.lower : α)) (Scalar.ofInt 360)) =
      (turns window lon : α) := by
    simp [ExactScalar.floorQuotient_eq, ExactScalar.ofInt_eq, turns]
  obtain ⟨start, stop⟩ := holds_sub_turns window lon
  unfold wrap
  simp only [lower, near]
  simp only [ExactScalar.ofInt_eq, Int.cast_ofNat]
  split
  · rw [if_neg (not_le.mpr stop), if_neg (not_lt.mpr start)]
  · rename_i inside
    rw [not_or, not_lt, not_le] at inside
    rw [turns_eq_zero inside]
    simp

theorem wrap_holds (window : LonWindow) (lon : α) : window.Holds (wrap window lon) := by
  rw [wrap_eq]
  exact holds_sub_turns window lon

theorem wrap_of_holds {window : LonWindow} {lon : α} (holds : window.Holds lon) :
    wrap window lon = lon := by
  rw [wrap_eq, turns_eq_zero holds]
  simp

/-- A window holds exactly the longitudes that wrapping leaves alone. -/
theorem wrap_eq_self_iff {window : LonWindow} {lon : α} :
    wrap window lon = lon ↔ window.Holds lon := by
  constructor
  · intro same
    rw [← same]
    exact wrap_holds window lon
  · exact wrap_of_holds

theorem turns_add (window : LonWindow) (lon : α) (n : ℤ) :
    turns window (lon + n * 360) = turns window lon + n := by
  have quotient : (lon + n * 360 - window.lower) / (360 : α) = (lon - window.lower) / 360 + n := by
    field_simp
    ring
  rw [turns, quotient, Int.floor_add_intCast, ← turns]

/-- Whole turns make no difference to a wrapped longitude. -/
theorem wrap_add_turns (window : LonWindow) (lon : α) (n : ℤ) :
    wrap window (lon + n * 360) = wrap window lon := by
  rw [wrap_eq, wrap_eq, turns_add]
  push_cast
  ring

/-- The end of a window is one turn from its start. -/
theorem wrap_upper (window : LonWindow) : wrap window (window.upper : α) = window.lower := by
  have start : window.Holds (window.lower : α) := by
    refine ⟨le_refl _, ?_⟩
    rw [upper_eq]
    linarith
  have turned := wrap_add_turns window (window.lower : α) 1
  rw [Int.cast_one, one_mul, ← upper_eq] at turned
  rw [turned, wrap_of_holds start]

theorem exists_wrap_eq (window : LonWindow) (lon : α) : ∃ n : ℤ, wrap window lon = lon + n * 360 := by
  refine ⟨-turns window lon, ?_⟩
  rw [wrap_eq]
  push_cast
  ring

/-- The window that a longitude is wrapped into last decides. -/
theorem wrap_wrap (window first : LonWindow) (lon : α) :
    wrap window (wrap first lon) = wrap window lon := by
  obtain ⟨n, turned⟩ := exists_wrap_eq first lon
  rw [turned, wrap_add_turns]

/-- What lies in a window and differs by whole turns from a longitude is what that is wrapped to. -/
theorem wrap_eq_of_holds {window : LonWindow} {lon : α} {n : ℤ}
    (holds : window.Holds (lon + n * 360)) : wrap window lon = lon + n * 360 := by
  rw [← wrap_add_turns window lon n, wrap_of_holds holds]

/-! ### Representatives -/

theorem holds_ofCenterZero_iff {centerZero : Bool} {lon : α} :
    (LonWindow.ofCenterZero centerZero).Holds lon ↔
      if centerZero then -180 ≤ lon ∧ lon < 180 else 0 ≤ lon ∧ lon < 360 := by
  cases centerZero with
  | true => norm_num [LonWindow.ofCenterZero, LonWindow.Holds, LonWindow.lower, LonWindow.upper]
  | false => norm_num [LonWindow.ofCenterZero, LonWindow.Holds, LonWindow.lower, LonWindow.upper]

/-- A longitude is wrapped to the one in the window that differs from it by whole turns. -/
theorem wrap_eq_iff {window : LonWindow} {lon other : α} :
    wrap window lon = other ↔ window.Holds other ∧ ∃ n : ℤ, other = lon + n * 360 := by
  constructor
  · rintro rfl
    exact ⟨wrap_holds window lon, exists_wrap_eq window lon⟩
  · rintro ⟨holds, n, rfl⟩
    exact wrap_eq_of_holds holds

theorem wrap_eq_wrap_iff {window : LonWindow} {lon other : α} :
    wrap window lon = wrap window other ↔ ∃ n : ℤ, other = lon + n * 360 := by
  constructor
  · intro same
    obtain ⟨n, turned⟩ := exists_wrap_eq window lon
    obtain ⟨m, turned'⟩ := exists_wrap_eq window other
    refine ⟨n - m, ?_⟩
    push_cast
    linarith
  · rintro ⟨n, rfl⟩
    exact (wrap_add_turns window lon n).symm

/-- Longitudes have canonical representatives. Wrapping leads to the only number in the window, `[-180, 180)`
around the prime meridian and `[0, 360)` around the antimeridian, that differs from the longitude by whole
turns. So longitudes that were wrapped before are wrapped as they would have been at first, and two
longitudes have one representative exactly if they differ by whole turns. -/
theorem wrap_canonical (centerZero : Bool) (lon : α) :
    (∀ other : α, wrap (.ofCenterZero centerZero) lon = other ↔
      (if centerZero then -180 ≤ other ∧ other < 180 else 0 ≤ other ∧ other < 360) ∧
        ∃ n : ℤ, other = lon + n * 360) ∧
    (∀ first, wrap (.ofCenterZero centerZero) (wrap (.ofCenterZero first) lon) =
      wrap (.ofCenterZero centerZero) lon) ∧
    ∀ other : α, wrap (.ofCenterZero centerZero) lon = wrap (.ofCenterZero centerZero) other ↔
      ∃ n : ℤ, other = lon + n * 360 := by
  refine ⟨fun other => ?_, fun first => wrap_wrap _ _ lon, fun other => wrap_eq_wrap_iff⟩
  rw [← holds_ofCenterZero_iff]
  exact wrap_eq_iff

/-! ### Centers of windows -/

@[simp] theorem center_aroundZero : (LonWindow.aroundZero.center : α) = 0 :=
  Int.cast_zero

@[simp] theorem center_around180 : (LonWindow.around180.center : α) = 180 :=
  Int.cast_ofNat 180

theorem holds_iff_center {window : LonWindow} {lon : α} :
    window.Holds lon ↔ -180 ≤ lon - window.center ∧ lon - window.center < 180 := by
  have lower : (window.lower : α) = window.center - 180 := by
    cases window <;> norm_num [LonWindow.lower, LonWindow.upper]
  rw [LonWindow.Holds, upper_eq, lower]
  constructor
  · rintro ⟨start, stop⟩
    exact ⟨by linarith, by linarith⟩
  · rintro ⟨start, stop⟩
    exact ⟨by linarith, by linarith⟩

theorem holds_aroundZero_iff {lon : α} : LonWindow.aroundZero.Holds lon ↔ -180 ≤ lon ∧ lon < 180 := by
  rw [holds_iff_center, center_aroundZero, sub_zero]

end Longitude

end GeoRaster
