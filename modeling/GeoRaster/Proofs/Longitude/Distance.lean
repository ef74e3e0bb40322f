import GeoRaster.Proofs.Longitude

/-! Distances between exact longitudes. Of the numbers that differ from one by whole turns, the one in the window
around the prime meridian is the nearest to zero. So the distance of two longitudes is the length of the shortest
arc between them. What else holds of distances follows from that: an arc has one length in both directions, and
two arcs that meet make an arc. -/
namespace GeoRaster.Longitude

variable {α : Type} [ExactScalar α]

theorem distance_eq (a b : α) : distance a b = |wrap .aroundZero (a - b)| :=
  ExactScalar.abs_eq _

/-- Whole turns make no difference to distances. -/
theorem add_turns_distance (a b : α) (n : ℤ) : distance (a + n * 360) b = distance a b := by
  rw [distance_eq, distance_eq, add_sub_right_comm, wrap_add_turns]

/-! ### Shortest arcs -/

theorem abs_wrap_le_180 (lon : α) : |wrap .aroundZero lon| ≤ 180 := by
  obtain ⟨start, stop⟩ := holds_aroundZero_iff.mp (wrap_holds .aroundZero lon)
  exact abs_le.mpr ⟨start, stop.le⟩

/-- Wrapping leads no farther away from the prime meridian. -/
theorem abs_wrap_le_abs (lon : α) : |wrap .aroundZero lon| ≤ |lon| := by
  by_cases held : LonWindow.aroundZero.Holds lon
  · rw [wrap_of_holds held]
  · have outside : 180 ≤ |lon| := by
      rw [holds_aroundZero_iff, not_and_or, not_le, not_lt] at held
      rw [le_abs]
      rcases held with west | east
      · right
        linarith
      · exact .inl east
    exact (abs_wrap_le_180 lon).trans outside

theorem distance_le (a b : α) (n : ℤ) : distance a b ≤ |a - b + n * 360| := by
  rw [distance_eq, ← wrap_add_turns .aroundZero (a - b) n]
  exact abs_wrap_le_abs _

theorem exists_distance_eq (a b : α) : ∃ n : ℤ, distance a b = |a - b + n * 360| := by
  obtain ⟨n, turned⟩ := exists_wrap_eq .aroundZero (a - b)
  refine ⟨n, ?_⟩
  rw [distance_eq, turned]

theorem isLeast_distance (a b : α) :
    IsLeast (Set.range fun n : ℤ => |a - b + n * 360|) (distance a b) := by
  constructor
  · obtain ⟨n, shortest⟩ := exists_distance_eq a b
    exact ⟨n, shortest.symm⟩
  · rintro _ ⟨n, rfl⟩
    exact distance_le a b n

theorem distance_nonneg (a b : α) : 0 ≤ distance a b := by
  rw [distance_eq]
  exact abs_nonneg _

theorem distance_le_180 (a b : α) : distance a b ≤ 180 := by
  rw [distance_eq]
  exact abs_wrap_le_180 _

/-- An arc is as long in both directions, also where it is half a turn and both directions are wrapped to
the west. -/
theorem distance_comm (a b : α) : distance a b = distance b a := by
  have backwards (a b : α) : distance a b ≤ distance b a := by
    obtain ⟨n, shortest⟩ := exists_distance_eq b a
    calc distance a b ≤ |a - b + (-n : ℤ) * 360| := distance_le a b (-n)
      _ = |-(b - a + n * 360)| := by
        congr 1
        push_cast
        ring
      _ = distance b a := by rw [abs_neg, shortest]
  exact le_antisymm (backwards a b) (backwards b a)

theorem distance_eq_zero_iff {a b : α} : distance a b = 0 ↔ ∃ n : ℤ, b = a + n * 360 := by
  rw [distance_eq, abs_eq_zero, wrap_eq_iff]
  constructor
  · rintro ⟨_, n, turned⟩
    exact ⟨n, by linarith⟩
  · rintro ⟨n, rfl⟩
    refine ⟨holds_aroundZero_iff.mpr ⟨by norm_num, by norm_num⟩, n, ?_⟩
    ring

/-- The way over a third longitude is an arc too, with the turns of both its parts. -/
theorem distance_triangle (a b c : α) : distance a c ≤ distance a b + distance b c := by
  obtain ⟨n, first⟩ := exists_distance_eq a b
  obtain ⟨m, second⟩ := exists_distance_eq b c
  calc distance a c ≤ |a - c + (n + m : ℤ) * 360| := distance_le a c (n + m)
    _ = |(a - b + n * 360) + (b - c + m * 360)| := by
      congr 1
      push_cast
      ring
    _ ≤ |a - b + n * 360| + |b - c + m * 360| := abs_add_le _ _
    _ = distance a b + distance b c := by rw [first, second]

/-! ### Distances from the centers of windows -/

/-- How far a longitude lies from the center of a window shows once it is wrapped into it. -/
theorem distance_center (window : LonWindow) (lon : α) :
    distance lon window.center = |wrap window lon - window.center| := by
  have held := holds_iff_center.mp (wrap_holds window lon)
  have within : LonWindow.aroundZero.Holds (wrap window lon - (window.center : α)) :=
    holds_aroundZero_iff.mpr held
  have turned : lon - window.center = wrap window lon - window.center + turns window lon * 360 := by
    rw [wrap_eq]
    ring
  rw [distance_eq, turned, wrap_add_turns, wrap_of_holds within]

/-- The prime meridian and the antimeridian are half a turn apart, and every longitude lies between. -/
theorem distance_zero_add_distance_180 (lon : α) : distance lon 0 + distance lon 180 = 180 := by
  have zero := distance_center .aroundZero lon
  have antimeridian := distance_center .around180 lon
  obtain ⟨start, stop⟩ := holds_aroundZero_iff.mp (wrap_holds .aroundZero lon)
  rw [center_aroundZero, sub_zero] at zero
  rw [center_around180, ← wrap_wrap .around180 .aroundZero lon] at antimeridian
  rw [zero, antimeridian]
  by_cases east : 0 ≤ wrap .aroundZero lon
  · have held : LonWindow.around180.Holds (wrap .aroundZero lon) := by
      rw [holds_iff_center, center_around180]
      exact ⟨by linarith, by linarith⟩
    rw [wrap_of_holds held, abs_of_nonneg east, abs_of_nonpos (by linarith)]
    ring
  · have west := not_le.mp east
    have held : LonWindow.around180.Holds (wrap .aroundZero lon + (1 : ℤ) * 360) := by
      rw [holds_iff_center, center_around180, Int.cast_one]
      exact ⟨by linarith, by linarith⟩
    rw [wrap_eq_of_holds held, Int.cast_one, abs_of_neg west, abs_of_nonneg (by linarith)]
    ring

/-- Around a longitude that lies no more than a quarter turn from the center of a window, the window shows
distances of less than a quarter turn as they are. -/
theorem abs_wrap_sub_wrap {window : LonWindow} {lon middle : α}
    (central : distance middle window.center ≤ 90) (near : distance lon middle < 90) :
    |wrap window lon - wrap window middle| = distance lon middle := by
  rw [distance_center, abs_le] at central
  rw [distance_eq, abs_lt] at near
  have turned : wrap window middle + wrap .aroundZero (lon - middle) =
      lon + (-turns window middle - turns .aroundZero (lon - middle) : ℤ) * 360 := by
    rw [wrap_eq, wrap_eq]
    push_cast
    ring
  have held : window.Holds (wrap window middle + wrap .aroundZero (lon - middle)) := by
    rw [holds_iff_center]
    exact ⟨by linarith, by linarith⟩
  rw [turned] at held
  rw [wrap_eq_of_holds held, ← turned, distance_eq, add_sub_cancel_left]

/-- A distance is the length of the shortest arc between two longitudes, however many turns these are given
with. It is half a turn at most, it is the same there and back, it vanishes between longitudes that differ by
whole turns and no others, and a way over a third longitude is no shorter. Each longitude lies on an arc from
the prime meridian to the antimeridian. -/
theorem distance_shortest_arc (a b c : α) :
    IsLeast (Set.range fun n : ℤ => |a - b + n * 360|) (distance a b) ∧
    (0 ≤ distance a b ∧ distance a b ≤ 180) ∧
    distance a b = distance b a ∧
    (distance a b = 0 ↔ ∃ n : ℤ, b = a + n * 360) ∧
    distance a c ≤ distance a b + distance b c ∧
    distance a 0 + distance a 180 = 180 := by
  refine ⟨isLeast_distance a b, ⟨distance_nonneg a b, distance_le_180 a b⟩, distance_comm a b, ?_, ?_, ?_⟩
  · exact distance_eq_zero_iff
  · exact distance_triangle a b c
  · exact distance_zero_add_distance_180 a

example : distance (-90 : ℚ) 90 = 180 ∧ distance (90 : ℚ) (-90) = 180 ∧ distance (730 : ℚ) (-1) = 11 := by
  decide +kernel

end GeoRaster.Longitude
