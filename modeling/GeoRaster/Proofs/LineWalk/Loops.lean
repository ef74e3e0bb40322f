import GeoRaster.Proofs.LineWalk

/-! How loops draw a line. The outer loop takes a pen along the longer axis, one step a turn; in each
turn an inner loop first takes it along the shorter axis until the error is negative. Both come to
an end on every line, and what they draw is the walk that counts the turns of the inner loop
instead of taking them. -/
namespace GeoRaster.LineWalk

/-- A pen over the grid: where it is along the longer axis and along the shorter one, and the running
error. -/
structure Pen where
  along : Int
  across : Int
  error : Int

namespace Pen

/-- One turn of the inner loop. -/
def sidestep (long stepShort : Int) (pen : Pen) : Pen :=
  ⟨pen.along, pen.across + stepShort, pen.error - 2 * long⟩

/-- The rest of a turn of the outer loop. -/
def advance (short stepLong : Int) (pen : Pen) : Pen :=
  ⟨pen.along + stepLong, pen.across, pen.error + 2 * short⟩

/-- The inner loop, from a pen to the one that it ends with: it turns as long as the error is not
negative. -/
inductive Settles (long stepShort : Int) : Pen → Pen → Prop
  | rest {pen : Pen} : pen.error < 0 → Settles long stepShort pen pen
  | turn {pen settled : Pen} : 0 ≤ pen.error →
    Settles long stepShort (pen.sidestep long stepShort) settled →
      Settles long stepShort pen settled

/-- The outer loop, with the places that it draws and the pen that it ends with. It has a number of turns,
and in each of them the inner loop has to come to an end. -/
inductive Draws (long short stepLong stepShort : Int) : Nat → Pen → List (Int × Int) → Pen → Prop
  | done {pen : Pen} : Draws long short stepLong stepShort 0 pen [] pen
  | turn {turns : Nat} {pen settled last : Pen} {places : List (Int × Int)} :
    Settles long stepShort pen settled →
      Draws long short stepLong stepShort turns (settled.advance short stepLong) places last →
        Draws long short stepLong stepShort (turns + 1) pen ((pen.along, pen.across) :: places) last

variable {long short stepLong stepShort : Int} {pen settled : Pen}

/-! ### The inner loop -/

theorem Settles.unique {other : Pen} (settles : Settles long stepShort pen settled)
    (again : Settles long stepShort pen other) : settled = other := by
  induction settles with
  | rest negative =>
    cases again with
    | rest => rfl
    | turn nonneg => omega
  | turn nonneg _ ih =>
    cases again with
    | rest negative => omega
    | turn _ rest => exact ih rest

/-- The inner loop ends after the first turn that makes the error negative. -/
theorem settles_of_turns (turns : Nat) (going : ∀ k < turns, 0 ≤ pen.error - 2 * long * (k : Nat))
    (negative : pen.error - 2 * long * turns < 0) :
    Settles long stepShort pen
      ⟨pen.along, pen.across + stepShort * turns, pen.error - 2 * long * turns⟩ := by
  induction turns generalizing pen with
  | zero =>
    have unmoved : (⟨pen.along, pen.across + stepShort * ((0 : Nat) : Int),
        pen.error - 2 * long * ((0 : Nat) : Int)⟩ : Pen) = pen := by simp
    rw [unmoved]
    apply Settles.rest
    simpa using negative
  | succ turns ih =>
    have moved : (⟨pen.along, pen.across + stepShort * ((turns + 1 : Nat) : Int),
        pen.error - 2 * long * ((turns + 1 : Nat) : Int)⟩ : Pen) =
          ⟨(pen.sidestep long stepShort).along,
            (pen.sidestep long stepShort).across + stepShort * turns,
            (pen.sidestep long stepShort).error - 2 * long * turns⟩ := by
      simp only [sidestep, mk.injEq, true_and]
      constructor
      · push_cast
        ring
      · push_cast
        ring
    rw [moved]
    apply Settles.turn
    · simpa using going 0 (Nat.succ_pos turns)
    · apply ih
      · intro k less
        have next := going (k + 1) (Nat.succ_lt_succ less)
        push_cast at next
        simp only [sidestep]
        linarith
      · push_cast at negative
        simp only [sidestep]
        linarith

/-- How often the inner loop turns. -/
def turnsFor (long error : Int) : Int :=
  if 0 ≤ error then error / (2 * long) + 1 else 0

/-- The inner loop comes to an end, and to one only, after the turns that were counted. -/
theorem settles_iff (positive : 0 < long) :
    Settles long stepShort pen settled ↔
      settled = ⟨pen.along, pen.across + stepShort * turnsFor long pen.error,
        pen.error - 2 * long * turnsFor long pen.error⟩ := by
  have ends : Settles long stepShort pen
      ⟨pen.along, pen.across + stepShort * turnsFor long pen.error,
        pen.error - 2 * long * turnsFor long pen.error⟩ := by
    rcases le_or_gt 0 pen.error with nonneg | negative
    · have below := Int.ediv_mul_le pen.error (show 2 * long ≠ 0 by omega)
      have above := Int.lt_ediv_add_one_mul_self pen.error (show 0 < 2 * long by omega)
      obtain ⟨turns, counted⟩ :=
        Int.eq_ofNat_of_zero_le (Int.ediv_nonneg nonneg (show 0 ≤ 2 * long by omega))
      rw [turnsFor, if_pos nonneg, counted]
      rw [counted] at below above
      refine settles_of_turns (turns + 1) ?_ ?_
      · intro k less
        have le : (k : Int) * (2 * long) ≤ turns * (2 * long) :=
          mul_le_mul_of_nonneg_right (by omega) (by omega)
        linarith
      · push_cast
        linarith
    · rw [turnsFor, if_neg (not_le.mpr negative)]
      exact settles_of_turns 0 (by simp) (by simpa using negative)
  constructor
  · intro settles
    exact settles.unique ends
  · rintro rfl
    exact ends

/-! ### The outer loop -/

/-- The pen of a line after some turns of the outer loop. -/
def onLine (long short stepLong stepShort x y : Int) (i : Nat) : Pen :=
  ⟨x + stepLong * i, y + stepShort * offset long short i, errorAfter long short i⟩

/-- One turn of the outer loop takes the pen of a line on by one. -/
theorem advance_settled (positive : 0 < long) (nonneg : 0 ≤ short) (x y : Int) (i : Nat)
    (settles : Settles long stepShort (onLine long short stepLong stepShort x y i) settled) :
    settled.advance short stepLong = onLine long short stepLong stepShort x y (i + 1) := by
  have counted : offset long short ((i : Int) + 1) =
      offset long short i + turnsFor long (errorAfter long short i) :=
    offset_succ positive nonneg i
  rw [settles_iff positive] at settles
  subst settles
  simp only [onLine, advance, mk.injEq, Nat.cast_add, Nat.cast_one]
  refine ⟨by ring, ?_, ?_⟩
  · rw [counted]
    ring
  · rw [errorAfter_succ, counted]
    ring

/-- From a pen of a line, the outer loop draws the places that follow and ends with the pen that it has
come to. -/
theorem draws_onLine_iff (positive : 0 < long) (nonneg : 0 ≤ short) (x y : Int) (turns i : Nat)
    {places : List (Int × Int)} {last : Pen} :
    Draws long short stepLong stepShort turns (onLine long short stepLong stepShort x y i) places last ↔
      places = (List.range' i turns).map
          (fun (j : Nat) => (x + stepLong * j, y + stepShort * offset long short j)) ∧
        last = onLine long short stepLong stepShort x y (i + turns) := by
  induction turns generalizing i places with
  | zero =>
    constructor
    · intro drawn
      cases drawn
      exact ⟨rfl, rfl⟩
    · rintro ⟨rfl, rfl⟩
      exact .done
  | succ turns ih =>
    rw [List.range'_succ, List.map_cons, show i + (turns + 1) = i + 1 + turns by omega]
    constructor
    · intro drawn
      cases drawn with
      | turn settles rest =>
        rw [advance_settled positive nonneg x y i settles, ih] at rest
        obtain ⟨rfl, rfl⟩ := rest
        exact ⟨rfl, rfl⟩
    · rintro ⟨rfl, rfl⟩
      obtain ⟨settled, settles⟩ : ∃ settled,
          Settles long stepShort (onLine long short stepLong stepShort x y i) settled :=
        ⟨_, (settles_iff positive).mpr rfl⟩
      refine .turn settles ?_
      rw [advance_settled positive nonneg x y i settles]
      exact (ih (i + 1)).mpr ⟨rfl, rfl⟩

/-- Loops that start with a line draw the walk along it, and end where the line does. -/
theorem draws_walk_iff {long short : Nat} (le : short ≤ long) (x y : Int)
    {places : List (Int × Int)} {last : Pen} :
    Draws long short stepLong stepShort long ⟨x, y, 2 * short - long⟩ places last ↔
      places = walk long short stepLong stepShort long x y (2 * short - long) ∧
        last = ⟨x + stepLong * long, y + stepShort * short, errorAfter long short long⟩ := by
  rcases Nat.eq_zero_or_pos long with none | some
  · -- a line from a place to itself has no turns
    obtain rfl : short = 0 := by omega
    subst none
    have unmoved : (⟨x + stepLong * ((0 : Nat) : Int), y + stepShort * ((0 : Nat) : Int),
        errorAfter ((0 : Nat) : Int) ((0 : Nat) : Int) ((0 : Nat) : Int)⟩ : Pen) =
          ⟨x, y, 2 * ((0 : Nat) : Int) - ((0 : Nat) : Int)⟩ := by
      simp [errorAfter, offset]
    rw [unmoved]
    constructor
    · intro drawn
      cases drawn
      exact ⟨rfl, rfl⟩
    · rintro ⟨rfl, rfl⟩
      exact .done
  · have positive : 0 < (long : Int) := Int.natCast_pos.mpr some
    have start : (⟨x, y, 2 * short - long⟩ : Pen) = onLine long short stepLong stepShort x y 0 := by
      simp [onLine, offset_zero positive.le, errorAfter]
    have stop : onLine long short stepLong stepShort x y (0 + long) =
        ⟨x + stepLong * long, y + stepShort * short, errorAfter long short long⟩ := by
      simp [onLine, offset_long (Int.natCast_nonneg short) (Int.ofNat_le.mpr le)]
    rw [start, draws_onLine_iff positive (Int.natCast_nonneg short), stop,
      walk_line positive (Int.natCast_nonneg short), List.range_eq_range']

end Pen

/-! ### Lines -/

/-- How a line is drawn from one end to another: loops whose pen goes along the longer axis, the second one
if both are the same, and then the other end itself. Where the loops have taken the pen is kept. -/
inductive LineDrawn (start stop : Int × Int) : List (Int × Int) → Int × Int → Prop
  | wide {places : List (Int × Int)} {last : Pen} :
    (stop.2 - start.2).natAbs < (stop.1 - start.1).natAbs →
    Pen.Draws (stop.1 - start.1).natAbs (stop.2 - start.2).natAbs (unitStep start.1 stop.1)
        (unitStep start.2 stop.2) (stop.1 - start.1).natAbs
        ⟨start.1, start.2, 2 * (stop.2 - start.2).natAbs - (stop.1 - start.1).natAbs⟩ places last →
      LineDrawn start stop (places ++ [stop]) (last.along, last.across)
  | high {places : List (Int × Int)} {last : Pen} :
    (stop.1 - start.1).natAbs ≤ (stop.2 - start.2).natAbs →
    Pen.Draws (stop.2 - start.2).natAbs (stop.1 - start.1).natAbs (unitStep start.2 stop.2)
        (unitStep start.1 stop.1) (stop.2 - start.2).natAbs
        ⟨start.2, start.1, 2 * (stop.1 - start.1).natAbs - (stop.2 - start.2).natAbs⟩ places last →
      LineDrawn start stop (places.map Prod.swap ++ [stop]) (last.across, last.along)

/-- The loops come to an end on every line. They draw the line and nothing else, and the end that is appended
at the last is where they have taken the pen. -/
theorem lineDrawn_iff {start stop reached : Int × Int} {places : List (Int × Int)} :
    LineDrawn start stop places reached ↔ places = line start stop ∧ reached = stop := by
  have atFirst := add_unitStep_mul start.1 stop.1
  have atSecond := add_unitStep_mul start.2 stop.2
  by_cases wider : (stop.2 - start.2).natAbs < (stop.1 - start.1).natAbs
  · simp only [line, if_pos wider]
    constructor
    · intro drawn
      cases drawn with
      | wide _ loops =>
        obtain ⟨rfl, rfl⟩ := (Pen.draws_walk_iff wider.le start.1 start.2).mp loops
        exact ⟨rfl, Prod.ext atFirst atSecond⟩
      | high notWider => omega
    · rintro ⟨rfl, rfl⟩
      have drawn := LineDrawn.wide wider ((Pen.draws_walk_iff wider.le start.1 start.2).mpr ⟨rfl, rfl⟩)
      rwa [atFirst, atSecond] at drawn
  · have notWider := Nat.not_lt.mp wider
    simp only [line, if_neg wider]
    constructor
    · intro drawn
      cases drawn with
      | wide wider => omega
      | high _ loops =>
        obtain ⟨rfl, rfl⟩ := (Pen.draws_walk_iff notWider start.2 start.1).mp loops
        exact ⟨rfl, Prod.ext atFirst atSecond⟩
    · rintro ⟨rfl, rfl⟩
      have drawn := LineDrawn.high notWider
        ((Pen.draws_walk_iff notWider start.2 start.1).mpr ⟨rfl, rfl⟩)
      rwa [atFirst, atSecond] at drawn

end GeoRaster.LineWalk
