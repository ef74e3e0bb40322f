/-! Walks along a line through the integer grid. A walk takes one step along the longer axis
at a time and keeps a running error that tells when to step along the shorter one, so that
it stays within half a unit of the straight line. -/
namespace GeoRaster.LineWalk

/-- The grid points of a walk, as (longer, shorter) coordinates, from a state with the given
error: `long` and `short` are the extents of the line, `stepLong` and `stepShort` the unit
steps towards its end. While the error is not negative, the walk steps along the shorter
axis and the error drops by `2 * long`; that is once for every whole `2 * long` in it, and
once more. -/
def walk (long short stepLong stepShort : Int) : (steps : Nat) → (atLong atShort error : Int) →
    List (Int × Int)
  | 0, _, _, _ => []
  | steps + 1, atLong, atShort, error =>
    let moves := if 0 ≤ error then error / (2 * long) + 1 else 0
    (atLong, atShort) :: walk long short stepLong stepShort steps (atLong + stepLong)
      (atShort + stepShort * moves) (error - 2 * long * moves + 2 * short)

/-- The unit step from one coordinate towards another; from a coordinate to itself it leads
backwards, but is never taken. -/
def unitStep (start stop : Int) : Int :=
  if start < stop then 1 else -1

def line (start stop : Int × Int) : List (Int × Int) :=
  let d₁ := (stop.1 - start.1).natAbs
  let d₂ := (stop.2 - start.2).natAbs
  let s₁ := unitStep start.1 stop.1
  let s₂ := unitStep start.2 stop.2
  let inner :=
    if d₂ < d₁ then walk d₁ d₂ s₁ s₂ d₁ start.1 start.2 (2 * d₂ - d₁)
    else (walk d₂ d₁ s₂ s₁ d₂ start.2 start.1 (2 * d₁ - d₂)).map Prod.swap
  inner ++ [stop]

def diagonals (x₀ y₀ x₁ y₁ : Int) : List (Int × Int) :=
  line (x₀, y₀) (x₁, y₁) ++ line (x₁, y₀) (x₀, y₁)

end GeoRaster.LineWalk
