import GeoRaster.Scalar

/-! Longitudes in degrees. A longitude is one of many numbers that differ by whole turns, and
a window of 360 degrees holds exactly one of them. Two windows are in use: one around the
prime meridian and one around the antimeridian. -/
namespace GeoRaster

open Scalar (ofInt)

inductive LonWindow where
  /-- From -180 up to, but without, 180. -/
  | aroundZero
  /-- From 0 up to, but without, 360. -/
  | around180
deriving DecidableEq, Repr

namespace LonWindow

/-- The window's end, in degrees; it does not belong to the window. -/
def upper : LonWindow → Int
  | .aroundZero => 180
  | .around180 => 360

/-- The window's start, in degrees; it belongs to the window. -/
def lower (w : LonWindow) : Int :=
  w.upper - 360

def name : LonWindow → String
  | .aroundZero => "[-180, 180]"
  | .around180 => "[0, 360]"

def ofCenterZero : Bool → LonWindow
  | true => .aroundZero
  | false => .around180

def isCenterZero : LonWindow → Bool
  | .aroundZero => true
  | .around180 => false

end LonWindow

namespace Longitude

variable {α : Type} [Scalar α]

/-- The longitude in the window that differs from the given one by whole turns. A longitude
in the window is left as it is. Rounding can leave the difference of a multiple of 360 just
outside the window; one more turn then brings it in. -/
def wrap (window : LonWindow) (lon : α) : α :=
  let turn : α := ofInt 360
  let upper : α := ofInt window.upper
  let lower := upper - turn
  if lon < lower ∨ upper ≤ lon then
    let near := lon - Scalar.floorQuotient (lon - lower) turn * turn
    let notAbove := if upper ≤ near then near - turn else near
    if notAbove < lower then notAbove + turn else notAbove
  else lon

def distance (a b : α) : α :=
  Scalar.abs (wrap .aroundZero (a - b))

end Longitude

end GeoRaster
