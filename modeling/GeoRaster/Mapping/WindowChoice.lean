import GeoRaster.Logged
import GeoRaster.Longitude
import GeoRaster.Point
import GeoRaster.Projection.Tokens

/-! Which longitude window an image is reported in. The window should hold the image's
footprint in one piece, and is chosen from the projection and the pixel transform alone. -/
namespace GeoRaster.Mapping

open Scalar (ofInt)
open Projection (isUTM isOrthographic extractValue)

/-- A chosen window with the rule that chose it. -/
structure WindowChoice where
  window : LonWindow
  reason : String
deriving DecidableEq, Repr

namespace WindowChoice

/-- Whether `+over` can leave the projection: around the prime meridian nothing is lost when
a provider wraps longitudes by itself. -/
def clearsOver (c : WindowChoice) : Bool :=
  c.window.isCenterZero

def note (c : WindowChoice) : Logged Unit :=
  Logged.debug ("longitude range " ++ c.window.name ++ ": " ++ c.reason)

variable {α : Type} [Scalar α]

/-- The window whose center is nearer to the central longitude of an orthographic projection;
the first pixel may lie off the visible hemisphere and tells nothing. -/
def forOrthographic (centralLongitude : Option α) : WindowChoice :=
  match centralLongitude with
  | none => ⟨.aroundZero, "orthographic without +lon_0"⟩
  | some lon =>
    let start := "orthographic, +lon_0=" ++ Scalar.text lon
    if Longitude.distance lon (ofInt 180) < Longitude.distance lon (ofInt 0) then
      ⟨.around180, start ++ " closer to 180"⟩
    else ⟨.aroundZero, start ++ " closer to 0"⟩

/-- The window for the longitude of the first pixel. Between 0 and 180 degrees both windows
hold it, and the one is taken in which the image has room to grow along its rows. -/
def forStart (xScale start : α) : WindowChoice :=
  let found := "start longitude " ++ Scalar.text start
  if ofInt 180 < start then ⟨.around180, found ++ " > 180"⟩
  else if start < ofInt 0 then ⟨.aroundZero, found ++ " < 0"⟩
  else if ofInt 0 < xScale then ⟨.around180, found ++ " in [0,180], increasing"⟩
  else ⟨.aroundZero, found ++ " in [0,180], decreasing"⟩

/-- The window for an attempt at the longitude of the first pixel; where the first pixel lies
outside the projection's domain, no window can be chosen. -/
def ofAttempt (xScale : α) : Except Fault α → Except Fault WindowChoice
  | .ok start => .ok (forStart xScale start)
  | .error e => .error (if e.kind = .projectionMath then .startOutsideDomain e.message else e)

/-- The window for a projection string, the x-scale of the pixel transform, and the unwrapped
longitude of the first pixel, which is asked for only where it matters. -/
def choose (projection : String) (xScale : α) (startLongitude : Unit → Except Fault α) :
    Except Fault WindowChoice :=
  if isUTM projection then .ok ⟨.aroundZero, "UTM"⟩
  else if isOrthographic projection then
    .ok (forOrthographic (extractValue (α := α) projection "lon_0"))
  else ofAttempt xScale (startLongitude ())

end WindowChoice

end GeoRaster.Mapping
