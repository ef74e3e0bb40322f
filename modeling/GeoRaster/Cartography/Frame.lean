import GeoRaster.Cartography.DatumShift
import GeoRaster.Cartography.LinearUnit
import GeoRaster.Cartography.Meridian

/-! What surrounds the map of a globe: on the side of the globe the datum, the prime meridian and
the central meridian; on the side of the plane the size of the globe, the false origin, the unit
of length and the directions of the axes. -/
namespace GeoRaster.Cartography

/-- The direction of an axis: east, north or up, or the opposite. -/
structure Axis where
  /-- Zero for east and west, one for north and south, two for up and down. -/
  place : Nat
  sign : Float

namespace Axis

def ofLetter? : Char → Option Axis
  | 'e' => some ⟨0, 1.0⟩
  | 'w' => some ⟨0, -1.0⟩
  | 'n' => some ⟨1, 1.0⟩
  | 's' => some ⟨1, -1.0⟩
  | 'u' => some ⟨2, 1.0⟩
  | 'd' => some ⟨2, -1.0⟩
  | _ => none

def component (axis : Axis) (p : Point Float) : Float :=
  axis.sign * (match axis.place with
    | 0 => p.x
    | 1 => p.y
    | _ => 0.0)

end Axis

/-- The directions of the axes of the plane and of the one that stands on it. -/
structure Axes where
  first : Axis
  second : Axis
  third : Axis

namespace Axes

def usual : Axes :=
  ⟨⟨0, 1.0⟩, ⟨1, 1.0⟩, ⟨2, 1.0⟩⟩

def ofLetters? (letters : String) : Option Axes :=
  match letters.toList.map Axis.ofLetter? with
  | [some a, some b, some c] =>
    if a.place = b.place || a.place = c.place || b.place = c.place then none else some ⟨a, b, c⟩
  | _ => none

def forward (axes : Axes) (p : Point Float) : Point Float :=
  ⟨axes.first.component p, axes.second.component p⟩

def towards (axes : Axes) (place : Nat) (p : Point Float) : Float :=
  if axes.first.place = place then axes.first.sign * p.x
  else if axes.second.place = place then axes.second.sign * p.y
  else 0.0

def inverse (axes : Axes) (p : Point Float) : Point Float :=
  ⟨axes.towards 0 p, axes.towards 1 p⟩

end Axes

/-- The surroundings of a map. Angles are in radians, lengths in meters. -/
structure Frame where
  ellipsoid : Ellipsoid
  shift : Option DatumShift
  /-- Whether latitudes are seen from the center of the ellipsoid. -/
  geocentric : Bool
  /-- Whether longitudes are left unwrapped. -/
  unwrapped : Bool
  /-- The longitude that longitudes of the plane side are wrapped around, if they are. -/
  window : Option Float
  primeMeridian : Float
  centralMeridian : Float
  falseEasting : Float
  falseNorthing : Float
  /-- The unit of the plane. -/
  unit : Float
  axes : Axes

namespace Frame

def wrap (lon : Float) : Float :=
  if lon.abs < pi + 1.0e-12 then lon
  else
    let turned := lon + pi
    turned - 2.0 * pi * (turned / (2.0 * pi)).floor - pi

def isBetweenPoles (lat : Float) : Bool :=
  lat.abs ≤ halfPi - 1.0e-9

def scale (d : Definition) : Float :=
  ((d.number? "k_0").or (d.number? "k")).getD 1.0

def axesOf (d : Definition) : Except String Axes :=
  match d.value? "axis" with
  | none => .ok .usual
  | some letters =>
    match Axes.ofLetters? letters with
    | some axes => .ok axes
    | none => .error "invalid axes"

def windowOf (d : Definition) : Except String (Option Float) :=
  match d.angle? "lon_wrap" with
  | none => .ok none
  | some center => if center.abs < 20.0 * pi then .ok (some center) else .error "invalid window"

/-- The surroundings that a completed definition gives. Its central latitude and its scale must
make sense even if the map makes no use of them. -/
def ofDefinition (d : Definition) : Except String Frame := do
  let e ← Ellipsoid.ofDefinition d
  let shift ← DatumShift.ofDefinition d e
  let window ← windowOf d
  let axes ← axesOf d
  if halfPi < (d.angle "lat_0").abs then throw "invalid central latitude"
  if scale d ≤ 0.0 then throw "invalid scale"
  let unit ← d.unitSize? "units" "to_meter"
  let _ ← d.unitSize? "vunits" "vto_meter"
  let primeMeridian ← d.meridian
  return {
    ellipsoid := e
    shift
    geocentric := !e.globe.isSphere && (d.choice? "geoc").getD false
    unwrapped := (d.choice? "over").getD false
    window
    primeMeridian
    centralMeridian := d.angle "lon_0"
    falseEasting := d.number "x_0"
    falseNorthing := d.number "y_0"
    unit := unit.getD 1.0
    axes }

/-- A longitude, wrapped unless the frame leaves longitudes as they are. -/
def settle (f : Frame) (lon : Float) : Float :=
  if f.unwrapped then lon else wrap lon

/-- The longitude, counted from the central meridian, and latitude on the map's ellipsoid of a
position on WGS 84. Latitudes may exceed a pole by rounding only. -/
def enter? (f : Frame) (p : Point Float) : Option (Point Float) :=
  if p.x.abs ≤ 10.0 && p.y.abs - halfPi ≤ 1.0e-12 then
    let lat := if halfPi < p.y then halfPi else if p.y < -halfPi then -halfPi else p.y
    let lat := if f.geocentric && isBetweenPoles lat then
        (lat.tan / (1.0 - f.ellipsoid.globe.es)).atan
      else lat
    let q : Point Float := ⟨f.settle p.x, lat⟩
    let q := match f.shift with
      | some shift => shift.fromWgs84 q
      | none => q
    some ⟨f.settle (q.x - f.primeMeridian - f.centralMeridian), q.y⟩
  else none

/-- The position on WGS 84 of a longitude, counted from the central meridian, and latitude on the
map's ellipsoid. -/
def leave (f : Frame) (p : Point Float) : Point Float :=
  let q : Point Float := ⟨f.settle (p.x + f.primeMeridian + f.centralMeridian), p.y⟩
  let q := match f.shift with
    | some shift => shift.toWgs84 q
    | none => q
  if f.geocentric && isBetweenPoles q.y then
    ⟨q.x, (q.y.tan * (1.0 - f.ellipsoid.globe.es)).atan⟩
  else q

/-- The point of the plane in the frame's unit, given a point of the map of the unit globe. -/
def place (f : Frame) (p : Point Float) : Point Float :=
  f.axes.forward ⟨1.0 / f.unit * (f.ellipsoid.radius * p.x + f.falseEasting),
    1.0 / f.unit * (f.ellipsoid.radius * p.y + f.falseNorthing)⟩

def unplace (f : Frame) (p : Point Float) : Point Float :=
  let q := f.axes.inverse p
  ⟨(f.unit * q.x - f.falseEasting) / f.ellipsoid.radius,
    (f.unit * q.y - f.falseNorthing) / f.ellipsoid.radius⟩

def placeAngles (f : Frame) (p : Point Float) : Point Float :=
  let lon := match f.window with
    | some center => center + wrap (p.x - center)
    | none => p.x
  (f.axes.forward ⟨lon, p.y⟩).map Scalar.degrees

def unplaceAngles (f : Frame) (p : Point Float) : Point Float :=
  f.axes.inverse (p.map Scalar.radians)

end Frame

end GeoRaster.Cartography
