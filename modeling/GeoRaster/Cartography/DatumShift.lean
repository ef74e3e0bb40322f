import GeoRaster.Cartography.Ellipsoid
import GeoRaster.Point

/-! Shifts between the datum of a map and WGS 84. A datum is shifted in space: longitude and
latitude become a point of space around the center of the one ellipsoid, which is turned, scaled
and moved to the other one. Shifts by grids are left out: where grids are asked for, and all of
them can be done without, coordinates stay as they are. -/
namespace GeoRaster.Cartography

/-- A point of space, counted from the center of an ellipsoid, in meters. -/
structure SpacePoint where
  x : Float
  y : Float
  z : Float

namespace Ellipsoid

def toSpace (e : Ellipsoid) (p : Point Float) : SpacePoint :=
  let s := p.y.sin
  let n := e.radius * e.globe.crossRadius s
  ⟨n * p.y.cos * p.x.cos, n * p.y.cos * p.x.sin, n * (1.0 - e.globe.es) * s⟩

def direction (x y : Float) : Float × Float :=
  let r := hypot x y
  if r == 0.0 then (1.0, 0.0) else (x / r, y / r)

def ofSpace (e : Ellipsoid) (p : SpacePoint) : Point Float :=
  let x := p.x / e.radius
  let y := p.y / e.radius
  let z := p.z / e.radius
  let es := e.globe.es
  let ratio := e.globe.axisRatio
  let across := hypot x y
  let (c, s) := direction (across * ratio) z
  let north := z + es / (1.0 - es) * ratio * s * s * s
  let out := across - es * c * c * c
  let lat := if out ≤ 0.0 then (if 0.0 ≤ z then halfPi else -halfPi) else (north / out).atan
  ⟨y.atan2 x, lat⟩

end Ellipsoid

/-- A movement of space: turns about the axes in radians, a scale, and a displacement in
meters. -/
structure Helmert where
  displacement : SpacePoint
  turn : SpacePoint
  scale : Float

namespace Helmert

def rows (h : Helmert) : SpacePoint × SpacePoint × SpacePoint :=
  let cf := h.turn.x.cos
  let sf := h.turn.x.sin
  let ct := h.turn.y.cos
  let st := h.turn.y.sin
  let cp := h.turn.z.cos
  let sp := h.turn.z.sin
  (⟨ct * cp, -(ct * sp), st⟩,
    ⟨cf * sp + sf * st * cp, cf * cp - sf * st * sp, -(sf * ct)⟩,
    ⟨sf * sp - cf * st * cp, sf * cp + cf * st * sp, cf * ct⟩)

def dot (p q : SpacePoint) : Float :=
  p.x * q.x + p.y * q.y + p.z * q.z

def forward (h : Helmert) (p : SpacePoint) : SpacePoint :=
  let (r₁, r₂, r₃) := h.rows
  ⟨h.scale * dot r₁ p + h.displacement.x, h.scale * dot r₂ p + h.displacement.y,
    h.scale * dot r₃ p + h.displacement.z⟩

def inverse (h : Helmert) (p : SpacePoint) : SpacePoint :=
  let (r₁, r₂, r₃) := h.rows
  let x := (p.x - h.displacement.x) / h.scale
  let y := (p.y - h.displacement.y) / h.scale
  let z := (p.z - h.displacement.z) / h.scale
  ⟨r₁.x * x + r₂.x * y + r₃.x * z, r₁.y * x + r₂.y * y + r₃.y * z,
    r₁.z * x + r₂.z * y + r₃.z * z⟩

/-- The movement that a list of numbers gives: the displacement, the turns in seconds of arc, and
the excess of the scale in millionths. Numbers that are missing are zero, and without turns and
excess the movement is the displacement. -/
def ofNumbers (numbers : List Float) : Helmert :=
  let get (i : Nat) : Float := numbers.getD i 0.0
  let second : Float := 4.84813681109535993589914102357e-6
  { displacement := ⟨get 0, get 1, get 2⟩
    turn := ⟨get 3 * second, get 4 * second, get 5 * second⟩
    scale := get 6 / 1000000.0 + 1.0 }

/-- The numbers of a list with commas; no more than seven count. -/
def numbers (value : String) : List Float :=
  ((value.splitOn ",").take 7).map fun part => (Decimal.Leading.read part.toList).value

end Helmert

/-- A datum that has a name: the key of its ellipsoid, and how it is shifted. -/
structure NamedDatum where
  key : String
  ellipsoid : String
  shift : Entry

namespace NamedDatum

def inSpace (numbers : String) : Entry :=
  ⟨"towgs84", some numbers⟩

def all : List NamedDatum := [
  ⟨"WGS84", "WGS84", inSpace "0,0,0"⟩,
  ⟨"GGRS87", "GRS80", inSpace "-199.87,74.79,246.62"⟩,
  ⟨"NAD83", "GRS80", inSpace "0,0,0"⟩,
  ⟨"NAD27", "clrk66", ⟨"nadgrids", some "@conus,@alaska,@ntv2_0.gsb,@ntv1_can.dat"⟩⟩,
  ⟨"potsdam", "bessel", inSpace "598.1,73.7,418.2,0.202,0.045,-2.455,6.7"⟩,
  ⟨"carthage", "clrk80ign", inSpace "-263.0,6.0,431.0"⟩,
  ⟨"hermannskogel", "bessel", inSpace "577.326,90.129,463.919,5.137,1.474,5.297,2.4232"⟩,
  ⟨"ire65", "mod_airy", inSpace "482.530,-130.596,564.557,-1.042,-0.214,-0.631,8.15"⟩,
  ⟨"nzgd49", "intl", inSpace "59.47,-5.04,187.44,0.47,-0.1,1.024,-4.5993"⟩,
  ⟨"OSGB36", "airy", inSpace "446.448,-125.157,542.060,0.1502,0.2470,0.8421,-20.4894"⟩]

def ofKey? (key : String) : Option NamedDatum :=
  all.find? (·.key = key)

end NamedDatum

namespace Definition

def ellipsoidKeys : List String :=
  ["datum", "ellps", "a", "b", "rf", "f", "e", "es"]

def lacksEllipsoid (d : Definition) : Bool :=
  !ellipsoidKeys.any d.has

/-- The definition with what follows from it: a common ellipsoid where nothing is said about it
and defaults are wanted, and the ellipsoid and the shift of a datum. -/
def completed (d : Definition) : Except String Definition :=
  let d := if d.lacksEllipsoid && !d.has "no_defs" then d.append [⟨"ellps", some "GRS80"⟩] else d
  match d.value? "datum" with
  | none => .ok d
  | some key =>
    match NamedDatum.ofKey? key with
    | some datum => .ok (d.append [⟨"ellps", some datum.ellipsoid⟩, datum.shift])
    | none => .error "unknown datum"

end Definition

/-- A shift from WGS 84 to the datum of a map: through space, after a movement of it. -/
structure DatumShift where
  ellipsoid : Ellipsoid
  movement : Option Helmert

namespace DatumShift

def wgs84 : Ellipsoid :=
  .ofFlattening 6378137.0 (1.0 / 298.257223563)

def isWgs84 (e : Ellipsoid) : Bool :=
  (e.radius - 6378137.0).abs < 1.0e-8 && (e.globe.es - 0.0066943799901413).abs < 1.0e-15

/-- Whether grids can be done without: each may be missing, or is none at all. -/
def areOptional (grids : String) : Bool :=
  (grids.splitOn ",").all fun grid => grid.toList.head? = some '@' || grid = "null"

def ofDefinition (d : Definition) (e : Ellipsoid) : Except String (Option DatumShift) :=
  match (d.value? "nadgrids").filter (· ≠ ""), d.value? "towgs84" with
  | some grids, _ => if areOptional grids then .ok none else .error "missing grid"
  | none, none => .ok none
  | none, some value =>
    let numbers := Helmert.numbers value
    if numbers.all (· == 0.0) then .ok (if isWgs84 e then none else some ⟨e, none⟩)
    else .ok (some ⟨e, some (Helmert.ofNumbers numbers)⟩)

def fromWgs84 (s : DatumShift) (p : Point Float) : Point Float :=
  let q := wgs84.toSpace p
  s.ellipsoid.ofSpace (match s.movement with
    | some h => h.inverse q
    | none => q)

def toWgs84 (s : DatumShift) (p : Point Float) : Point Float :=
  let q := s.ellipsoid.toSpace p
  wgs84.ofSpace (match s.movement with
    | some h => h.forward q
    | none => q)

end DatumShift

end GeoRaster.Cartography
