import GeoRaster.Cartography.ConformalConic
import GeoRaster.Cartography.Cylindrical
import GeoRaster.Cartography.DoubleStereographic
import GeoRaster.Cartography.EqualArea
import GeoRaster.Cartography.Frame
import GeoRaster.Cartography.Gnomonic
import GeoRaster.Cartography.Orthographic
import GeoRaster.Cartography.Stereographic
import GeoRaster.Cartography.TransverseMercator
import GeoRaster.Cartography.Undrawn
import GeoRaster.Projection.Provider
import GeoRaster.Projection.Tokens
import GeoRaster.Text.Blank

/-! The provider of the projections that maps of planets are made in. A projection string names
the projection, the globe, the central meridian and the false origin; what else it may say
depends on the projection. -/
namespace GeoRaster.Cartography

open Projection (Evaluation Evaluator Provider)

inductive Drawing where
  /-- Longitudes and latitudes as they are. -/
  | angles
  | map (map : GlobeMap)
  /-- A map that cannot be computed. -/
  | undrawn

structure Sheet where
  frame : Frame
  drawing : Drawing

namespace Sheet

def finite : Option (Point Float) → Evaluation Float
  | none => .error "PROJ error: coordinate outside projection domain"
  | some p =>
    if p.x.isFinite && p.y.isFinite then .ok p else .error "PROJ error: non-finite result"

def forward (s : Sheet) (lonLat : Point Float) : Evaluation Float :=
  finite ((s.frame.enter? lonLat).bind fun p =>
    match s.drawing with
    | .angles => some (s.frame.placeAngles p)
    | .map map => (map.forward p).map s.frame.place
    | .undrawn => none)

def inverse (s : Sheet) (p : Point Float) : Evaluation Float :=
  if p.x.isFinite && p.y.isFinite then
    finite (match s.drawing with
      | .angles => some (s.frame.leave (s.frame.unplaceAngles p))
      | .map map => (map.inverse (s.frame.unplace p)).map s.frame.leave
      | .undrawn => none)
  else .error "PROJ error: invalid coordinate"

end Sheet

def existing : Option GlobeMap → Except String Drawing
  | some map => .ok (.map map)
  | none => .error "invalid projection"

def drawingOf (d : Definition) (name : String) (e : Ellipsoid) : Except String Drawing :=
  let g := e.globe
  let k := Frame.scale d
  let phi₀ := d.angle "lat_0"
  let trueScale := d.angle? "lat_ts"
  match name with
  | "eqc" => existing (equirectangular phi₀ (trueScale.getD 0.0))
  | "sinu" => .ok (.map (sinusoidal g))
  | "merc" => existing (mercator g k trueScale)
  | "webmerc" => .ok (.map (mercatorScaled ⟨0.0⟩ 1.0))
  | "tmerc" | "etmerc" => .ok (.map (TransverseMercator.map g k phi₀))
  | "ortho" => .ok (.map (Orthographic.map g k phi₀ (d.angle "alpha")))
  | "stere" => .ok (.map (Stereographic.map g k phi₀ trueScale))
  | "sterea" => .ok (.map (DoubleStereographic.map g k phi₀))
  | "gnom" => .ok (.map (Gnomonic.map g phi₀))
  | "laea" => .ok (.map (EqualArea.map g phi₀))
  | "lcc" =>
    let phi₁ := d.angle "lat_1"
    match d.angle? "lat_2" with
    | some phi₂ => existing (ConformalConic.map g k phi₀ phi₁ phi₂)
    | none => existing (ConformalConic.map g k ((d.angle? "lat_0").getD phi₁) phi₁ phi₁)
  | _ => if Undrawn.accepts d e name then .ok .undrawn else .error "invalid projection"

def zoneNumber? (value : String) : Option Nat :=
  if value ≠ "" && value.toList.all Char.isDigit then
    some (Decimal.ofDigits (value.toList.filterMap Decimal.Leading.decimalDigit?))
  else none

/-- The zone of the universal transverse Mercator system that a definition asks for: the one it
names, or the one that its central meridian lies in. -/
def zone? (d : Definition) : Option Nat :=
  match d.value? "zone" with
  | some value => (zoneNumber? value).filter fun zone => 1 ≤ zone && zone ≤ 60
  | none =>
    let sector := ((Frame.wrap (d.angle "lon_0") + pi) * 30.0 / pi).floor
    some (if sector < 0.0 then 1 else if 60.0 ≤ sector then 60 else sector.toUInt64.toNat + 1)

/-- The sheet of a zone of the universal transverse Mercator system, on an ellipsoid that is no
sphere. -/
def zoneSheet (d : Definition) (f : Frame) : Except String Sheet :=
  match zone? d, d.choice? "south" with
  | some zone, some south =>
    if f.ellipsoid.globe.isSphere then .error "invalid projection"
    else
      .ok {
        frame := { f with
          centralMeridian := Scalar.radians (6.0 * zone.toFloat - 183.0)
          falseEasting := 500000.0
          falseNorthing := if south then 10000000.0 else 0.0 }
        drawing := .map (TransverseMercator.map f.ellipsoid.globe 0.9996 0.0) }
  | _, _ => .error "invalid zone"

/-- The sheet of a polar region in the universal polar stereographic system, on an ellipsoid that
is no sphere. -/
def polarSheet (d : Definition) (f : Frame) : Except String Sheet :=
  match d.choice? "south" with
  | some south =>
    if f.ellipsoid.globe.isSphere then .error "invalid projection"
    else
      .ok {
        frame := { f with
          centralMeridian := 0.0, falseEasting := 2000000.0, falseNorthing := 2000000.0 }
        drawing := .map (Stereographic.map f.ellipsoid.globe 0.994
          (if south then -halfPi else halfPi) (some halfPi)) }
  | none => .error "invalid region"

def sheetOf (d : Definition) : Except String Sheet := do
  match d.value? "proj" with
  | none => throw "no projection"
  | some name =>
    let d ← d.completed
    let f ← Frame.ofDefinition d
    if name = "utm" then zoneSheet d f
    else if name = "ups" then polarSheet d f
    else if Projection.geographicNames.contains name then return ⟨f, .angles⟩
    else return ⟨f, ← drawingOf d name f.ellipsoid⟩

def evaluator (projection : String) : Except String (Evaluator Float) :=
  (sheetOf (.ofString projection)).map fun sheet => ⟨sheet.forward, sheet.inverse⟩

def provider : Provider Float where
  configure configuration := do
    let projection := Text.trimmed configuration
    if projection = "" then Logged.ofExcept (.error .emptyProjection)
    else
      match evaluator projection with
      | .error reason =>
        Logged.ofExcept (.error (.rejected ("PROJ failed to initialize on string: " ++ projection ++
          "\n\tError was: " ++ reason)))
      | .ok evaluator =>
        Logged.debug ("PROJ initialized: " ++ projection)
        return ⟨projection, evaluator⟩

end GeoRaster.Cartography
