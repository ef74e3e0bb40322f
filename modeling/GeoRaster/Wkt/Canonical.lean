import GeoRaster.Cartography.Atlas
import GeoRaster.Projection.Named
import GeoRaster.Wkt.Figure
import GeoRaster.Wkt.Method

/-! A catalogue of the reference systems that projection strings denote. Its texts carry the
string they were written for. Reading a text spells the projection out: every parameter it has,
in the order that goes with its name, and its ellipsoid by name. A string that says more than
this spelling can is kept as it is. -/
namespace GeoRaster.Wkt.Canonical

open Cartography (Definition Entry)
open Projection (ofTokens)

def opening : List Char :=
  "CRS[\"".toList

def closing : List Char :=
  "\"]".toList

def carry (projection : String) : String :=
  String.ofList (opening ++ projection.toList ++ closing)

def carried? (wkt : String) : Option String :=
  (Projection.after? opening (Text.trim wkt.toList)).bind fun rest =>
    (Projection.after? closing.reverse rest.reverse).map fun chars =>
      String.ofList chars.reverse

/-! ### What a projection makes use of -/

def commonKeys : List String :=
  ["proj", "type", "no_defs", "datum", "nadgrids", "towgs84", "geoidgrids", "lon_0", "lat_0", "x_0",
    "y_0", "z_0", "t_0", "over", "lon_wrap", "axis", "pm"]

def keysOf : String → List String
  | "merc" | "eqc" | "stere" | "cea" | "wag3" | "wink1" | "rpoly" => ["lat_ts"]
  | "lcc" | "aea" | "eqdc" | "euler" | "imw_p" | "murd1" | "murd2" | "murd3" | "pconic" | "tissot"
  | "vitk1" => ["lat_1", "lat_2"]
  | "leac" => ["lat_1", "south"]
  | "bonne" | "wink2" | "wintri" | "loxim" => ["lat_1"]
  | "utm" => ["zone", "south", "approx", "algo"]
  | "ups" => ["south"]
  | "tmerc" | "etmerc" => ["approx", "algo"]
  | "ortho" => ["alpha"]
  | "geos" => ["h", "sweep"]
  | "nsper" => ["h"]
  | "tpers" => ["h", "tilt", "azi"]
  | "aeqd" => ["guam"]
  | "cass" => ["hyperbolic"]
  | "krovak" => ["czech"]
  | "tpeqd" => ["lat_1", "lon_1", "lat_2", "lon_2"]
  | "omerc" => ["alpha", "gamma", "lonc", "no_rot", "no_off", "no_uoff", "lat_1", "lon_1", "lat_2",
      "lon_2"]
  | "hammer" => ["W", "M"]
  | "lagrng" => ["W", "lat_1"]
  | "urmfps" | "fouc_s" => ["n"]
  | "gn_sinu" | "oea" => ["m", "n"]
  | _ => []

def figureReads (d : Definition) (key : String) : Bool :=
  if d.has "R" then key = "R"
  else
    key = "ellps" || key = "a" || Cartography.Ellipsoid.shapeKey? d = some key ||
      Cartography.Ellipsoid.sphereKeys.find? d.has = some key

def reads (d : Definition) (name : String) (e : Cartography.Ellipsoid) (key : String) : Bool :=
  commonKeys.contains key || (keysOf name).contains key || figureReads d key ||
    match key with
    | "geoc" => !e.globe.isSphere
    | "k_0" | "units" | "vunits" => true
    | "k" => !d.has "k_0"
    | "to_meter" => !d.has "units"
    | "vto_meter" => !d.has "vunits"
    | _ => false

/-- The first entry of every key that has not been seen. -/
def firstEntries : (seen : List String) → List Entry → List Entry
  | _, [] => []
  | seen, entry :: rest =>
    if seen.contains entry.key then firstEntries seen rest
    else entry :: firstEntries (entry.key :: seen) rest

/-- The definition without what the projection makes no use of: other keys, and later entries of
a key. -/
def used (d : Definition) (name : String) (e : Cartography.Ellipsoid) : Definition :=
  ⟨(firstEntries [] d.entries).filter fun entry => reads d name e entry.key⟩

/-! ### What a spelling expresses -/

def geodeticKeys : List String :=
  ["proj", "type", "no_defs", "datum", "ellps", "R", "a", "b", "rf", "f", "es", "e", "pm", "towgs84",
    "nadgrids", "geoidgrids", "vunits", "vto_meter", "axis", "over"]

def allNoticed (notices : Entry → Bool) (d : Definition) : Bool :=
  d.entries.all notices

/-- The unit of the plane in meters. A size comes before a name. -/
def unitOf (d : Definition) : Except String Float :=
  match NamedFrame.given? d "units", NamedFrame.given? d "to_meter" with
  | _, some size =>
    match Number.read? size with
    | some meters =>
      .ok (((Cartography.LinearUnit.ofSize? meters).map (·.meters)).getD meters)
    | none => .error "invalid unit"
  | some name, none =>
    match Cartography.LinearUnit.ofName? name with
    | some unit => .ok unit.meters
    | none => .error "unknown unit"
  | none, none => .ok 1.0

def unitToken (meters : Float) : String :=
  match Cartography.LinearUnit.ofSize? meters with
  | some unit => "+units=" ++ unit.name
  | none => "+to_meter=" ++ Number.parameterText meters

/-- The zone of the universal transverse Mercator system that arguments of the transverse
Mercator projection amount to, and whether it is a northern one. -/
def zoneOfArguments? : List Argument → Option (Int × Bool)
  | [lat₀, lon₀, k, x₀, y₀] =>
    let zone := (lon₀.value + 183.0) / 6.0
    let isNear (x y : Float) : Bool := (x - y).abs < 1.0e-10
    let isNorth := isNear y₀.value 0.0
    if isNear lat₀.value 0.0 && 0.9 < zone && zone < 60.1 && isNear zone zone.round &&
        isNear k.value 0.9996 && x₀.value == 500000.0 && (isNorth || isNear y₀.value 10000000.0) then
      some (Decimal.floorInt zone.round, isNorth)
    else none
  | _ => none

def zoneTokens (zone : Int) (north : Bool) (unit : Float) : List String :=
  ["+proj=utm", "+zone=" ++ Decimal.intText zone] ++ (if north then [] else ["+south"]) ++
    [unitToken unit]

def spell (d : Definition) (m : Method) (unit : Float) : Except String (List String) := do
  let arguments ← m.terms.mapM (Argument.ofTerm d unit)
  let plain := ("+proj=" ++ m.name) :: arguments.map (Argument.token unit) ++ [unitToken unit]
  if m.name = "tmerc" && unit == 1.0 then
    match zoneOfArguments? arguments with
    | some (zone, north) => return zoneTokens zone north unit
    | none => return plain
  else return plain

/-! ### Reference systems -/

/-- A projection spelled out: its tokens, whether they say all, and the zone of the universal
transverse Mercator system if it is named. -/
structure Spelling where
  tokens : List String
  isComplete : Bool
  zone : Option String

def geographic (d : Definition) : Spelling where
  tokens := ["+proj=longlat"]
  isComplete := allNoticed (fun entry =>
    geodeticKeys.contains entry.key || entry.key = "geoc" ||
      entry = ⟨"units", some "m"⟩) d
  zone := none

def zone (d : Definition) (unit : Float) : Except String Spelling :=
  match (d.value? "zone").bind Cartography.zoneNumber? with
  | none => .error "unnamed zone"
  | some n =>
    let north := !d.has "south"
    .ok {
      tokens := zoneTokens n north unit
      isComplete := allNoticed (fun entry => geodeticKeys.contains entry.key ||
        ["zone", "south", "units", "to_meter"].contains entry.key) d
      zone := some (Decimal.natText n ++ (if north then "N" else "S")) }

def projected (d : Definition) (name : String) : Except String Spelling := do
  let unit := Number.reread (← unitOf d)
  if name = "utm" then zone d unit
  else
    let noticesUnit (key : String) : Bool :=
      geodeticKeys.contains key || key = "units" || key = "to_meter"
    match ← Method.ofDefinition? d name with
    | some m => return {
        tokens := ← spell d m unit
        isComplete := allNoticed (fun entry => noticesUnit entry.key || m.notices entry.key) d
        zone := none }
    | none => return {
        tokens := ["+proj=" ++ name, unitToken unit]
        isComplete := allNoticed (fun entry => noticesUnit entry.key) d
        zone := none }

/-- Tokens up to the first one with a full stop at its end, without the full stop. -/
def upToStop : List String → List String
  | [] => []
  | token :: rest =>
    match token.toList.reverse with
    | '.' :: chars => [String.ofList chars.reverse]
    | _ => token :: upToStop rest

/-- The tokens of a definition as it is, the projection's name first. A full stop ends it. -/
def keptTokens (d : Definition) : List String :=
  let (first, rest) := d.entries.partition (·.key = "proj")
  upToStop ((first ++ rest).map Entry.token)

/-- Whether a definition is that of the web's map of the earth: a sphere of the size of the
earth's equator, whose latitudes are not shifted. -/
def isWebMap (d : Definition) (name : String) : Bool :=
  name = "merc" && (NamedFrame.given? d "a").isSome &&
    NamedFrame.given? d "a" = NamedFrame.given? d "b" &&
    Method.angleOf d "lat_ts" == 0.0 && Method.scaleOf d == 1.0 &&
    NamedFrame.given? d "nadgrids" = some "@null" &&
    ((NamedFrame.given? d "a").bind Number.read?).any (· == 6378137.0)

def webMap (d : Definition) : Except String ReferenceSystem := do
  let terms := Method.angles ["lat_ts", "lon_0"] ++ Method.offsets ++ Method.scale
  let arguments ← terms.mapM (Argument.ofTerm d 1.0)
  return {
    projection := some (ofTokens ("+proj=merc" :: arguments.map (Argument.token 1.0) ++ ["+units=m"]))
    ellipsoid := some ⟨"WGS 84", .real 6378137.0, .real (Figure.polarRadius ⟨"WGS 84", 6378137.0, 298.257223563⟩)⟩
    datumName := some "World Geodetic System 1984"
    meridian := some NamedFrame.greenwich
    utmZone := none }

def system (d : Definition) (f : NamedFrame) (s : Spelling) : ReferenceSystem :=
  let figure := f.figure.reread
  { projection := some (ofTokens (if s.isComplete then s.tokens ++ f.tokens
      else keptTokens d))
    ellipsoid := some ⟨figure.name, .real figure.radius, .real figure.polarRadius⟩
    datumName := some f.name
    meridian := some f.meridian
    utmZone := s.zone }

/-- The reference system that a string denotes, or why there is none. The string has to be one
that the atlas understands. -/
def denoted (projection : String) : Except String ReferenceSystem := do
  let d := Definition.ofString projection
  let sheet ← Cartography.sheetOf d
  match d.value? "proj" with
  | none => throw "no projection"
  | some name =>
    let d := used d name sheet.frame.ellipsoid
    if isWebMap d name then webMap d
    else
      let f ← NamedFrame.ofDefinition d
      if Projection.geographicNames.contains name then return system d f (geographic d)
      else return system d f (← projected d name)

def catalogue : Catalogue where
  read wkt :=
    match carried? wkt with
    | some projection => denoted projection
    | none => .error "not a text of this catalogue"
  write projection := (denoted projection).map fun _ => carry projection

end GeoRaster.Wkt.Canonical
