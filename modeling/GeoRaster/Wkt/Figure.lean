import GeoRaster.Cartography.DatumShift
import GeoRaster.Cartography.Meridian
import GeoRaster.Text.Capital
import GeoRaster.Wkt.Basic
import GeoRaster.Wkt.Number

/-! The datum of a reference system, described by names: that of its ellipsoid, that of its prime
meridian and its own. What is only given by numbers is compared with what has a name. -/
namespace GeoRaster.Wkt

open Cartography (Definition NamedEllipsoid NamedMeridian)

/-- An ellipsoid by its name, its equatorial radius in meters and the inverse of its flattening,
which is zero for a sphere. -/
structure Figure where
  name : String
  radius : Float
  inverseFlattening : Float

namespace Figure

def unnamed : String :=
  "unknown"

def ofRadii (name : String) (radius polarRadius : Float) : Figure :=
  ⟨name, radius, if radius == polarRadius then 0.0 else radius / (radius - polarRadius)⟩

def ofFlattening (name : String) (radius flattening : Float) : Figure :=
  ⟨name, radius, if flattening == 0.0 then 0.0 else 1.0 / flattening⟩

def polarRadius (f : Figure) : Float :=
  if f.inverseFlattening == 0.0 then f.radius else (1.0 - 1.0 / f.inverseFlattening) * f.radius

def ofNamed (e : NamedEllipsoid) : Figure :=
  match e.shape with
  | .inverseFlattening value => ⟨e.name, e.radius, value⟩
  | .polarRadius meters => ofRadii e.name e.radius meters

def isNear (x reference : Float) : Bool :=
  (x - reference).abs < 1.0e-10 * reference

def agrees (f : Figure) (e : NamedEllipsoid) : Bool :=
  isNear f.radius e.radius &&
    match e.shape with
    | .inverseFlattening value => isNear f.inverseFlattening value
    | .polarRadius meters => isNear f.polarRadius meters

def named? (f : Figure) : Option NamedEllipsoid :=
  NamedEllipsoid.all.find? f.agrees

def identified (f : Figure) : Figure :=
  match f.named? with
  | some e => { f with name := e.name }
  | none => f

def isEarth (radius : Float) : Bool :=
  (radius - 6375000.0).abs < 0.007 * 6375000.0

def reread (f : Figure) : Figure :=
  { f with
    radius := Number.reread f.radius
    inverseFlattening := Number.reread f.inverseFlattening }

end Figure

structure NamedFrame where
  name : String
  figure : Figure
  meridian : Meridian
  /-- The key that says all of it, if there is one. -/
  key : Option String

namespace NamedFrame

def greenwich : Meridian :=
  ⟨"Greenwich", .real 0.0⟩

def reference : Meridian :=
  ⟨"Reference meridian", .real 0.0⟩

/-- The datums that are known by a name: their key, their name and the ellipsoid they have. -/
def known : List (String × String × Figure) := [
  ("WGS84", "World Geodetic System 1984", ⟨"WGS 84", 6378137.0, 298.257223563⟩),
  ("NAD83", "North American Datum 1983", ⟨"GRS 1980", 6378137.0, 298.257222101⟩),
  ("NAD27", "North American Datum 1927", .ofRadii "Clarke 1866" 6378206.4 6356583.8),
  ("GGRS87", "Greek Geodetic Reference System 1987", ⟨"GRS 1980", 6378137.0, 298.257222101⟩),
  ("potsdam", "Deutsches Hauptdreiecksnetz", ⟨"Bessel 1841", 6377397.155, 299.1528128⟩),
  ("carthage", "Carthage", ⟨"Clarke 1880 (IGN)", 6378249.2, 293.4660213⟩),
  ("hermannskogel", "Militar-Geographische Institut", ⟨"Bessel 1841", 6377397.155, 299.1528128⟩),
  ("ire65", "TM65", ⟨"Airy Modified 1849", 6377340.189, 299.3249646⟩),
  ("nzgd49", "New Zealand Geodetic Datum 1949", ⟨"International 1924", 6378388.0, 297.0⟩),
  ("OSGB36", "OSGB 1936", ⟨"Airy 1830", 6377563.396, 299.3249646⟩)]

def keys : List String :=
  ["WGS84", "NAD83", "NAD27"]

def meridianOf (value : String) : Except String Meridian :=
  match Number.readAngle? value with
  | some longitude => .ok ⟨"unknown", .real (Number.reread longitude)⟩
  | none =>
    if value = "paris" then .ok ⟨"Paris", .real 2.5969213⟩
    else
      match NamedMeridian.ofName? value with
      | some m =>
        if m.name = "greenwich" then .ok greenwich
        else
          match m.name.toList with
          | c :: rest => .ok ⟨String.ofList (Text.capitalize [c] ++ rest),
              .real (Number.reread (m.radians * 57.295779513082321))⟩
          | [] => .error "unknown prime meridian"
      | none => .error "unknown prime meridian"

def shiftPhrase (d : Definition) : String :=
  match (d.value? "nadgrids").filter (· ≠ ""), (d.value? "towgs84").filter (· ≠ "") with
  | some grids, _ => " using nadgrids=" ++ grids
  | none, some numbers => " using towgs84=" ++ numbers
  | none, none => ""

/-- The name of a datum that is known by its ellipsoid only. -/
def nameAfter (f : Figure) : String :=
  if f.name = Figure.unnamed then Figure.unnamed else "Unknown based on " ++ f.name ++ " ellipsoid"

def given? (d : Definition) (key : String) : Option String :=
  (d.value? key).filter (· ≠ "")

/-- A number that may be missing but must be one. -/
def numberOf? (d : Definition) (key : String) : Except String (Option Float) :=
  match given? d key with
  | none => .ok none
  | some value =>
    match Number.read? value with
    | some x => .ok (some x)
    | none => .error "not a number"

def checkShift (d : Definition) : Except String Unit :=
  match given? d "towgs84" with
  | none => .ok ()
  | some value =>
    let parts := value.splitOn ","
    if (parts.length = 3 || parts.length = 7) && parts.all fun part => (Number.read? part).isSome then
      .ok ()
    else .error "invalid shift"

def figureOf (d : Definition) (base : Option (Figure × Bool)) : Except String Figure := do
  let a ← numberOf? d "a"
  let b ← numberOf? d "b"
  let rf ← numberOf? d "rf"
  let f ← numberOf? d "f"
  let e ← numberOf? d "e"
  let es ← numberOf? d "es"
  let radius ← match a, base with
    | some radius, _ => pure radius
    | none, some (figure, _) => pure figure.radius
    | none, none => throw "no ellipsoid"
  let basePolar := base.bind fun (figure, byRadii) =>
    if byRadii then some figure.polarRadius else none
  let baseInverse := base.bind fun (figure, byRadii) =>
    if byRadii then none else some figure.inverseFlattening
  let unnamed := Figure.unnamed
  return Figure.identified (match b.or basePolar, rf.or baseInverse, f, e, es with
    | some polar, _, _, _, _ => .ofRadii unnamed radius polar
    | none, some inverse, _, _, _ => ⟨unnamed, radius, inverse⟩
    | none, none, some flattening, _, _ => .ofFlattening unnamed radius flattening
    | none, none, none, some e, _ => .ofFlattening unnamed radius (1.0 - e.asin.cos)
    | none, none, none, none, some es => .ofFlattening unnamed radius (1.0 - (1.0 - es).sqrt)
    | none, none, none, none, none => ⟨unnamed, radius, 0.0⟩)

def singleKeys : List String :=
  ["a", "b", "rf", "f", "es", "e"]

/-- The datum that a definition gives. A radius by itself comes first; then single values, on top
of a named datum or ellipsoid; then the named datum, then the named ellipsoid. -/
def ofDefinition (d : Definition) : Except String NamedFrame := do
  checkShift d
  let phrase := shiftPhrase d
  let stated ← match given? d "pm" with
    | none => pure greenwich
    | some value => meridianOf value
  let isGreenwich := stated.name = greenwich.name
  let onBody (f : Figure) : Meridian :=
    if isGreenwich && !Figure.isEarth f.radius then reference else stated
  match ← numberOf? d "R" with
  | some radius =>
    let figure : Figure := ⟨Figure.unnamed, radius, 0.0⟩
    return ⟨Figure.unnamed ++ phrase, figure, onBody figure, none⟩
  | none =>
    let isSingle := singleKeys.any fun key => (given? d key).isSome
    match given? d "datum", given? d "ellps" with
    | some key, _ =>
      match known.lookup key with
      | none => throw "unknown datum"
      | some (name, figure) =>
        if isSingle then
          let figure ← figureOf d (some (figure, false))
          return ⟨nameAfter figure ++ phrase, figure, onBody figure, none⟩
        else if isGreenwich || !keys.contains key then
          return ⟨name, figure, stated,
            if isGreenwich && phrase = "" && keys.contains key then some key else none⟩
        else return ⟨nameAfter figure ++ phrase, figure, stated, none⟩
    | none, some key =>
      match NamedEllipsoid.ofKey? key with
      | none => throw "unknown ellipsoid"
      | some e =>
        let figure := Figure.ofNamed e
        if isSingle then
          let byRadii := match e.shape with
            | .polarRadius _ => true
            | .inverseFlattening _ => false
          let figure ← figureOf d (some (figure, byRadii))
          return ⟨nameAfter figure ++ phrase, figure, onBody figure, none⟩
        else return ⟨nameAfter figure ++ phrase, figure, stated, none⟩
    | none, none =>
      if isSingle then
        let figure ← figureOf d none
        return ⟨nameAfter figure ++ phrase, figure, onBody figure, none⟩
      else throw "no ellipsoid"

def tokens (f : NamedFrame) : List String :=
  match f.key, f.figure.reread.named? with
  | some key, _ => ["+datum=" ++ key]
  | none, some e => ["+ellps=" ++ e.key]
  | none, none => []

end NamedFrame

end GeoRaster.Wkt
