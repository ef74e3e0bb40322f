import GeoRaster.Datum
import GeoRaster.Logged
import GeoRaster.Projection.Named

/-! Exchange of datum and projection as well-known text. The text itself is the business of a
catalogue of reference systems, which reads a text and writes one for a projection string.
What is settled here is which tokens go into that string, and how the tokens that come
back are told apart into those of the projection and those of the datum. -/
namespace GeoRaster.Wkt

open Projection (tokenize ofTokens removeToken joinStrings isGeographic overToken)

/-- An ellipsoid by its name and axes, in meters. -/
structure Ellipsoid where
  name : String
  semiMajorAxis : Decimal.Given
  semiMinorAxis : Decimal.Given

/-- A prime meridian by its name and longitude, in degrees. -/
structure Meridian where
  name : String
  longitude : Decimal.Given

/-- What a catalogue knows of the reference system of a well-known text. -/
structure ReferenceSystem where
  /-- The projection string, where there is one. -/
  projection : Option String
  ellipsoid : Option Ellipsoid
  datumName : Option String
  meridian : Option Meridian
  /-- The zone of the universal transverse Mercator system, a number and a letter. -/
  utmZone : Option String

structure Catalogue where
  /-- The reference system of a well-known text, or why there is none. -/
  read : String → Except String ReferenceSystem
  /-- The well-known text of a projection string, or why there is none. -/
  write : String → Except String String

def projectionStarts : List String :=
  ["+proj=", "+x_0=", "+y_0=", "+lon", "+lat", "+k=", "+ns", "+no_cut", "+h=", "+W=", "+units=",
    "+zone="]

def datumStarts : List String :=
  ["+ellps=", "+datum="]

def zeroScale : String :=
  "+k=0"

def startsWithAny (starts : List String) (token : String) : Bool :=
  starts.any fun start => start.toList.isPrefixOf token.toList

def isProjectionToken (token : String) : Bool :=
  token != zeroScale && startsWithAny projectionStarts token

def isDatumToken (token : String) : Bool :=
  token != zeroScale && !startsWithAny projectionStarts token && startsWithAny datumStarts token

/-- The tokens of the projection and those of the datum; the rest is dropped, and a scale of
zero is warned about. -/
def splitTokens (projection : String) : Logged (List String × List String) := do
  let tokens := tokenize projection
  (tokens.filter (· = zeroScale)).forM fun _ =>
    Logged.warning "Input contained an illegal scale_factor of zero. Ignored."
  return (tokens.filter isProjectionToken, tokens.filter isDatumToken)

/-- The projection that a zone of the universal transverse Mercator system denotes: a number
and a letter, `N` for the northern hemisphere. -/
def ofZone (zone : String) : Except Fault Projection.Named :=
  let chars := zone.toList
  match Decimal.readInteger? (Text.trim chars.dropLast) with
  | none => .error (.zoneNumber zone)
  | some n => .ok (.utm n (Text.capitalize (chars.getLast?.toList) == ['N']))

def datumOf (crs : ReferenceSystem) (tokens : List String) : Except Fault Datum :=
  match crs.ellipsoid with
  | none => .error .wktWithoutEllipsoid
  | some ellipsoid =>
    Datum.make {
      name := crs.datumName.getD "unknown"
      spheroidName := ellipsoid.name
      meridianName := (crs.meridian.map (·.name)).getD "Greenwich"
      semiMajorAxis := ellipsoid.semiMajorAxis
      semiMinorAxis := ellipsoid.semiMinorAxis
      meridianOffset := (crs.meridian.map (·.longitude)).getD (.real 0.0)
      tokens := if tokens = [] then none else some (ofTokens tokens) }

def projectionOf (crs : ReferenceSystem) (tokens : List String) : Except Fault String :=
  match crs.utmZone with
  | some zone =>
    if zone = "" then .ok (plain tokens) else (ofZone zone).map Projection.Named.string
  | none => .ok (plain tokens)
where
  /-- Without tokens of a projection, longitude and latitude stand for themselves. -/
  plain (tokens : List String) : String :=
    let joined := ofTokens tokens
    if tokens = [] || isGeographic joined then Projection.Named.geographic.string else joined

def importText (catalogue : Catalogue) (wkt : String) : Logged (Datum × String) := do
  let crs ← Logged.ofExcept ((catalogue.read wkt).mapError .invalidWkt)
  match crs.projection with
  | none => Logged.ofExcept (.error (.wktWithoutProjection wkt))
  | some projection =>
    let (projectionTokens, datumTokens) ← splitTokens projection
    let string ← Logged.ofExcept (projectionOf crs projectionTokens)
    let datum ← Logged.ofExcept (datumOf crs datumTokens)
    return (datum, string)

def exportedTokens (datum : Datum) : String :=
  if datum.isSphere then Datum.axisTokens datum.semiMajorAxis datum.semiMajorAxis
  else datum.tokens

def exportedString (datum : Datum) (projection : String) : String :=
  joinStrings [removeToken projection overToken, exportedTokens datum, "+no_defs +type=crs"]

def exportText (catalogue : Catalogue) (datum : Datum) (projection : String) :
    Except Fault String :=
  let crs := exportedString datum projection
  (catalogue.write crs).mapError (.noReferenceSystem crs)

end GeoRaster.Wkt
