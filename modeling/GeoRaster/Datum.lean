import GeoRaster.Fault
import GeoRaster.Decimal.Given
import GeoRaster.Scalar.Double
import GeoRaster.Text.Blank
import GeoRaster.Text.Capital
import GeoRaster.Text.Quoted
import GeoRaster.Projection.Tokens

/-! Datums: the ellipsoid that models a body, its prime meridian, and the tokens that stand for
both in projection strings. A datum has positive axes. -/
namespace GeoRaster

structure DatumSpec where
  name : String
  spheroidName : String
  meridianName : String
  /-- In meters. -/
  semiMajorAxis : Decimal.Given
  /-- In meters. -/
  semiMinorAxis : Decimal.Given
  /-- The prime meridian's longitude, in degrees. -/
  meridianOffset : Decimal.Given := .real 0.0
  /-- The datum's tokens; without them, they are derived from the axes. -/
  tokens : Option String := none

/-- A reference ellipsoid with its name, its prime meridian and its tokens. -/
structure Datum where
  name : String
  spheroidName : String
  meridianName : String
  semiMajorAxis : Float
  semiMinorAxis : Float
  meridianOffset : Float
  tokens : String

namespace Datum

def axisTokens (a b : Float) : String :=
  "+a=" ++ Decimal.floatText a ++ " +b=" ++ Decimal.floatText b

def make (spec : DatumSpec) : Except Fault Datum :=
  let a := spec.semiMajorAxis
  let b := spec.semiMinorAxis
  let offset := spec.meridianOffset
  if !a.isPositive || !b.isPositive then .error (.datumAxes a.text b.text)
  else if [a, b, offset].any Decimal.Given.isBeyondDoubles then .error .beyondDoubles
  else
    .ok {
      name := spec.name
      spheroidName := spec.spheroidName
      meridianName := spec.meridianName
      semiMajorAxis := a.toFloat
      semiMinorAxis := b.toFloat
      meridianOffset := offset.toFloat
      tokens := Text.trimmed (spec.tokens.getD (axisTokens a.toFloat b.toFloat)) }

def spec (d : Datum) : DatumSpec where
  name := d.name
  spheroidName := d.spheroidName
  meridianName := d.meridianName
  semiMajorAxis := .real d.semiMajorAxis
  semiMinorAxis := .real d.semiMinorAxis
  meridianOffset := .real d.meridianOffset
  tokens := some d.tokens

def isSphere (d : Datum) : Bool :=
  d.semiMajorAxis == d.semiMinorAxis

def inverseFlattening (d : Datum) : Float :=
  if d.isSphere then 1.0 / 0.0 else d.semiMajorAxis / (d.semiMajorAxis - d.semiMinorAxis)

def same (d e : Datum) : Bool :=
  d.name == e.name && d.spheroidName == e.spheroidName && d.meridianName == e.meridianName &&
    d.semiMajorAxis == e.semiMajorAxis && d.semiMinorAxis == e.semiMinorAxis &&
    d.meridianOffset == e.meridianOffset && d.tokens == e.tokens

def text (d : Datum) : String :=
  "Datum(name=" ++ Text.quoted d.name ++ ", spheroidName=" ++ Text.quoted d.spheroidName ++
    ", meridianName=" ++ Text.quoted d.meridianName ++
    ", semiMajorAxis=" ++ Decimal.floatText d.semiMajorAxis ++
    ", semiMinorAxis=" ++ Decimal.floatText d.semiMinorAxis ++
    ", meridianOffset=" ++ Decimal.floatText d.meridianOffset ++
    ", proj4Str=" ++ Text.quoted d.tokens ++ ")"

def description (d : Datum) : String :=
  "Datum: " ++ d.name ++ " (spheroid: " ++ d.spheroidName ++
    ", a=" ++ Decimal.floatText d.semiMajorAxis ++ " b=" ++ Decimal.floatText d.semiMinorAxis ++
    ", meridian: " ++ d.meridianName ++ " at " ++ Decimal.floatText d.meridianOffset ++
    "deg) proj4: " ++ d.tokens

def wgs84Token : String :=
  "+datum=WGS84"

def wgs84SpheroidNames : List String :=
  ["WGS_1984", "WGS84", "WGS 84"]

def containsText (part : List Char) : List Char → Bool
  | [] => part.isEmpty
  | c :: s => part.isPrefixOf (c :: s) || containsText part s

def lacksDatumName (d : Datum) : Bool :=
  wgs84SpheroidNames.contains d.spheroidName &&
    (!containsText "+datum=".toList d.tokens.toList || d.name == "unknown")

def asWGS84 (d : Datum) : Datum :=
  { d with
    name := "WGS_1984"
    tokens := if Projection.hasToken d.tokens wgs84Token then Text.trimmed d.tokens
      else Projection.appendToken d.tokens wgs84Token }

end Datum

inductive WellKnownDatum where
  | wgs1984
  | wgs1972
  | nad83
  | nad27
  | moon
  | mars
deriving DecidableEq, Repr

namespace WellKnownDatum

def key : WellKnownDatum → String
  | wgs1984 => "WGS_1984"
  | wgs1972 => "WGS_1972"
  | nad83 => "NAD83"
  | nad27 => "NAD27"
  | moon => "D_MOON"
  | mars => "D_MARS"

def all : List WellKnownDatum :=
  [mars, moon, nad27, nad83, wgs1972, wgs1984]

def aliases : List (String × WellKnownDatum) :=
  [("WGS84", wgs1984), ("WGS 84", wgs1984), ("WGS72", wgs1972), ("WGS 72", wgs1972),
    ("NAD_1983", nad83), ("NAD_1927", nad27)]

def ofCapitals? (name : String) : Option WellKnownDatum :=
  match aliases.lookup name with
  | some d => some d
  | none => all.find? (·.key == name)

def datum : WellKnownDatum → Datum
  | wgs1984 =>
    ⟨"WGS_1984", "WGS 84", "Greenwich", 6378137.0,
      6378137.0 * (1.0 - 1.0 / (298257223563.0 / 1000000000.0)), 0.0, "+ellps=WGS84 +datum=WGS84"⟩
  | wgs1972 =>
    ⟨"WGS_1972", "WGS 72", "Greenwich", 6378135.0, 6378135.0 * (1.0 - 1.0 / 298.26), 0.0,
      "+ellps=WGS72"⟩
  | nad83 =>
    ⟨"North_American_Datum_1983", "GRS 1980", "Greenwich", 6378137.0, 6356752.31414036, 0.0,
      "+ellps=GRS80 +datum=NAD83"⟩
  | nad27 =>
    ⟨"North_American_Datum_1927", "Clarke 1866", "Greenwich", 6378206.4, 6356583.8, 0.0,
      "+ellps=clrk66 +datum=NAD27"⟩
  | moon =>
    ⟨"D_MOON", "MOON", "Reference Meridian", 1737400.0, 1737400.0, 0.0, "+a=1737400 +b=1737400"⟩
  | mars =>
    ⟨"D_MARS", "MARS", "Reference Meridian", 3396190.0, 3396190.0, 0.0, "+a=3396190 +b=3396190"⟩

end WellKnownDatum

/-- The datum known by a name; letter case and surrounding blanks do not matter. -/
def Datum.wellKnown (name : String) : Except Fault Datum :=
  let capitals := String.ofList (Text.capitalize (Text.trim name.toList))
  match WellKnownDatum.ofCapitals? capitals with
  | some d => .ok d.datum
  | none => .error (.unknownDatum name (WellKnownDatum.all.map WellKnownDatum.key))

end GeoRaster
