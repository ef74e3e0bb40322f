import GeoRaster.Json.Reader
import GeoRaster.Wkt.Basic

/-! A catalogue whose texts describe reference systems field by field in JSON. It writes a
projection string between brackets and does not read that form back. -/
namespace GeoRaster.Wkt.Described

def float? : Json → Option Float
  | .num text => (Decimal.readNumeral? text.toList).map Decimal.Numeral.toFloat
  | _ => none

def given? : Json → Option Decimal.Given
  | .num text =>
    match Decimal.readInteger? text.toList with
    | some value => some (.whole value)
    | none => (float? (.num text)).map .real
  | _ => none

def ellipsoid? (j : Json) : Option Ellipsoid :=
  match j with
  | .arr [.str name, a, b] => do return ⟨name, ← given? a, ← given? b⟩
  | _ => none

def meridian? (j : Json) : Option Meridian :=
  match j with
  | .arr [.str name, longitude] => do return ⟨name, ← given? longitude⟩
  | _ => none

def system (description : Json) : ReferenceSystem where
  projection := (description.field? "proj4").bind Json.string?
  ellipsoid := (description.field? "ellps").bind ellipsoid?
  datumName := (description.field? "datum").bind Json.string?
  meridian := (description.field? "pm").bind meridian?
  utmZone := (description.field? "utm").bind Json.string?

/-- The catalogue of described reference systems. A projection string with the token `+bad`
denotes none. -/
def catalogue : Catalogue where
  read text :=
    match Json.read? text with
    | some (.obj fields) => .ok (system (.obj fields))
    | _ => .error "stub: cannot parse"
  write projection :=
    if Projection.hasToken projection "+bad" then .error "stub: rejected"
    else .ok ("WKT[" ++ projection ++ "]")

end GeoRaster.Wkt.Described
