import GeoRaster.Cartography.Definition

/-! Units of length, by name or by their size in meters. -/
namespace GeoRaster.Cartography

structure LinearUnit where
  name : String
  /-- The size in meters. -/
  meters : Float

namespace LinearUnit

def meter : LinearUnit :=
  ⟨"m", 1.0⟩

def all : List LinearUnit := [
  ⟨"km", 1000.0⟩, meter, ⟨"dm", 0.1⟩, ⟨"cm", 0.01⟩, ⟨"mm", 0.001⟩, ⟨"kmi", 1852.0⟩,
  ⟨"in", 0.0254⟩, ⟨"ft", 0.3048⟩, ⟨"yd", 0.9144⟩, ⟨"mi", 1609.344⟩, ⟨"fath", 1.8288⟩,
  ⟨"ch", 20.1168⟩, ⟨"link", 0.201168⟩, ⟨"us-in", 1.0 / 39.37⟩, ⟨"us-ft", 0.304800609601219⟩,
  ⟨"us-yd", 0.914401828803658⟩, ⟨"us-ch", 20.11684023368047⟩, ⟨"us-mi", 1609.347218694437⟩,
  ⟨"ind-yd", 0.91439523⟩, ⟨"ind-ft", 0.30479841⟩, ⟨"ind-ch", 20.11669506⟩]

def ofName? (name : String) : Option LinearUnit :=
  all.find? (·.name = name)

def ofSize? (meters : Float) : Option LinearUnit :=
  all.find? fun unit => (unit.meters - meters).abs < 1.0e-10 * meters

def checkSize (meters : Float) : Except String Float :=
  if meters ≤ 0.0 then .error "invalid unit" else .ok meters

def readSize (value : String) : Except String Float :=
  let found := Decimal.Leading.read value.toList
  match found.rest with
  | '/' :: rest =>
    let parts := (Decimal.Leading.read rest).value
    if parts == 0.0 then .error "invalid unit" else checkSize (found.value / parts)
  | _ => checkSize found.value

end LinearUnit

/-- The size in meters of the unit that a definition gives by name or by size, if it gives one.
The name takes precedence. -/
def Definition.unitSize? (d : Definition) (nameKey sizeKey : String) :
    Except String (Option Float) :=
  match d.value? nameKey, d.value? sizeKey with
  | some name, _ =>
    match LinearUnit.ofName? name with
    | some unit => .ok (some unit.meters)
    | none => .error "unknown unit"
  | none, some size => (LinearUnit.readSize size).map some
  | none, none => .ok none

end GeoRaster.Cartography
