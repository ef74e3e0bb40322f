import GeoRaster.Cartography.Definition

/-! Prime meridians, by the name of the city they pass through or by their longitude. -/
namespace GeoRaster.Cartography

structure NamedMeridian where
  name : String
  /-- The longitude in the notation of maps. -/
  longitude : String

namespace NamedMeridian

def all : List NamedMeridian := [
  ⟨"greenwich", "0dE"⟩, ⟨"lisbon", "9d07'54.862\"W"⟩, ⟨"paris", "2d20'14.025\"E"⟩,
  ⟨"bogota", "74d04'51.3\"W"⟩, ⟨"madrid", "3d41'16.58\"W"⟩, ⟨"rome", "12d27'8.4\"E"⟩,
  ⟨"bern", "7d26'22.5\"E"⟩, ⟨"jakarta", "106d48'27.79\"E"⟩, ⟨"ferro", "17d40'W"⟩,
  ⟨"brussels", "4d22'4.71\"E"⟩, ⟨"stockholm", "18d3'29.8\"E"⟩, ⟨"athens", "23d42'58.815\"E"⟩,
  ⟨"oslo", "10d43'22.5\"E"⟩, ⟨"copenhagen", "12d34'40.35\"E"⟩]

def ofName? (name : String) : Option NamedMeridian :=
  all.find? (·.name = name)

def radians (m : NamedMeridian) : Float :=
  (Angle.read m.longitude.toList).value

end NamedMeridian

/-- The longitude in radians of the prime meridian that a value names or gives; a value must not
go on after the longitude, nor start with anything but a zero where the longitude is zero. -/
def readMeridian? (value : String) : Option Float :=
  match NamedMeridian.ofName? value with
  | some m => some m.radians
  | none =>
    let found := Angle.read value.toList
    if found.rest.isEmpty && (found.value != 0.0 || value.toList.head? = some '0') then
      some found.value
    else none

/-- The longitude in radians of the prime meridian of a definition, zero unless given. -/
def Definition.meridian (d : Definition) : Except String Float :=
  match d.value? "pm" with
  | none => .ok 0.0
  | some value =>
    match readMeridian? value with
    | some longitude => .ok longitude
    | none => .error "unknown prime meridian"

end GeoRaster.Cartography
