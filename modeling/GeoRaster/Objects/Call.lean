import GeoRaster.Objects.GeoReference

/-! What callers can ask for: that a georeference is made, changed or copied. -/
namespace GeoRaster.Objects

open Projection (Provider)
open GeoReference (Change)

/-- A call; georeferences are known by their addresses. -/
inductive Call (α : Type) [Scalar α] where
  | make (source : Provider α) (spec : GeoReferenceSpec α)
  | change (a : Address) (catalogue : Wkt.Catalogue) (c : Change α)
  | copy (a : Address)

variable {α : Type} [Scalar α]

/-- Carries a call out. Its answer is the address of the georeference that was made or changed. -/
def Call.run : Call α → Action α Address
  | .make source spec => newGeoReference source spec
  | .change a catalogue c => do
    Objects.change a catalogue c
    return a
  | .copy a => copyGeoReference a

def Call.isAboutOneOf (m : Memory α) : Call α → Prop
  | .make .. => True
  | .change a _ _ => a < m.georeferences.count
  | .copy a => a < m.georeferences.count

end GeoRaster.Objects
