import GeoRaster.GeoReference.Conversion
import GeoRaster.Mapping.Sampling

/-! Conversions of boxes. Between pixels and projected points the corners tell everything.
Where longitudes and latitudes are involved, boxes are approximated from samples, unless
the georeference is geographic and the corners suffice again. -/
namespace GeoRaster.GeoReference

open Mapping (transformCorners samplePixels sampleBox)

variable {α : Type} [Scalar α]

def pixelToPointBox (g : GeoReference α) (pixels : Box α) : Box α :=
  transformCorners pixels g.pixelToPoint

def pointToPixelBox (g : GeoReference α) (points : Box α) : Except Fault (Box α) :=
  (transformCorners points g.pointToPixel).growToInt

def pixelToLonLatBox (g : GeoReference α) (pixels : Box α) : Logged (Box α) :=
  if g.isProjected then
    samplePixels pixels (fun pixel => g.engine.tryInverse (g.pixelToPoint pixel)) g.wrapped
  else return g.pixelToPointBox pixels

def lonLatToPointBox (g : GeoReference α) (lonLats : Box α) (count : Int) : Logged (Box α) :=
  if g.isProjected then sampleBox lonLats g.engine.tryForward count g.wrapped id
  else return transformCorners lonLats id

def pointToLonLatBox (g : GeoReference α) (points : Box α) (count : Int) : Logged (Box α) :=
  if g.isProjected then sampleBox points g.engine.tryInverse count id g.wrapped
  else return transformCorners points id

def lonLatToPixelBox (g : GeoReference α) (lonLats : Box α) (count : Int) : Logged (Box α) :=
  if g.isProjected then do
    Logged.ofExcept (g.pointToPixelBox (← g.lonLatToPointBox lonLats count))
  else Logged.ofExcept (g.pointToPixelBox lonLats)

end GeoRaster.GeoReference
