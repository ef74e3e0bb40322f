import GeoRaster.GeoReference.Basic

/-! Georeferences in running text. -/
namespace GeoRaster.GeoReference

variable {α : Type} [Scalar α]

def description (g : GeoReference α) : String :=
  String.intercalate "\n" [
    "-- Proj.4 Geospatial Reference Object --",
    "\tTransform  : " ++ g.affine.transform.text,
    "\t" ++ g.datum.description,
    "\tProj.4 String: " ++ g.projection,
    "\tPixel Interpretation: " ++ g.affine.interpretation.phrase,
    "longitude range: " ++ g.window.name]

def text (g : GeoReference α) : String :=
  "GeoReference(datum=" ++ g.datum.text ++ ", transform=" ++ g.affine.transform.text ++
    ", pixelInterpretation=" ++ g.affine.interpretation.name ++
    ", projection=" ++ Text.quoted g.projection ++ ")"

end GeoRaster.GeoReference
