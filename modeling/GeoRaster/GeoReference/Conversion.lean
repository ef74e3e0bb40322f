import GeoRaster.GeoReference.Basic

/-! Conversions of single coordinates between pixels, projected points, and longitudes with
latitudes. Longitudes are wrapped into the georeference's window on the way out, and also
on the way in, so that a longitude may be given with any number of turns. -/
namespace GeoRaster.GeoReference

variable {α : Type} [Scalar α]

def wrapped (g : GeoReference α) (lonLat : Point α) : Point α :=
  ⟨Longitude.wrap g.window lonLat.x, lonLat.y⟩

def pixelToPoint (g : GeoReference α) (pixel : Point α) : Point α :=
  g.affine.pixelToPoint pixel

def pointToPixel (g : GeoReference α) (point : Point α) : Point α :=
  g.affine.pointToPixel point

def pointToLonLat (g : GeoReference α) (point : Point α) : Except Fault (Point α) :=
  (g.engine.inverse point).map g.wrapped

def pointToLonLatRaw (g : GeoReference α) (point : Point α) : Except Fault (Point α) :=
  g.engine.inverse point

def lonLatToPoint (g : GeoReference α) (lonLat : Point α) : Except Fault (Point α) :=
  g.engine.forward (g.wrapped lonLat)

def pixelToLonLat (g : GeoReference α) (pixel : Point α) : Except Fault (Point α) :=
  g.pointToLonLat (g.pixelToPoint pixel)

def lonLatToPixel (g : GeoReference α) (lonLat : Point α) : Except Fault (Point α) :=
  (g.lonLatToPoint lonLat).map g.pointToPixel

/-- The longitude and latitude of a projected point, if there are any. -/
def tryPointToLonLat (g : GeoReference α) (point : Point α) : Option (Point α) :=
  (g.engine.tryInverse point).map g.wrapped

/-- The projected point of a longitude and latitude, if there is one. -/
def tryLonLatToPoint (g : GeoReference α) (lonLat : Point α) : Option (Point α) :=
  g.engine.tryForward (g.wrapped lonLat)

/-- The longitude and latitude of a pixel, if there are any. -/
def tryPixelToLonLat (g : GeoReference α) (pixel : Point α) : Option (Point α) :=
  g.tryPointToLonLat (g.pixelToPoint pixel)

/-- How far a pixel moves on the way to longitude and latitude and back, along both axes. -/
def reprojectionOffset (g : GeoReference α) (pixel : Point α) : Except Fault (Point α) := do
  let back ← g.lonLatToPixel (← g.pixelToLonLat pixel)
  return ⟨back.x - pixel.x, back.y - pixel.y⟩

def reprojectionError {α : Type} [MetricScalar α] (g : GeoReference α) (pixel : Point α) :
    Except Fault α :=
  (g.reprojectionOffset pixel).map fun offset => MetricScalar.hypot offset.x offset.y

/-! ### Coordinates of any length

Where a conversion starts with the engine, the engine's reading of a coordinate applies;
every other conversion takes pairs. -/

def pointToLonLatOf (g : GeoReference α) (coordinate : List α) : Except Fault (Point α) := do
  return g.wrapped (← Point.ofPair (← g.engine.inverseOf coordinate))

/-- The longitude and latitude of a coordinate, if there are any. -/
def tryPointToLonLatOf (g : GeoReference α) (coordinate : List α) :
    Except Fault (Option (Point α)) := do
  match ← g.engine.tryInverseOf coordinate with
  | none => return none
  | some lonLat => return some (g.wrapped (← Point.ofPair lonLat))

end GeoRaster.GeoReference
