import GeoRaster.GeoReference.BoxConversion
import GeoRaster.Projection.Dialogue

/-! What georeferences ask their providers. Every conversion is carried out as a dialogue, step by step
as the conversion itself is, and the provider takes part in it by answering alone. -/
namespace GeoRaster

open Projection (Dialogue Engine)

variable {α : Type}

/-- A conversion of a coordinate or a box. -/
inductive Conversion (α : Type) where
  | pixelToPoint (pixel : Point α)
  | pointToPixel (point : Point α)
  | pointToLonLat (point : Point α)
  | pointToLonLatRaw (point : Point α)
  | lonLatToPoint (lonLat : Point α)
  | pixelToLonLat (pixel : Point α)
  | lonLatToPixel (lonLat : Point α)
  | tryPointToLonLat (point : Point α)
  | tryLonLatToPoint (lonLat : Point α)
  | tryPixelToLonLat (pixel : Point α)
  | reprojectionError (pixel : Point α)
  | pixelToPointBox (pixels : Box α)
  | pointToPixelBox (points : Box α)
  | pixelToLonLatBox (pixels : Box α)
  | lonLatToPointBox (lonLats : Box α) (count : Int)
  | pointToLonLatBox (points : Box α) (count : Int)
  | lonLatToPixelBox (lonLats : Box α) (count : Int)

/-- What a conversion gives. -/
inductive Converted (α : Type) where
  | point (p : Except Fault (Point α))
  | pointIfAny (p : Option (Point α))
  | distance (d : Except Fault α)
  | box (b : Logged (Box α))

namespace Mapping.InDialogue

variable [Scalar α]

/-- The box of the images of samples, which are asked for one after another. -/
def boxOfImages (samples : List (Point α)) (f : Point α → Dialogue α (Option (Point α)))
    (finish : Point α → Point α) : Dialogue α (Logged (Box α)) := do
  let answers ← Dialogue.each f samples
  return do
    let images := answers.filterMap id
    let box ← Logged.ofExcept (spanOf (images.map finish))
    let missing := samples.length - images.length
    if missing ≠ 0 then
      Logged.debug (Decimal.natText missing ++ " samples could not be transformed and were skipped")
    return box

def samplePixels (b : Box α) (f : Point α → Dialogue α (Option (Point α)))
    (finish : Point α → Point α) : Dialogue α (Logged (Box α)) :=
  if b.isEmpty || b.width == Scalar.ofInt 0 || b.height == Scalar.ofInt 0 then return do
    Logged.warning ("Empty pixel box " ++ b.text ++ ", returning empty box")
    return .empty
  else
    match boxPixels b with
    | .ok pixels => boxOfImages (pixels.map gridPoint) f finish
    | .error fault => return Logged.ofExcept (.error fault)

def sampleBox (b : Box α) (f : Point α → Dialogue α (Option (Point α))) (count : Int)
    (prepare finish : Point α → Point α) : Dialogue α (Logged (Box α)) :=
  match b with
  | .empty => return (return .empty)
  | b =>
    match continuousSamples b count with
    | .ok samples => boxOfImages (samples.map prepare) f finish
    | .error fault => return Logged.ofExcept (.error fault)

end Mapping.InDialogue

namespace GeoReference

namespace InDialogue

section Coordinates

variable [Scalar α] (g : GeoReference α)

def pointToLonLat (point : Point α) : Dialogue α (Except Fault (Point α)) := do
  let lonLat ← Engine.InDialogue.inverse g.engine point
  return lonLat.map g.wrapped

def lonLatToPoint (lonLat : Point α) : Dialogue α (Except Fault (Point α)) :=
  Engine.InDialogue.forward g.engine (g.wrapped lonLat)

def pixelToLonLat (pixel : Point α) : Dialogue α (Except Fault (Point α)) :=
  pointToLonLat g (g.pixelToPoint pixel)

def lonLatToPixel (lonLat : Point α) : Dialogue α (Except Fault (Point α)) := do
  let point ← lonLatToPoint g lonLat
  return point.map g.pointToPixel

def tryPointToLonLat (point : Point α) : Dialogue α (Option (Point α)) := do
  let lonLat ← Engine.InDialogue.tryInverse g.engine point
  return lonLat.map g.wrapped

def tryLonLatToPoint (lonLat : Point α) : Dialogue α (Option (Point α)) :=
  Engine.InDialogue.tryForward g.engine (g.wrapped lonLat)

def tryPixelToLonLat (pixel : Point α) : Dialogue α (Option (Point α)) :=
  tryPointToLonLat g (g.pixelToPoint pixel)

end Coordinates

/-- A pixel without longitude and latitude is not asked about any further. -/
def reprojectionError [MetricScalar α] (g : GeoReference α) (pixel : Point α) :
    Dialogue α (Except Fault α) := do
  match ← pixelToLonLat g pixel with
  | .error fault => return .error fault
  | .ok lonLat =>
    let back ← lonLatToPixel g lonLat
    return back.map fun back => MetricScalar.hypot (back.x - pixel.x) (back.y - pixel.y)

section Boxes

variable [Scalar α] (g : GeoReference α)

def pixelToLonLatBox (pixels : Box α) : Dialogue α (Logged (Box α)) :=
  if g.isProjected then
    Mapping.InDialogue.samplePixels pixels
      (fun pixel => Engine.InDialogue.tryInverse g.engine (g.pixelToPoint pixel)) g.wrapped
  else return (return g.pixelToPointBox pixels)

def lonLatToPointBox (lonLats : Box α) (count : Int) : Dialogue α (Logged (Box α)) :=
  if g.isProjected then
    Mapping.InDialogue.sampleBox lonLats (Engine.InDialogue.tryForward g.engine) count g.wrapped id
  else return (return Mapping.transformCorners lonLats id)

def pointToLonLatBox (points : Box α) (count : Int) : Dialogue α (Logged (Box α)) :=
  if g.isProjected then
    Mapping.InDialogue.sampleBox points (Engine.InDialogue.tryInverse g.engine) count id g.wrapped
  else return (return Mapping.transformCorners points id)

def lonLatToPixelBox (lonLats : Box α) (count : Int) : Dialogue α (Logged (Box α)) :=
  if g.isProjected then do
    let points ← lonLatToPointBox g lonLats count
    return points >>= fun points => Logged.ofExcept (g.pointToPixelBox points)
  else return Logged.ofExcept (g.pointToPixelBox lonLats)

end Boxes

end InDialogue

variable [MetricScalar α] (g : GeoReference α)

def convert : Conversion α → Converted α
  | .pixelToPoint pixel => .point (.ok (g.pixelToPoint pixel))
  | .pointToPixel point => .point (.ok (g.pointToPixel point))
  | .pointToLonLat point => .point (g.pointToLonLat point)
  | .pointToLonLatRaw point => .point (g.pointToLonLatRaw point)
  | .lonLatToPoint lonLat => .point (g.lonLatToPoint lonLat)
  | .pixelToLonLat pixel => .point (g.pixelToLonLat pixel)
  | .lonLatToPixel lonLat => .point (g.lonLatToPixel lonLat)
  | .tryPointToLonLat point => .pointIfAny (g.tryPointToLonLat point)
  | .tryLonLatToPoint lonLat => .pointIfAny (g.tryLonLatToPoint lonLat)
  | .tryPixelToLonLat pixel => .pointIfAny (g.tryPixelToLonLat pixel)
  | .reprojectionError pixel => .distance (g.reprojectionError pixel)
  | .pixelToPointBox pixels => .box (return g.pixelToPointBox pixels)
  | .pointToPixelBox points => .box (Logged.ofExcept (g.pointToPixelBox points))
  | .pixelToLonLatBox pixels => .box (g.pixelToLonLatBox pixels)
  | .lonLatToPointBox lonLats count => .box (g.lonLatToPointBox lonLats count)
  | .pointToLonLatBox points count => .box (g.pointToLonLatBox points count)
  | .lonLatToPixelBox lonLats count => .box (g.lonLatToPixelBox lonLats count)

/-- A conversion as a dialogue with the provider. -/
def converse : Conversion α → Dialogue α (Converted α)
  | .pixelToPoint pixel => return .point (.ok (g.pixelToPoint pixel))
  | .pointToPixel point => return .point (.ok (g.pointToPixel point))
  | .pointToLonLat point => .point <$> InDialogue.pointToLonLat g point
  | .pointToLonLatRaw point => .point <$> Engine.InDialogue.inverse g.engine point
  | .lonLatToPoint lonLat => .point <$> InDialogue.lonLatToPoint g lonLat
  | .pixelToLonLat pixel => .point <$> InDialogue.pixelToLonLat g pixel
  | .lonLatToPixel lonLat => .point <$> InDialogue.lonLatToPixel g lonLat
  | .tryPointToLonLat point => .pointIfAny <$> InDialogue.tryPointToLonLat g point
  | .tryLonLatToPoint lonLat => .pointIfAny <$> InDialogue.tryLonLatToPoint g lonLat
  | .tryPixelToLonLat pixel => .pointIfAny <$> InDialogue.tryPixelToLonLat g pixel
  | .reprojectionError pixel => .distance <$> InDialogue.reprojectionError g pixel
  | .pixelToPointBox pixels => return .box (return g.pixelToPointBox pixels)
  | .pointToPixelBox points => return .box (Logged.ofExcept (g.pointToPixelBox points))
  | .pixelToLonLatBox pixels => .box <$> InDialogue.pixelToLonLatBox g pixels
  | .lonLatToPointBox lonLats count => .box <$> InDialogue.lonLatToPointBox g lonLats count
  | .pointToLonLatBox points count => .box <$> InDialogue.pointToLonLatBox g points count
  | .lonLatToPixelBox lonLats count => .box <$> InDialogue.lonLatToPixelBox g lonLats count

end GeoReference

end GeoRaster
