import GeoRaster.GeoReference.Dialogue
import GeoRaster.Objects.Engine

/-! Conversions by engines and georeferences as objects. Whatever is not evaluated is read from the
fields at that moment, and the one thing that is written on the way is what a provider remembers of
its last evaluation. A conversion of its own stands for each form that a caller can choose: one that
fails where there is no value, and one that then gives none. -/
namespace GeoRaster.Objects

open Projection (Engine Evaluation Evaluator)
open Mapping (transformCorners spanOf boxPixels continuousSamples gridPoint)

namespace Action

variable {α β γ : Type} [Scalar α]

def ofExcept (r : Except Fault β) : Action α β :=
  ofLogged (Logged.ofExcept r)

/-- The work for each item of a list, one after another. -/
def each (f : β → Action α γ) : List β → Action α (List γ)
  | [] => return []
  | b :: rest => do
    let c ← f b
    let cs ← each f rest
    return c :: cs

end Action

section Engines

variable {α : Type} [Scalar α]

/-- The answer of an engine's provider, which remembers how the evaluation went. -/
def evaluate (e : Address) (direction : Evaluator α → Point α → Evaluation α) (point : Point α) :
    Action α (Evaluation α) := do
  let engine ← Action.read fun m => m.engines.object e
  let console ← Action.read fun m => m.providers.object engine.provider
  let (answer, console) ← Action.ofExcept (console.evaluate direction point)
  Action.write (·.updateProvider engine.provider fun _ => console)
  return answer

/-- The projected point of a longitude and latitude. -/
def forward (e : Address) (lonLat : Point α) : Action α (Point α) := do
  let engine ← Action.read fun m => m.engines.object e
  if engine.isProjected then
    match ← evaluate e (·.forward) (Engine.angles lonLat) with
    | .ok point => return point
    | .error reason => Action.ofExcept (.error (.notEvaluable reason
        (" (lon=" ++ Scalar.text lonLat.x ++ ", lat=" ++ Scalar.text lonLat.y ++ ")")))
  else return lonLat

/-- The projected point of a longitude and latitude, if there is one. -/
def tryForward (e : Address) (lonLat : Point α) : Action α (Option (Point α)) := do
  let engine ← Action.read fun m => m.engines.object e
  if engine.isProjected then
    return (← evaluate e (·.forward) (Engine.angles lonLat)).toOption
  else return some lonLat

/-- The longitude and latitude of a projected point, if there is one. -/
def tryInverse (e : Address) (point : Point α) : Action α (Option (Point α)) := do
  let engine ← Action.read fun m => m.engines.object e
  if engine.isProjected then
    match ← evaluate e (·.inverse) point with
    | .error _ => return none
    | .ok angles => return some (angles.map Scalar.degrees)
  else return some point

/-- The longitude, wrapped into a window, and the latitude of a projected point. -/
def inverseWrapped (e : Address) (window : LonWindow) (point : Point α) : Action α (Point α) := do
  let lonLat ← inverse e point
  return ⟨Longitude.wrap window lonLat.x, lonLat.y⟩

end Engines

section Coordinates

variable {α : Type} [Scalar α] (a : Address)

def engineAddress : Action α Address :=
  .read fun m => (m.georeferences.object a).engine

/-- The longitude, wrapped into the window as it is now, and the latitude. -/
def wrapped (lonLat : Point α) : Action α (Point α) := do
  let window ← Action.read fun m => (m.georeferences.object a).window
  return ⟨Longitude.wrap window lonLat.x, lonLat.y⟩

def pixelToPoint (pixel : Point α) : Action α (Point α) :=
  .read fun m => (m.georeferences.object a).affine.pixelToPoint pixel

def pointToPixel (point : Point α) : Action α (Point α) :=
  .read fun m => (m.georeferences.object a).affine.pointToPixel point

def pointToLonLat (point : Point α) : Action α (Point α) := do
  wrapped a (← inverse (← engineAddress a) point)

def pointToLonLatRaw (point : Point α) : Action α (Point α) := do
  inverse (← engineAddress a) point

def lonLatToPoint (lonLat : Point α) : Action α (Point α) := do
  let lonLat ← wrapped a lonLat
  forward (← engineAddress a) lonLat

def pixelToLonLat (pixel : Point α) : Action α (Point α) := do
  pointToLonLat a (← pixelToPoint a pixel)

def lonLatToPixel (lonLat : Point α) : Action α (Point α) := do
  pointToPixel a (← lonLatToPoint a lonLat)

/-- The longitude and latitude of a projected point, if there are any. -/
def tryPointToLonLat (point : Point α) : Action α (Option (Point α)) := do
  match ← tryInverse (← engineAddress a) point with
  | none => return none
  | some lonLat => return some (← wrapped a lonLat)

/-- The projected point of a longitude and latitude, if there is one. -/
def tryLonLatToPoint (lonLat : Point α) : Action α (Option (Point α)) := do
  let lonLat ← wrapped a lonLat
  match ← tryForward (← engineAddress a) lonLat with
  | none => return none
  | some point => return some point

/-- The longitude and latitude of a pixel, if there are any. -/
def tryPixelToLonLat (pixel : Point α) : Action α (Option (Point α)) := do
  tryPointToLonLat a (← pixelToPoint a pixel)

end Coordinates

/-- How far a pixel moves on the way to longitude and latitude and back. -/
def reprojectionError {α : Type} [MetricScalar α] (a : Address) (pixel : Point α) : Action α α := do
  let back ← lonLatToPixel a (← pixelToLonLat a pixel)
  return MetricScalar.hypot (back.x - pixel.x) (back.y - pixel.y)

section Boxes

variable {α : Type} [Scalar α]

/-- The box of the images of samples; all images are finished together. -/
def boxOfImages (samples : List (Point α)) (f : Point α → Action α (Option (Point α)))
    (finish : Point α → Action α (Point α)) : Action α (Box α) := do
  let images := (← Action.each f samples).filterMap id
  let box ← Action.ofExcept (spanOf (← Action.each finish images))
  let missing := samples.length - images.length
  if missing ≠ 0 then
    Action.ofLogged (Logged.debug
      (Decimal.natText missing ++ " samples could not be transformed and were skipped"))
  return box

def samplePixels (b : Box α) (f : Point α → Action α (Option (Point α)))
    (finish : Point α → Action α (Point α)) : Action α (Box α) :=
  if b.isEmpty || b.width == Scalar.ofInt 0 || b.height == Scalar.ofInt 0 then do
    Action.ofLogged (Logged.warning ("Empty pixel box " ++ b.text ++ ", returning empty box"))
    return .empty
  else do
    let pixels ← Action.ofExcept (boxPixels b)
    boxOfImages (pixels.map gridPoint) f finish

def sampleBox (b : Box α) (f : Point α → Action α (Option (Point α))) (count : Int)
    (prepare finish : Point α → Action α (Point α)) : Action α (Box α) :=
  match b with
  | .empty => return .empty
  | b => do
    let samples ← Action.ofExcept (continuousSamples b count)
    boxOfImages (← Action.each prepare samples) f finish

variable (a : Address)

def isProjected : Action α Bool :=
  .read fun m => (m.engineOf a).isProjected

def pixelToPointBox (pixels : Box α) : Action α (Box α) :=
  .read fun m => transformCorners pixels (m.georeferences.object a).affine.pixelToPoint

def pointToPixelBox (points : Box α) : Action α (Box α) := do
  let g ← Action.read fun m => m.georeferences.object a
  Action.ofExcept (transformCorners points g.affine.pointToPixel).growToInt

def pixelToLonLatBox (pixels : Box α) : Action α (Box α) := do
  if ← isProjected a then
    samplePixels pixels
      (fun pixel => do tryInverse (← engineAddress a) (← pixelToPoint a pixel)) (wrapped a)
  else pixelToPointBox a pixels

def lonLatToPointBox (lonLats : Box α) (count : Int) : Action α (Box α) := do
  if ← isProjected a then
    let engine ← engineAddress a
    sampleBox lonLats (tryForward engine) count (wrapped a) pure
  else return transformCorners lonLats id

def pointToLonLatBox (points : Box α) (count : Int) : Action α (Box α) := do
  if ← isProjected a then
    let engine ← engineAddress a
    sampleBox points (tryInverse engine) count pure (wrapped a)
  else return transformCorners points id

def lonLatToPixelBox (lonLats : Box α) (count : Int) : Action α (Box α) := do
  if ← isProjected a then pointToPixelBox a (← lonLatToPointBox a lonLats count)
  else pointToPixelBox a lonLats

end Boxes

/-- What a successful conversion gives. -/
inductive Given (α : Type) where
  | point (p : Point α)
  | pointIfAny (p : Option (Point α))
  | distance (d : α)
  | box (b : Box α)

/-- What a conversion of values gives, where it succeeds. -/
def Given.ofConverted {α : Type} : Converted α → Logged (Given α)
  | .point p => .point <$> Logged.ofExcept p
  | .pointIfAny p => return .pointIfAny p
  | .distance d => .distance <$> Logged.ofExcept d
  | .box b => .box <$> b

def convert {α : Type} [MetricScalar α] (a : Address) : Conversion α → Action α (Given α)
  | .pixelToPoint pixel => return .point (← pixelToPoint a pixel)
  | .pointToPixel point => return .point (← pointToPixel a point)
  | .pointToLonLat point => return .point (← pointToLonLat a point)
  | .pointToLonLatRaw point => return .point (← pointToLonLatRaw a point)
  | .lonLatToPoint lonLat => return .point (← lonLatToPoint a lonLat)
  | .pixelToLonLat pixel => return .point (← pixelToLonLat a pixel)
  | .lonLatToPixel lonLat => return .point (← lonLatToPixel a lonLat)
  | .tryPointToLonLat point => return .pointIfAny (← tryPointToLonLat a point)
  | .tryLonLatToPoint lonLat => return .pointIfAny (← tryLonLatToPoint a lonLat)
  | .tryPixelToLonLat pixel => return .pointIfAny (← tryPixelToLonLat a pixel)
  | .reprojectionError pixel => return .distance (← reprojectionError a pixel)
  | .pixelToPointBox pixels => return .box (← pixelToPointBox a pixels)
  | .pointToPixelBox points => return .box (← pointToPixelBox a points)
  | .pixelToLonLatBox pixels => return .box (← pixelToLonLatBox a pixels)
  | .lonLatToPointBox lonLats count => return .box (← lonLatToPointBox a lonLats count)
  | .pointToLonLatBox points count => return .box (← pointToLonLatBox a points count)
  | .lonLatToPixelBox lonLats count => return .box (← lonLatToPixelBox a lonLats count)

end GeoRaster.Objects
