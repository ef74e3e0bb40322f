import GeoRaster.Objects.Engine

/-! Georeferences as objects. A change derives the new transform, engine and window first, on
objects that nobody else knows yet, and then writes the three fields of the georeference. -/
namespace GeoRaster.Objects

open Projection (Provider isUTM isOrthographic extractValue)
open Mapping (WindowChoice)
open GeoReference (Change)

variable {α : Type} [Scalar α]

/-- The longitude of the first pixel, not wrapped into any window. -/
def startLongitude (affine : AffineTransform α) (e : Address) : Action α α := do
  return (← inverse e (affine.pixelToPoint ⟨Scalar.ofInt 0, Scalar.ofInt 0⟩)).x

/-- The window for a projection string, the x-scale of the pixel transform, and the unwrapped
longitude of the first pixel, which is asked for only where it matters. -/
def chooseWindow (projection : String) (xScale : α) (start : Action α α) :
    Action α WindowChoice := do
  if isUTM projection then return ⟨.aroundZero, "UTM"⟩
  else if isOrthographic projection then
    return WindowChoice.forOrthographic (extractValue (α := α) projection "lon_0")
  else
    Action.ofLogged (Logged.ofExcept (WindowChoice.ofAttempt xScale (← start.attempt)))

/-- The window that suits a transform and an engine; `+over` leaves the engine where the window
does without. -/
def settle (affine : AffineTransform α) (e : Address) : Action α LonWindow := do
  let engine ← Action.read fun m => m.engines.object e
  let choice ← chooseWindow engine.projection affine.xScale (startLongitude affine e)
  Action.ofLogged choice.note
  if choice.clearsOver then
    let _ ← clearOver e
    return choice.window
  else return choice.window

def newGeoReference (source : Provider α) (spec : GeoReferenceSpec α) : Action α Address := do
  let affine ← Action.ofLogged
    (Logged.ofExcept (AffineTransform.make spec.transform spec.interpretation))
  let datum ← Action.ofLogged (GeoReference.named (spec.datum.getD WellKnownDatum.wgs1984.datum))
  let engine ← newEngine source (spec.projection.getD Projection.Named.geographic.string) datum
  let window ← settle affine engine
  .new (·.georeferences.count) (·.addGeoReference ⟨affine, engine, window⟩)

def commit (a : Address) (affine : AffineTransform α) (engine : Address) : Action α Unit := do
  let window ← settle affine engine
  Action.write (·.updateGeoReference a fun o => { o with affine })
  Action.write (·.updateGeoReference a fun o => { o with engine })
  Action.write (·.updateGeoReference a fun o => { o with window })

def rebuild (a : Address) (affine : AffineTransform α) (projection : String) (datum : Datum) :
    Action α Unit := do
  let engine ← Action.read (·.engineOf a)
  commit a affine (← newEngine engine.source projection datum)

def change (a : Address) (catalogue : Wkt.Catalogue) (c : Change α) : Action α Unit := do
  let g ← Action.read fun m => m.georeferences.object a
  let engine ← Action.read (·.engineOf a)
  match c with
  | .transform array =>
    let affine ← Action.ofLogged (Logged.ofExcept (g.affine.withTransform array))
    rebuild a affine engine.projection engine.datum
  | .interpretation interpretation =>
    let affine ← Action.ofLogged (Logged.ofExcept (g.affine.withInterpretation interpretation))
    rebuild a affine engine.projection engine.datum
  | .datum datum =>
    rebuild a g.affine engine.projection (← Action.ofLogged (GeoReference.named datum))
  | .wellKnownDatum name =>
    let datum ← Action.ofLogged (Logged.ofExcept (Datum.wellKnown name))
    rebuild a g.affine engine.projection (← Action.ofLogged (GeoReference.named datum))
  | .projection projection => rebuild a g.affine projection engine.datum
  | .named projection => rebuild a g.affine projection.string engine.datum
  | .wkt text =>
    let (datum, projection) ← Action.ofLogged (Wkt.importText catalogue text)
    rebuild a g.affine projection (← Action.ofLogged (GeoReference.named datum))
  | .window window =>
    if isUTM engine.projection then return ()
    else Action.write (·.updateGeoReference a fun o => { o with window })

def copyGeoReference (a : Address) : Action α Address := do
  let g ← Action.read fun m => m.georeferences.object a
  let engine ← copyEngine g.engine
  .new (·.georeferences.count) (·.addGeoReference ⟨g.affine, engine, g.window⟩)

end GeoRaster.Objects
