import GeoRaster.Affine
import GeoRaster.Mapping.WindowChoice
import GeoRaster.Projection.Engine
import GeoRaster.Wkt.Basic

/-! Georeferences relate the pixels of a raster image to projected points and to longitudes and
latitudes. A georeference is a pixel transform, an engine for its projection and datum, and
the longitude window that suits both. Each change makes a new georeference from the old
one; a change that fails makes none, and the old one stands. -/
namespace GeoRaster

open Projection (Engine Provider)
open Mapping (WindowChoice)

/-- The relation between pixels, projected points, and longitudes with latitudes. -/
structure GeoReference (α : Type) [Scalar α] where
  affine : AffineTransform α
  engine : Engine α
  window : LonWindow

structure GeoReferenceSpec (α : Type) where
  datum : Option Datum := none
  /-- The pixel transform, the identity if none is given. -/
  transform : Option (Nested α) := none
  interpretation : GivenInterpretation := .known .area
  /-- The projection string, longitude and latitude themselves if none is given. -/
  projection : Option String := none

namespace GeoReference

variable {α : Type} [Scalar α]

def named (datum : Datum) : Logged Datum :=
  if datum.lacksDatumName then do
    Logged.warning "WGS84 spheroid without datum name, assuming datum WGS_1984"
    return datum.asWGS84
  else return datum

/-- The longitude of the first pixel, not wrapped into any window. -/
def startLongitude (affine : AffineTransform α) (engine : Engine α) : Except Fault α :=
  (engine.inverse (affine.pixelToPoint ⟨Scalar.ofInt 0, Scalar.ofInt 0⟩)).map (·.x)

def commit (affine : AffineTransform α) (engine : Engine α) : Logged (GeoReference α) := do
  let choice ← Logged.ofExcept
    (WindowChoice.choose engine.projection affine.xScale fun _ => startLongitude affine engine)
  choice.note
  if choice.clearsOver then
    let (engine, _) ← engine.clearOver
    return ⟨affine, engine, choice.window⟩
  else
    return ⟨affine, engine, choice.window⟩

def make (provider : Provider α) (spec : GeoReferenceSpec α) : Logged (GeoReference α) := do
  let affine ← Logged.ofExcept (AffineTransform.make spec.transform spec.interpretation)
  let datum ← named (spec.datum.getD WellKnownDatum.wgs1984.datum)
  let projection := spec.projection.getD Projection.Named.geographic.string
  commit affine (← Engine.make provider projection datum)

def projection (g : GeoReference α) : String :=
  g.engine.projection

def datum (g : GeoReference α) : Datum :=
  g.engine.datum

def isProjected (g : GeoReference α) : Bool :=
  g.engine.isProjected

/-! ### Changes

Whatever is changed, the engine is made anew and the window is chosen anew. -/

def rebuilt (g : GeoReference α) (affine : AffineTransform α) (projection : String)
    (datum : Datum) : Logged (GeoReference α) := do
  commit affine (← g.engine.reconfigure projection datum)

def setTransform (g : GeoReference α) (array : Option (Nested α)) : Logged (GeoReference α) := do
  let affine ← Logged.ofExcept (g.affine.withTransform array)
  g.rebuilt affine g.projection g.datum

def setInterpretation (g : GeoReference α) (interpretation : GivenInterpretation) :
    Logged (GeoReference α) := do
  let affine ← Logged.ofExcept (g.affine.withInterpretation interpretation)
  g.rebuilt affine g.projection g.datum

def setDatum (g : GeoReference α) (datum : Datum) : Logged (GeoReference α) := do
  g.rebuilt g.affine g.projection (← named datum)

def setWellKnownDatum (g : GeoReference α) (name : String) : Logged (GeoReference α) := do
  g.setDatum (← Logged.ofExcept (Datum.wellKnown name))

def setProjection (g : GeoReference α) (projection : String) : Logged (GeoReference α) :=
  g.rebuilt g.affine projection g.datum

def setNamed (g : GeoReference α) (projection : Projection.Named) : Logged (GeoReference α) :=
  g.setProjection projection.string

def setWkt (g : GeoReference α) (catalogue : Wkt.Catalogue) (wkt : String) :
    Logged (GeoReference α) := do
  let (datum, projection) ← Wkt.importText catalogue wkt
  g.rebuilt g.affine projection (← named datum)

/-- The georeference in a window of the caller's choice; zones of the universal transverse
Mercator system stay around the prime meridian. -/
def setWindow (g : GeoReference α) (window : LonWindow) : GeoReference α :=
  if Projection.isUTM g.projection then g else { g with window }

/-- A georeference of its own, equal in every part; its provider is set up anew. -/
def copy (g : GeoReference α) : Logged (GeoReference α) := do
  return { g with engine := ← g.engine.copy }

inductive Change (α : Type) where
  | transform (array : Option (Nested α))
  | interpretation (interpretation : GivenInterpretation)
  | datum (datum : Datum)
  | wellKnownDatum (name : String)
  | projection (projection : String)
  | named (projection : Projection.Named)
  | wkt (text : String)
  | window (window : LonWindow)

def change (g : GeoReference α) (catalogue : Wkt.Catalogue) : Change α → Logged (GeoReference α)
  | .transform array => g.setTransform array
  | .interpretation interpretation => g.setInterpretation interpretation
  | .datum datum => g.setDatum datum
  | .wellKnownDatum name => g.setWellKnownDatum name
  | .projection projection => g.setProjection projection
  | .named projection => g.setNamed projection
  | .wkt text => g.setWkt catalogue text
  | .window window => return g.setWindow window

/-- What a caller holds after asking for a change: the new georeference, or after a failure
the old one. -/
def afterChange (g : GeoReference α) (catalogue : Wkt.Catalogue) (c : Change α) :
    GeoReference α :=
  match (g.change catalogue c).result with
  | .ok changed => changed
  | .error _ => g

def wkt (g : GeoReference α) (catalogue : Wkt.Catalogue) : Except Fault String :=
  Wkt.exportText catalogue g.datum g.projection

end GeoReference

end GeoRaster
