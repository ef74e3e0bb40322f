import GeoRaster.Datum
import GeoRaster.Longitude
import GeoRaster.Projection.Provider

/-! Engines convert between projected points and longitudes with latitudes, in degrees. An
engine owns a projection string, a datum and a provider that is set up from both. When the
projection is geographic, coordinates stand for themselves and the provider is not asked. -/
namespace GeoRaster.Projection

open Scalar (ofInt radians degrees)

def latitudeBound {α : Type} [Scalar α] : α :=
  Scalar.pi / ofInt 2 - Scalar.ofDecimal 1 (-10) - ofInt 1 / ofInt 4503599627370496

def clampLatitude {α : Type} [Scalar α] (latitude : α) : α :=
  let low := if latitude < latitudeBound then latitude else latitudeBound
  if -latitudeBound < low then low else -latitudeBound

/-- The projection string with the tokens of the datum; no other defaults apply. -/
def overallString (projection : String) (datum : Datum) : String :=
  joinStrings [projection, datum.tokens, "+no_defs"]

/-- A projection and a datum with a provider that is set up from them. -/
structure Engine (α : Type) where
  provider : Provider α
  session : Session α
  /-- Why the provider's last evaluation failed, if it did. -/
  lastError : Option String
  /-- The tokens of the projection without those of the datum. -/
  projection : String
  datum : Datum

namespace Engine

variable {α : Type} [Scalar α]

def overall (e : Engine α) : String :=
  overallString e.projection e.datum

def isProjected (e : Engine α) : Bool :=
  !isGeographic e.projection

def install (provider : Provider α) (projection : String) (datum : Datum) :
    Logged (Engine α) := do
  let session ← provider.configure (overallString projection datum)
  return ⟨provider, session, none, projection, datum⟩

/-- The form in which a projection string is installed: trimmed, and with `+over`, so that
longitudes are not wrapped by the provider. Zones of the universal transverse Mercator
system do without. -/
def prepared (projection : String) : Except Fault String :=
  let projection := Text.trimmed projection
  if projection = "" then .error .emptyProjection
  else if (projectionName projection).isNone then .error (.unnamedProjection projection)
  else if !hasToken projection overToken && !isUTM projection then
    .ok (appendToken projection overToken)
  else .ok projection

def make (provider : Provider α) (projection : String) (datum : Datum) : Logged (Engine α) := do
  let projection ← Logged.ofExcept (prepared projection)
  install provider projection datum

def reconfigure (e : Engine α) (projection : String) (datum : Datum) : Logged (Engine α) :=
  make e.provider projection datum

/-- The engine without `+over`, for longitudes that are known to stay around the prime
meridian; and whether that changed the projection string. -/
def clearOver (e : Engine α) : Logged (Engine α × Bool) := do
  let stripped := removeToken e.projection overToken
  if stripped = e.projection then
    return (e, false)
  else
    let cleared ← install e.provider stripped e.datum
    Logged.debug ("Removed +over from projection: " ++ stripped)
    return (cleared, true)

def copy (e : Engine α) : Logged (Engine α) :=
  install e.provider e.projection e.datum

def angles (lonLat : Point α) : Point α :=
  ⟨radians lonLat.x, clampLatitude (radians lonLat.y)⟩

/-- The projected point of a longitude and latitude. The latitude is kept off the poles, the
longitude is passed on as it is. -/
def forward (e : Engine α) (lonLat : Point α) : Except Fault (Point α) :=
  if e.isProjected then
    (e.session.evaluator.forward (angles lonLat)).mapError fun reason =>
      .notEvaluable reason
        (" (lon=" ++ Scalar.text lonLat.x ++ ", lat=" ++ Scalar.text lonLat.y ++ ")")
  else .ok lonLat

/-- The projected point of a longitude and latitude, if there is one. -/
def tryForward (e : Engine α) (lonLat : Point α) : Option (Point α) :=
  if e.isProjected then (e.session.evaluator.forward (angles lonLat)).toOption else some lonLat

def inverseAnswer (point : Point α) : Evaluation α → Except Fault (Point α)
  | .ok angles => .ok (angles.map degrees)
  | .error reason => .error (.notEvaluable reason
      (" (x=" ++ Scalar.text point.x ++ ", y=" ++ Scalar.text point.y ++ ")"))

/-- The longitude and latitude of a projected point, the longitude in whatever window the
provider puts it. -/
def inverse (e : Engine α) (point : Point α) : Except Fault (Point α) :=
  if e.isProjected then inverseAnswer point (e.session.evaluator.inverse point)
  else .ok point

/-- The longitude and latitude of a projected point, if there is one. -/
def tryInverse (e : Engine α) (point : Point α) : Option (Point α) :=
  if e.isProjected then
    (e.session.evaluator.inverse point).toOption.map fun angles => angles.map degrees
  else some point

/-- The longitude, wrapped into a window, and the latitude of a projected point. -/
def inverseWrapped (e : Engine α) (window : LonWindow) (point : Point α) :
    Except Fault (Point α) :=
  (e.inverse point).map fun lonLat => ⟨Longitude.wrap window lonLat.x, lonLat.y⟩

/-! ### Coordinates of any length

A geographic engine hands an unprojected point through without looking at it; a projected
one reads its first two numbers. The other way, a coordinate has to be a pair. -/

def forwardOf (e : Engine α) (coordinate : List α) : Except Fault (Point α) := do
  e.forward (← Point.ofPair coordinate)

/-- The projected point of a coordinate, if there is one. -/
def tryForwardOf (e : Engine α) (coordinate : List α) : Except Fault (Option (Point α)) := do
  return e.tryForward (← Point.ofPair coordinate)

def inverseOf (e : Engine α) (coordinate : List α) : Except Fault (List α) :=
  if e.isProjected then do
    return (← e.inverse (← Point.ofLeading coordinate)).toList
  else .ok coordinate

/-- The longitude and latitude of a coordinate, if there are any. -/
def tryInverseOf (e : Engine α) (coordinate : List α) : Except Fault (Option (List α)) :=
  if e.isProjected then do
    return (e.tryInverse (← Point.ofLeading coordinate)).map Point.toList
  else .ok (some coordinate)

/-- The longitude, wrapped into a window, and the latitude of a coordinate. -/
def inverseWrappedOf (e : Engine α) (window : LonWindow) (coordinate : List α) :
    Except Fault (Point α) := do
  let lonLat ← Point.ofPair (← e.inverseOf coordinate)
  return ⟨Longitude.wrap window lonLat.x, lonLat.y⟩

inductive Direction where
  | forward
  | inverse
deriving DecidableEq, Repr

/-- What converting a coordinate asks the provider, if it asks anything. -/
def question? (e : Engine α) (direction : Direction) (coordinate : List α) : Option (Point α) :=
  if e.isProjected then
    match direction with
    | .forward => (Point.ofPair coordinate).toOption.map angles
    | .inverse => (Point.ofLeading coordinate).toOption
  else none

/-! ### The provider in other hands

Callers may take hold of an engine's provider, evaluate with it and set it up anew; the engine
then works with the provider as they left it. -/

def console (e : Engine α) : Console α :=
  ⟨e.provider, some e.session, e.lastError⟩

def withConsole (e : Engine α) (c : Console α) : Engine α :=
  { e with session := c.session.getD e.session, lastError := c.lastError }

/-- The engine after converting a coordinate: its provider remembers how the evaluation went, if
there was one. -/
def after (e : Engine α) (direction : Direction) (coordinate : List α) : Engine α :=
  match e.question? direction coordinate with
  | none => e
  | some p =>
    let answer := match direction with
      | .forward => e.session.evaluator.forward p
      | .inverse => e.session.evaluator.inverse p
    e.withConsole (e.console.afterwards answer)

def text (e : Engine α) : String :=
  "ProjectionEngine(" ++ Text.quoted e.overall ++ ")"

end Engine

end GeoRaster.Projection
