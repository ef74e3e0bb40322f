import GeoRaster.Box
import GeoRaster.Scalar.Double
import GeoRaster.Projection.Tokens

/-! The projections that have a name of their own, with their parameters. Each has one
projection string; whole parameters are written without a point in it. -/
namespace GeoRaster.Projection

/-- Eastings and northings are counted from here, in meters. -/
structure FalseOrigin where
  easting : Float
  northing : Float

/-- A point of the globe that a projection is centered on, in degrees. -/
structure Center where
  latitude : Float
  longitude : Float

def Center.entries (c : Center) : List (String × Float) :=
  [("lon_0", c.longitude), ("lat_0", c.latitude)]

def FalseOrigin.entries (o : FalseOrigin) : List (String × Float) :=
  [("x_0", o.easting), ("y_0", o.northing)]

inductive Named where
  | geographic
  | equirectangular (center : Center) (trueScale : Float) (origin : FalseOrigin)
  | sinusoidal (longitude : Float) (origin : FalseOrigin)
  | mercator (center : Center) (trueScale : Float) (origin : FalseOrigin)
  | transverseMercator (center : Center) (scale : Float) (origin : FalseOrigin)
  | orthographic (center : Center) (origin : FalseOrigin)
  | stereographic (center : Center) (scale : Float) (origin : FalseOrigin)
  | obliqueStereographic (center : Center) (scale : Float) (origin : FalseOrigin)
  | gnomonic (center : Center) (scale : Float) (origin : FalseOrigin)
  | lambertAzimuthal (center : Center) (origin : FalseOrigin)
  | lambertConformal (parallel₁ parallel₂ : Float) (center : Center) (origin : FalseOrigin)
  | utm (zone : Int) (north : Bool)

namespace Named

def numberText (x : Float) : String :=
  if Decimal.isWhole x then Decimal.intText (Decimal.floorInt x) else Decimal.floatText x

/-- The zone of the universal transverse Mercator system that a number stands for once it is truncated. -/
def ofZone (zone : Float) (north : Bool) : Except Fault Named :=
  (Box.wholePart zone).map fun n => utm n north

def name : Named → String
  | geographic => "longlat"
  | equirectangular .. => "eqc"
  | sinusoidal .. => "sinu"
  | mercator .. => "merc"
  | transverseMercator .. => "tmerc"
  | orthographic .. => "ortho"
  | stereographic .. => "stere"
  | obliqueStereographic .. => "sterea"
  | gnomonic .. => "gnom"
  | lambertAzimuthal .. => "laea"
  | lambertConformal .. => "lcc"
  | utm .. => "utm"

def parameters : Named → List (String × Float)
  | geographic | utm .. => []
  | equirectangular c ts o | mercator c ts o =>
    c.entries ++ ("lat_ts", ts) :: o.entries
  | sinusoidal lon o => ("lon_0", lon) :: o.entries
  | transverseMercator c k o | stereographic c k o | obliqueStereographic c k o
  | gnomonic c k o => c.entries ++ ("k", k) :: o.entries
  | orthographic c o | lambertAzimuthal c o => c.entries ++ o.entries
  | lambertConformal p₁ p₂ c o =>
    ("lat_1", p₁) :: ("lat_2", p₂) :: c.entries ++ o.entries

def parameterToken (entry : String × Float) : String :=
  "+" ++ entry.1 ++ "=" ++ numberText entry.2

def tokens (p : Named) : List String :=
  let first := "+proj=" ++ p.name
  match p with
  | geographic => [first]
  | utm zone north =>
    first :: ("+zone=" ++ Decimal.intText zone) :: (if north then [] else ["+south"]) ++ ["+units=m"]
  | p => first :: p.parameters.map parameterToken ++ ["+units=m"]

def string (p : Named) : String :=
  ofTokens p.tokens

end Named

end GeoRaster.Projection
