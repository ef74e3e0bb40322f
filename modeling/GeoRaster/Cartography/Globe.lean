import GeoRaster.Point

/-! The globe that is mapped: an ellipsoid of revolution of unit equatorial radius, given by its
eccentricity, and the latitudes that stand in for the geographic one on it. The conformal
latitude keeps angles, the authalic latitude areas, the rectifying latitude distances along
a meridian. On a sphere all of them are the geographic latitude. -/
namespace GeoRaster.Cartography

def pi : Float :=
  3.141592653589793

def halfPi : Float :=
  1.5707963267948966

def quarterPi : Float :=
  0.78539816339744833

def sq (x : Float) : Float :=
  x * x

def hypot (x y : Float) : Float :=
  (x * x + y * y).sqrt

def poly (coefficients : List Float) (x : Float) : Float :=
  coefficients.foldr (fun c rest => c + x * rest) 0.0

/-- The sum of sines of the even multiples of an angle, the coefficient of the double angle
first. -/
def sineSeries (coefficients : List Float) (angle : Float) : Float :=
  (coefficients.zipIdx 1).foldl (fun sum (c, k) => sum + c * (2.0 * k.toFloat * angle).sin) 0.0

structure Globe where
  /-- The squared eccentricity. -/
  es : Float

namespace Globe

def e (g : Globe) : Float :=
  g.es.sqrt

def isSphere (g : Globe) : Bool :=
  g.es == 0.0

def axisRatio (g : Globe) : Float :=
  (1.0 - g.es).sqrt

def flattening (g : Globe) : Float :=
  g.es / (1.0 + g.axisRatio)

def n (g : Globe) : Float :=
  g.flattening / (2.0 - g.flattening)

def crossRadius (g : Globe) (sinPhi : Float) : Float :=
  1.0 / (1.0 - g.es * sinPhi * sinPhi).sqrt

def parallelRadius (g : Globe) (phi : Float) : Float :=
  phi.cos * g.crossRadius phi.sin

def conformalTangent (g : Globe) (phi : Float) : Float :=
  let s := phi.sin
  let c := phi.cos
  (g.e * (g.e * s).atanh).exp * (if 0.0 < s then c / (1.0 + s) else (1.0 - s) / c)

/-- One step of Newton's method for the tangent of the latitude, given that of the conformal
latitude, repeated until it moves by less than the tolerance. -/
def refineTangent (g : Globe) (conformal tolerance : Float) : (steps : Nat) → (tan : Float) →
    Option Float
  | 0, _ => none
  | steps + 1, tan =>
    let rest := 1.0 - g.es
    let secant := (1.0 + tan * tan).sqrt
    let sigma := (g.e * (g.e * tan / secant).atanh).sinh
    let here := (1.0 + sigma * sigma).sqrt * tan - sigma * secant
    let move := (conformal - here) * (1.0 + rest * (tan * tan)) /
      (rest * secant * (1.0 + here * here).sqrt)
    if tolerance ≤ move.abs then g.refineTangent conformal tolerance steps (tan + move)
    else some (tan + move)

def latitudeOfConformal (g : Globe) (conformal : Float) : Option Float :=
  let rootEps : Float := 1.4901161193847656e-08
  let guess := if 70.0 < conformal.abs then conformal * (g.e * g.e.atanh).exp
    else conformal / (1.0 - g.es)
  if guess.abs < 2.0 / rootEps then
    let scale := if 1.0 < conformal.abs then conformal.abs else 1.0
    (g.refineTangent conformal (rootEps / 10.0 * scale) 5 guess).map Float.atan
  else some guess.atan

def latitudeOfTangent (g : Globe) (t : Float) : Option Float :=
  g.latitudeOfConformal ((1.0 / t - t) / 2.0)

def rectifyingRadius (g : Globe) : Float :=
  let m := g.n * g.n
  poly [1.0, 1.0 / 4.0, 1.0 / 64.0, 1.0 / 256.0] m / (1.0 + g.n)

def meridianDistance (g : Globe) (phi : Float) : Float :=
  let n := g.n
  let m := n * n
  g.rectifyingRadius * (phi + sineSeries [
    n * poly [-3.0 / 2.0, 9.0 / 16.0, -3.0 / 32.0] m,
    m * poly [15.0 / 16.0, -15.0 / 32.0, 135.0 / 2048.0] m,
    n * m * poly [-35.0 / 48.0, 105.0 / 256.0] m,
    m * m * poly [315.0 / 512.0, -189.0 / 512.0] m,
    n * m * m * (-693.0 / 1280.0),
    m * m * m * (1001.0 / 2048.0)] phi)

def latitudeOfDistance (g : Globe) (distance : Float) : Float :=
  let n := g.n
  let m := n * n
  let mu := distance / g.rectifyingRadius
  mu + sineSeries [
    n * poly [3.0 / 2.0, -27.0 / 32.0, 269.0 / 512.0] m,
    m * poly [21.0 / 16.0, -55.0 / 32.0, 6759.0 / 4096.0] m,
    n * m * poly [151.0 / 96.0, -417.0 / 128.0] m,
    m * m * poly [1097.0 / 512.0, -15543.0 / 2560.0] m,
    n * m * m * (8011.0 / 2560.0),
    m * m * m * (293393.0 / 61440.0)] mu

/-- The area between the equator and a parallel, over the turn, by the sine of the latitude;
twice the sine on a sphere. -/
def zone (g : Globe) (sinPhi : Float) : Float :=
  if g.isSphere then 2.0 * sinPhi
  else
    let c := g.e * sinPhi
    (1.0 - g.es) * (sinPhi / (1.0 - c * c) + c.atanh / g.e)

def latitudeOfAuthalic (g : Globe) (beta : Float) : Float :=
  beta + sineSeries [
    poly [0.0, 1.0 / 3.0, 31.0 / 180.0, 517.0 / 5040.0] g.es,
    poly [0.0, 0.0, 23.0 / 360.0, 251.0 / 3780.0] g.es,
    poly [0.0, 0.0, 0.0, 761.0 / 45360.0] g.es] beta

end Globe

/-- A map of the unit globe: from longitudes, counted from the central meridian, and latitudes
to points of the plane, and back. -/
structure GlobeMap where
  forward : Point Float → Option (Point Float)
  inverse : Point Float → Option (Point Float)

inductive Aspect where
  | northPole
  | southPole
  | equator
  | oblique
deriving DecidableEq, Repr

def Aspect.ofLatitude (phi : Float) : Aspect :=
  if (phi.abs - halfPi).abs < 1.0e-10 then (if phi < 0.0 then .southPole else .northPole)
  else if phi.abs < 1.0e-10 then .equator
  else .oblique

/-- A sine without the excess that rounding may have given it. -/
def clampSine (x : Float) : Float :=
  if 1.0 < x then 1.0 else if x < -1.0 then -1.0 else x

end GeoRaster.Cartography
