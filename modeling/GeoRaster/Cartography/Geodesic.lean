import GeoRaster.Cartography.Globe

/-! Geodesics of the globe. A geodesic is laid out on the sphere of reduced latitudes, where it
is a great circle; arcs are counted from its northward crossing of the equator. Series in a
small number that depends on how steeply the geodesic crosses the equator take lengths and
longitudes from the sphere to the globe. The series have six terms. -/
namespace GeoRaster.Cartography

structure Geodesic where
  globe : Globe
  /-- The sine of the azimuth at the equator. -/
  sinEquator : Float
  /-- The cosine of the azimuth at the equator. -/
  cosEquator : Float
  /-- The arc of the starting position. -/
  start : Float
  /-- The longitude of the starting position on the sphere, counted from the equator. Around
  a pole the arc alone does not tell it. -/
  startLongitude : Float

namespace Geodesic

def reducedLatitude (g : Globe) (phi : Float) : Float :=
  (g.axisRatio * phi.sin).atan2 phi.cos

def through (g : Globe) (beta sinAzimuth cosAzimuth : Float) : Geodesic where
  globe := g
  sinEquator := sinAzimuth * beta.cos
  cosEquator := hypot cosAzimuth (sinAzimuth * beta.sin)
  start := beta.sin.atan2 (cosAzimuth * beta.cos)
  startLongitude := (sinAzimuth * beta.cos * beta.sin).atan2 (cosAzimuth * beta.cos)

def k2 (c : Geodesic) : Float :=
  sq c.cosEquator * c.globe.es / (1.0 - c.globe.es)

def epsilon (c : Geodesic) : Float :=
  let root := (1.0 + c.k2).sqrt
  c.k2 / (2.0 * (1.0 + root) + c.k2)

def series (secular : Float) (coefficients : List Float) (arc : Float) : Float :=
  secular * (arc + sineSeries coefficients arc)

def length (c : Geodesic) (arc : Float) : Float :=
  let e := c.epsilon
  let m := e * e
  series ((1.0 + poly [0.0, 64.0, 4.0, 1.0] m / 256.0) / (1.0 - e)) [
    e * poly [-16.0, 6.0, -1.0] m / 32.0,
    m * poly [-128.0, 64.0, -9.0] m / 2048.0,
    e * m * poly [-16.0, 9.0] m / 768.0,
    m * m * poly [-5.0, 3.0] m / 512.0,
    e * m * m * (-7.0 / 1280.0),
    m * m * m * (-7.0 / 2048.0)] arc

def spread (c : Geodesic) (arc : Float) : Float :=
  let e := c.epsilon
  let m := e * e
  series ((1.0 + poly [0.0, -192.0, -28.0, -11.0] m / 256.0) / (1.0 + e)) [
    e * poly [16.0, 2.0, 1.0] m / 32.0,
    m * poly [384.0, 64.0, 35.0] m / 2048.0,
    e * m * poly [80.0, 15.0] m / 768.0,
    m * m * poly [35.0, 7.0] m / 512.0,
    e * m * m * (63.0 / 1280.0),
    m * m * m * (77.0 / 2048.0)] arc

def lag (c : Geodesic) (arc : Float) : Float :=
  let n := c.globe.n
  let e := c.epsilon
  c.globe.flattening * c.sinEquator *
    series
      (poly [1.0, (n - 1.0) / 2.0, (n * (3.0 * n - 1.0) - 2.0) / 8.0,
        (n * (-n - 3.0) - 1.0) / 16.0, (-2.0 * n - 3.0) / 64.0, -3.0 / 128.0] e) [
      poly [0.0, (1.0 - n) / 4.0, (1.0 - n * n) / 8.0, (n * (3.0 - 5.0 * n) + 3.0) / 64.0,
        (2.0 + 5.0 * n) / 128.0, 3.0 / 128.0] e,
      poly [0.0, 0.0, (n * (n - 3.0) + 2.0) / 32.0, (n * (-3.0 * n - 2.0) + 3.0) / 64.0,
        (n + 3.0) / 128.0, 5.0 / 256.0] e,
      poly [0.0, 0.0, 0.0, (n * (5.0 * n - 9.0) + 5.0) / 192.0, (9.0 - 10.0 * n) / 384.0,
        7.0 / 512.0] e,
      poly [0.0, 0.0, 0.0, 0.0, (7.0 - 14.0 * n) / 512.0, 7.0 / 512.0] e,
      poly [0.0, 0.0, 0.0, 0.0, 0.0, 21.0 / 2560.0] e] arc

def stride (c : Geodesic) (arc : Float) : Float :=
  (1.0 + c.k2 * sq arc.sin).sqrt

def bend (c : Geodesic) (arc : Float) : Float :=
  (c.length arc - c.spread arc) - (c.length c.start - c.spread c.start)

def reducedLength (c : Geodesic) (arc : Float) : Float :=
  c.globe.axisRatio * (c.stride arc * c.start.cos * arc.sin
    - c.stride c.start * c.start.sin * arc.cos - c.start.cos * arc.cos * c.bend arc)

def scale (c : Geodesic) (arc : Float) : Float :=
  c.start.cos * arc.cos +
    (c.stride arc * c.start.sin * arc.sin - c.start.sin * arc.cos * c.bend arc) / c.stride c.start

def sphereLongitude (c : Geodesic) (arc : Float) : Float :=
  (c.sinEquator * arc.sin).atan2 arc.cos

def position (c : Geodesic) (arc : Float) : Point Float :=
  let lam := c.sphereLongitude arc - c.startLongitude - (c.lag arc - c.lag c.start)
  let beta := hypot c.sinEquator (c.cosEquator * arc.cos)
  ⟨lam.sin.atan2 lam.cos, (c.cosEquator * arc.sin).atan2 (c.globe.axisRatio * beta)⟩

/-- A geodesic with an arc on it and the azimuth at the start. -/
structure Reached where
  geodesic : Geodesic
  arc : Float
  sinAzimuth : Float
  cosAzimuth : Float

def greatCircle (g : Globe) (from₁ to₂ omega : Float) : Reached :=
  let east := to₂.cos * omega.sin
  let north := from₁.cos * to₂.sin - from₁.sin * to₂.cos * omega.cos
  let chord := hypot east north
  let arc := chord.atan2 (from₁.sin * to₂.sin + from₁.cos * to₂.cos * omega.cos)
  let s := if chord == 0.0 then 0.0 else east / chord
  let c := if chord == 0.0 then 1.0 else north / chord
  let geodesic := through g from₁ s c
  ⟨geodesic, geodesic.start + arc, s, c⟩

def connect (g : Globe) (from₁ to₂ lam : Float) : (steps : Nat) → (omega : Float) → Option Reached
  | 0, _ => none
  | steps + 1, omega =>
    let reached := greatCircle g from₁ to₂ omega
    let c := reached.geodesic
    let next := lam + (c.lag reached.arc - c.lag c.start)
    if (next - omega).abs ≤ 1.0e-15 then some reached else connect g from₁ to₂ lam steps next

end Geodesic

end GeoRaster.Cartography
