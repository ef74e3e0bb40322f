import GeoRaster.Cartography.Globe

/-! The transverse Mercator projection. On an ellipsoid the latitude goes to the conformal
sphere, the sphere is mapped with the central meridian as its equator, and a series in the
third flattening restores distances along the meridian. All series have six terms. -/
namespace GeoRaster.Cartography.TransverseMercator

def toConformal (n : Float) : List Float :=
  let m := n * n
  [ n * poly [-2.0, 2.0 / 3.0, 4.0 / 3.0, -82.0 / 45.0, 32.0 / 45.0, 4642.0 / 4725.0] n,
    m * poly [5.0 / 3.0, -16.0 / 15.0, -13.0 / 9.0, 904.0 / 315.0, -1522.0 / 945.0] n,
    n * m * poly [-26.0 / 15.0, 34.0 / 21.0, 8.0 / 5.0, -12686.0 / 2835.0] n,
    m * m * poly [1237.0 / 630.0, -12.0 / 5.0, -24832.0 / 14175.0] n,
    n * m * m * poly [-734.0 / 315.0, 109598.0 / 31185.0] n,
    m * m * m * (444337.0 / 155925.0) ]

def ofConformal (n : Float) : List Float :=
  let m := n * n
  [ n * poly [2.0, -2.0 / 3.0, -2.0, 116.0 / 45.0, 26.0 / 45.0, -2854.0 / 675.0] n,
    m * poly [7.0 / 3.0, -8.0 / 5.0, -227.0 / 45.0, 2704.0 / 315.0, 2323.0 / 945.0] n,
    n * m * poly [56.0 / 15.0, -136.0 / 35.0, -1262.0 / 105.0, 73814.0 / 2835.0] n,
    m * m * poly [4279.0 / 630.0, -332.0 / 35.0, -399572.0 / 14175.0] n,
    n * m * m * poly [4174.0 / 315.0, -144838.0 / 6237.0] n,
    m * m * m * (601676.0 / 22275.0) ]

def toPlane (n : Float) : List Float :=
  let m := n * n
  [ n * poly [1.0 / 2.0, -2.0 / 3.0, 5.0 / 16.0, 41.0 / 180.0, -127.0 / 288.0,
      7891.0 / 37800.0] n,
    m * poly [13.0 / 48.0, -3.0 / 5.0, 557.0 / 1440.0, 281.0 / 630.0, -1983433.0 / 1935360.0] n,
    n * m * poly [61.0 / 240.0, -103.0 / 140.0, 15061.0 / 26880.0, 167603.0 / 181440.0] n,
    m * m * poly [49561.0 / 161280.0, -179.0 / 168.0, 6601661.0 / 7257600.0] n,
    n * m * m * poly [34729.0 / 80640.0, -3418889.0 / 1995840.0] n,
    m * m * m * (212378941.0 / 319334400.0) ]

def ofPlane (n : Float) : List Float :=
  let m := n * n
  [ n * poly [-1.0 / 2.0, 2.0 / 3.0, -37.0 / 96.0, 1.0 / 360.0, 81.0 / 512.0,
      -96199.0 / 604800.0] n,
    m * poly [-1.0 / 48.0, -1.0 / 15.0, 437.0 / 1440.0, -46.0 / 105.0, 1118711.0 / 3870720.0] n,
    n * m * poly [-17.0 / 480.0, 37.0 / 840.0, 209.0 / 4480.0, -5569.0 / 90720.0] n,
    m * m * poly [-4397.0 / 161280.0, 11.0 / 504.0, 830251.0 / 7257600.0] n,
    n * m * m * poly [-4583.0 / 161280.0, 108847.0 / 3991680.0] n,
    m * m * m * (-20648693.0 / 638668800.0) ]

def complexSeries (coefficients : List Float) (re im : Float) : Float × Float :=
  (coefficients.zipIdx 1).foldl (fun (x, y) (c, k) =>
    let j := 2.0 * k.toFloat
    (x + c * (j * re).sin * (j * im).cosh, y + c * (j * re).cos * (j * im).sinh)) (0.0, 0.0)

def reach : Float :=
  2.623395162778

/-- The projection of an ellipsoid with a scale on the central meridian, its origin at a
latitude. -/
def ellipsoidal (g : Globe) (k phi₀ : Float) : GlobeMap :=
  let n := g.n
  let radius := k * g.rectifyingRadius
  let conformal (phi : Float) := phi + sineSeries (toConformal n) phi
  let origin := conformal phi₀
  let zero := radius * (origin + sineSeries (toPlane n) origin)
  { forward := fun p =>
      let chi := conformal p.y
      let across := chi.cos * p.x.cos
      let north := chi.sin.atan2 across
      let east := (p.x.sin * chi.cos / hypot chi.sin across).asinh
      let (dn, de) := complexSeries (toPlane n) north east
      if (east + de).abs ≤ reach then some ⟨radius * (east + de), radius * (north + dn) - zero⟩
      else none
    inverse := fun p =>
      let north := (p.y + zero) / radius
      let east := p.x / radius
      if east.abs ≤ reach then
        let (dn, de) := complexSeries (ofPlane n) north east
        let north := north + dn
        let sinhEast := (east + de).sinh
        let lam := sinhEast.atan2 north.cos
        let chi := north.sin.atan2 (hypot sinhEast north.cos)
        some ⟨lam, chi + sineSeries (ofConformal n) chi⟩
      else none }

/-- The projection of a sphere with a scale on the central meridian, its origin at a
latitude. -/
def spherical (k phi₀ : Float) : GlobeMap where
  forward p :=
    let cosPhi := p.y.cos
    let b := cosPhi * p.x.sin
    if (b.abs - 1.0).abs ≤ 1.0e-10 then none
    else
      let x := 0.5 * k * ((1.0 + b) / (1.0 - b)).log
      let c := cosPhi * p.x.cos / (1.0 - b * b).sqrt
      let north? : Option Float :=
        if cosPhi == 1.0 && (p.x < -halfPi || halfPi < p.x) then some pi
        else if 1.0 ≤ c.abs then (if 1.0e-10 < c.abs - 1.0 then none else some 0.0)
        else some c.acos
      north?.map fun north => ⟨x, k * ((if p.y < 0.0 then -north else north) - phi₀)⟩
  inverse p :=
    let h := (p.x / k).exp
    if h == 0.0 then none
    else
      let g := 0.5 * (h - 1.0 / h)
      let d := phi₀ + p.y / k
      let c := d.cos
      let phi := ((1.0 - c * c) / (1.0 + g * g)).sqrt.asin
      let lam := if g != 0.0 || c != 0.0 then g.atan2 c else 0.0
      some ⟨lam, if d < 0.0 then -phi else phi⟩

def map (g : Globe) (k phi₀ : Float) : GlobeMap :=
  if g.isSphere then spherical k phi₀ else ellipsoidal g k phi₀

end GeoRaster.Cartography.TransverseMercator
