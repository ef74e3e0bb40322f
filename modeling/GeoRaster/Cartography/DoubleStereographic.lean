import GeoRaster.Cartography.Center

/-! The double stereographic projection: first the globe goes to the sphere that osculates it
at the center, keeping angles, and then this sphere goes to the plane by the stereographic
projection. On that sphere longitudes are stretched by a constant factor. -/
namespace GeoRaster.Cartography.DoubleStereographic

/-- The conformal map to the osculating sphere at a latitude. -/
structure Sphere where
  globe : Globe
  /-- The factor of longitudes. -/
  stretch : Float
  /-- The factor that takes the center to the center. -/
  factor : Float
  /-- The latitude of the center on the sphere. -/
  center : Float
  /-- The radius of the sphere. -/
  radius : Float

def displacement (s exponent : Float) : Float :=
  ((1.0 - s) / (1.0 + s)).pow exponent

def Sphere.osculating (g : Globe) (phi₀ : Float) : Sphere :=
  let s := phi₀.sin
  let stretch := (1.0 + g.es * sq (sq phi₀.cos) / (1.0 - g.es)).sqrt
  let chi := (s / stretch).asin
  let moved := displacement (g.e * s) (0.5 * stretch * g.e)
  { globe := g
    stretch
    factor :=
      if 0.5 * phi₀ + quarterPi < 1.0e-10 then 1.0 / moved
      else (0.5 * chi + quarterPi).tan / ((0.5 * phi₀ + quarterPi).tan.pow stretch * moved)
    center := chi
    radius := g.axisRatio / (1.0 - g.es * s * s) }

def Sphere.forward (c : Sphere) (p : Point Float) : Point Float :=
  let moved := displacement (c.globe.e * p.y.sin) (0.5 * c.stretch * c.globe.e)
  ⟨c.stretch * p.x,
    2.0 * (c.factor * (0.5 * p.y + quarterPi).tan.pow c.stretch * moved).atan - halfPi⟩

def iterateLatitude (g : Globe) (t : Float) : (steps : Nat) → (phi : Float) → Option Float
  | 0, _ => none
  | steps + 1, phi =>
    let next := 2.0 * (t * displacement (g.e * phi.sin) (-0.5 * g.e)).atan - halfPi
    if (next - phi).abs < 1.0e-14 then some next else iterateLatitude g t steps next

def Sphere.inverse (c : Sphere) (p : Point Float) : Option (Point Float) :=
  let t := ((0.5 * p.y + quarterPi).tan / c.factor).pow (1.0 / c.stretch)
  (iterateLatitude c.globe t 20 p.y).map fun phi => ⟨p.x / c.stretch, phi⟩

def map (g : Globe) (k phi₀ : Float) : GlobeMap :=
  let sphere := Sphere.osculating g phi₀
  let center := Center.ofLatitude sphere.center
  let radius := 2.0 * k * sphere.radius
  { forward := fun p =>
      let p := sphere.forward p
      let depth := 1.0 + center.cosine p
      if depth == 0.0 then none
      else
        let seen := center.seen p
        some ⟨radius / depth * seen.x, radius / depth * seen.y⟩
    inverse := fun p =>
      let distance := 2.0 * (hypot p.x p.y).atan2 radius
      sphere.inverse (center.locate distance.sin distance.cos p) }

end GeoRaster.Cartography.DoubleStereographic
