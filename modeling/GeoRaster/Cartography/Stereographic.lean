import GeoRaster.Cartography.Center

/-! The stereographic projection, which keeps angles: the conformal sphere seen from the point
opposite the center. -/
namespace GeoRaster.Cartography

namespace Globe

def conformalLatitude (g : Globe) (phi : Float) : Float :=
  halfPi - 2.0 * (g.conformalTangent phi).atan

def iterateLatitude (g : Globe) (t : Float) : (steps : Nat) → (phi : Float) → Option Float
  | 0, _ => none
  | steps + 1, phi =>
    let s := g.e * phi.sin
    let next := halfPi - 2.0 * (t * ((1.0 - s) / (1.0 + s)).pow (0.5 * g.e)).atan
    if (phi - next).abs < 1.0e-10 then some next else g.iterateLatitude t steps next

def latitudeAtConformal (g : Globe) (chi : Float) : Option Float :=
  g.iterateLatitude (quarterPi - 0.5 * chi).tan 8 chi

end Globe

namespace Stereographic

/-- How far out the equator is drawn around a pole, with a scale at the pole or true to scale
at a latitude. -/
def polarRadius (g : Globe) (k : Float) (trueScale : Option Float) : Float :=
  let phi := (trueScale.getD halfPi).abs
  if (phi - halfPi).abs < 1.0e-10 then
    2.0 * k / ((1.0 + g.e).pow (1.0 + g.e) * (1.0 - g.e).pow (1.0 - g.e)).sqrt
  else g.parallelRadius phi / g.conformalTangent phi

/-- The projection around a pole; `side` is 1 for the north and -1 for the south. -/
def polar (g : Globe) (side radius : Float) : GlobeMap where
  forward p :=
    let phi := side * p.y
    if g.isSphere && (phi + halfPi).abs < 1.0e-8 then none
    else
      let rho := if (phi - halfPi).abs < 1.0e-15 then 0.0 else radius * g.conformalTangent phi
      some ⟨rho * p.x.sin, -side * rho * p.x.cos⟩
  inverse p :=
    let t := hypot p.x p.y / radius
    (g.iterateLatitude t 8 (halfPi - 2.0 * t.atan)).map fun phi =>
      ⟨p.x.atan2 (-side * p.y), side * phi⟩

def oblique (g : Globe) (k phi₀ : Float) : GlobeMap :=
  let center := Center.ofLatitude (g.conformalLatitude phi₀)
  let radius := 2.0 * k * g.parallelRadius phi₀ / center.cos
  { forward := fun p =>
      let p : Point Float := ⟨p.x, g.conformalLatitude p.y⟩
      let depth := 1.0 + center.cosine p
      if (if g.isSphere then depth ≤ 1.0e-10 else depth == 0.0) then none
      else
        let seen := center.seen p
        some ⟨radius / depth * seen.x, radius / depth * seen.y⟩
    inverse := fun p =>
      let distance := 2.0 * (hypot p.x p.y).atan2 radius
      let q := center.locate distance.sin distance.cos p
      (g.latitudeAtConformal q.y).map fun phi => ⟨q.x, phi⟩ }

def map (g : Globe) (k phi₀ : Float) (trueScale : Option Float) : GlobeMap :=
  match Aspect.ofLatitude phi₀ with
  | .northPole => polar g 1.0 (polarRadius g k trueScale)
  | .southPole => polar g (-1.0) (polarRadius g k trueScale)
  | .equator | .oblique => oblique g k phi₀

end Stereographic

end GeoRaster.Cartography
