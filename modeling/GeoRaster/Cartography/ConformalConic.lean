import GeoRaster.Cartography.Globe

/-! The Lambert conformal conic projection: a cone through two standard parallels, or touching
one, that keeps angles. -/
namespace GeoRaster.Cartography.ConformalConic

def isPole (phi : Float) : Bool :=
  (phi.abs - halfPi).abs < 1.0e-10

/-- A cone by its constant, which is the share of the turn that the map takes, and the
distances from its tip. -/
structure Cone where
  globe : Globe
  /-- The share of the turn, negative for a tip in the south. -/
  share : Float
  /-- The distance of the equator. -/
  equator : Float

/-- The distance of a parallel from the tip; the pole opposite the tip is infinitely far. -/
def Cone.distance (c : Cone) (phi : Float) : Option Float :=
  if isPole phi then (if phi * c.share ≤ 0.0 then none else some 0.0)
  else some (c.equator * (c.globe.conformalTangent phi).pow c.share)

def Cone.latitude (c : Cone) (distance : Float) : Option Float :=
  c.globe.latitudeOfTangent ((distance / c.equator).pow (1.0 / c.share))

/-- The cone through two standard parallels. They may coincide, but the equator must not lie
midway between them. -/
def cone (g : Globe) (phi₁ phi₂ : Float) : Option Cone :=
  let legal (phi : Float) : Bool := 1.0e-10 ≤ phi.cos.abs && phi.abs < halfPi
  if (phi₁ + phi₂).abs < 1.0e-10 || !legal phi₁ || !legal phi₂ then none
  else
    let r := g.parallelRadius phi₁
    let t := g.conformalTangent phi₁
    let share :=
      if (phi₁ - phi₂).abs < 1.0e-10 then phi₁.sin
      else (r / g.parallelRadius phi₂).log / (t / g.conformalTangent phi₂).log
    if share == 0.0 || share.isNaN then none
    else some ⟨g, share, r * t.pow (-share) / share⟩

def map (g : Globe) (k phi₀ phi₁ phi₂ : Float) : Option GlobeMap :=
  (cone g phi₁ phi₂).map fun c =>
    let origin := if isPole phi₀ then 0.0 else (c.distance phi₀).getD 0.0
    { forward := fun p => (c.distance p.y).map fun rho =>
        let angle := c.share * p.x
        ⟨k * rho * angle.sin, k * (origin - rho * angle.cos)⟩
      inverse := fun p =>
        let x := p.x / k
        let y := origin - p.y / k
        let radius := hypot x y
        if radius == 0.0 then some ⟨0.0, if 0.0 < c.share then halfPi else -halfPi⟩
        else
          let side := if c.share < 0.0 then -1.0 else 1.0
          (c.latitude (side * radius)).map fun phi =>
            ⟨(side * x).atan2 (side * y) / c.share, phi⟩ }

end GeoRaster.Cartography.ConformalConic
