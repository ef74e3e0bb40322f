import GeoRaster.Cartography.Center

/-! The orthographic projection: the globe seen from infinitely far above the center. Only
positions on the near side are mapped. -/
namespace GeoRaster.Cartography.Orthographic

/-- How far rounding may take a point beyond the limb. -/
def slack : Float :=
  1.0e-10

def inverseOnSphere (phi₀ : Float) (p : Point Float) : Option (Point Float) :=
  let radius := hypot p.x p.y
  if 1.0 + slack < radius then none
  else if radius ≤ slack then some ⟨0.0, phi₀⟩
  else
    let sine := clampSine radius
    some ((Center.ofLatitude phi₀).locate sine (1.0 - sine * sine).sqrt p)

def project (g : Globe) (phi₀ : Float) (p : Point Float) : Point Float :=
  let center := Center.ofLatitude phi₀
  let seen := center.seen p
  let sine := p.y.sin
  let radius := g.crossRadius sine
  ⟨radius * seen.x,
    radius * seen.y + g.es * (g.crossRadius center.sin * center.sin - radius * sine) * center.cos⟩

def acrossPole (p : Point Float) : Point Float :=
  if halfPi < p.y then ⟨p.x + pi, pi - p.y⟩
  else if p.y < -halfPi then ⟨p.x + pi, -pi - p.y⟩
  else p

def refine (g : Globe) (phi₀ : Float) (target : Point Float) :
    (steps : Nat) → (guess : Point Float) → Option (Point Float)
  | 0, _ => none
  | steps + 1, guess =>
    let center := Center.ofLatitude phi₀
    let reached := project g phi₀ guess
    let s := guess.y.sin
    let c := guess.y.cos
    let across := g.crossRadius s
    let along := (1.0 - g.es) * across / (1.0 - g.es * s * s)
    let xPhi := -along * s * guess.x.sin
    let xLam := across * c * guess.x.cos
    let yPhi := along * (c * center.cos + s * center.sin * guess.x.cos)
    let yLam := across * center.sin * c * guess.x.sin
    let det := xPhi * yLam - xLam * yPhi
    let dx := target.x - reached.x
    let dy := target.y - reached.y
    let dPhi := (yLam * dx - xLam * dy) / det
    let dLam := (xPhi * dy - yPhi * dx) / det
    let next := acrossPole ⟨guess.x + dLam, guess.y + dPhi⟩
    if dPhi.abs < 1.0e-12 && dLam.abs < 1.0e-12 then some next
    else refine g phi₀ target steps next

/-- The position of a point around a pole; `side` is 1 for the north and -1 for the south. -/
def inverseAtPole (g : Globe) (side : Float) (p : Point Float) : Option (Point Float) :=
  let r := p.x * p.x + p.y * p.y
  let lam := p.x.atan2 (-side * p.y)
  if 1.0 - 1.0e-15 ≤ r then (if slack < r - 1.0 then none else some ⟨lam, 0.0⟩)
  else some ⟨lam, side * (r * (1.0 - g.es) / (1.0 - g.es * r)).sqrt.acos⟩

def inverseAtEquator (g : Globe) (p : Point Float) : Option (Point Float) :=
  if 1.0 + 1.0e-11 < sq p.x + sq (p.y / g.axisRatio) then none
  else
    let sine := if p.y == 0.0 then 0.0 else 1.0 / (sq ((1.0 - g.es) / p.y) + g.es)
    if 1.0 - 1.0e-11 < sine then some ⟨0.0, if 0.0 < p.y then halfPi else -halfPi⟩
    else
      let phi := sine.sqrt.asin
      let lam := clampSine (p.x * ((1.0 - g.es * sine) / (1.0 - sine)).sqrt)
      some ⟨lam.asin, if 0.0 < p.y then phi else -phi⟩

/-- The position of a point around any other center. The image of the near side is a disk
that is shifted and flattened; stretching it to the sphere's gives the first guess. -/
def inverseOblique (g : Globe) (phi₀ : Float) (p : Point Float) : Option (Point Float) :=
  let center := Center.ofLatitude phi₀
  let shift := g.es * g.crossRadius center.sin * center.sin * center.cos
  let stretch := (1.0 - g.es * center.cos * center.cos).sqrt
  let stretched : Point Float := ⟨p.x, (p.y - shift) * stretch⟩
  if 1.0 + 1.0e-11 < sq stretched.x + sq stretched.y then none
  else (inverseOnSphere phi₀ stretched).bind fun guess => refine g phi₀ p 20 guess

def plain (g : Globe) (phi₀ : Float) : GlobeMap where
  forward p :=
    if (Center.ofLatitude phi₀).cosine p < -slack then none
    else some (project g phi₀ p)
  inverse p :=
    if g.isSphere then inverseOnSphere phi₀ p
    else
      match Aspect.ofLatitude phi₀ with
      | .northPole => inverseAtPole g 1.0 p
      | .southPole => inverseAtPole g (-1.0) p
      | .equator => inverseAtEquator g p
      | .oblique => inverseOblique g phi₀ p

def map (g : Globe) (k phi₀ turn : Float) : GlobeMap :=
  let c := turn.cos
  let s := turn.sin
  let unturned := plain g phi₀
  { forward := fun p => (unturned.forward p).map fun q =>
      ⟨(q.x * c - q.y * s) * k, (q.x * s + q.y * c) * k⟩
    inverse := fun p => unturned.inverse ⟨(c * p.x + s * p.y) / k, (c * p.y - s * p.x) / k⟩ }

end GeoRaster.Cartography.Orthographic
