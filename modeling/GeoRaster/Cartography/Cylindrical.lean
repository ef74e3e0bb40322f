import GeoRaster.Cartography.Globe

/-! Maps on which the central meridian and the parallels are straight: the equirectangular, the
Mercator and the sinusoidal projection. -/
namespace GeoRaster.Cartography

/-- The equirectangular projection: longitudes scaled by the parallel of true scale, latitudes
as they are. It treats every globe as a sphere. -/
def equirectangular (centralLatitude trueScale : Float) : Option GlobeMap :=
  let radius := trueScale.cos
  if 0.0 < radius then
    some {
      forward := fun p => some ⟨radius * p.x, p.y - centralLatitude⟩
      inverse := fun p => some ⟨p.x / radius, p.y + centralLatitude⟩ }
  else none

def mercatorScaled (g : Globe) (k : Float) : GlobeMap where
  forward p :=
    let y := p.y.tan.asinh - g.e * (g.e * p.y.sin).atanh
    some ⟨k * p.x, k * y⟩
  inverse p :=
    let t := (p.y / k).sinh
    let phi := if g.isSphere then some t.atan else g.latitudeOfConformal t
    phi.map fun phi => ⟨p.x / k, phi⟩

def mercator (g : Globe) (k : Float) (trueScale : Option Float) : Option GlobeMap :=
  match trueScale with
  | none => some (mercatorScaled g k)
  | some phi => if halfPi ≤ phi.abs then none else some (mercatorScaled g (g.parallelRadius phi.abs))

def sinusoidal (g : Globe) : GlobeMap where
  forward p := some ⟨p.x * g.parallelRadius p.y, g.meridianDistance p.y⟩
  inverse p :=
    let phi := g.latitudeOfDistance p.y
    if g.isSphere || phi.abs < halfPi then some ⟨p.x / g.parallelRadius phi, phi⟩
    else if phi.abs - 1.0e-10 < halfPi then some ⟨0.0, phi⟩
    else none

end GeoRaster.Cartography
