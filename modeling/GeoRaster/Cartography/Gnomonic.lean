import GeoRaster.Cartography.Geodesic

/-! The gnomonic projection: geodesics through the center are drawn straight, and as far out
as the reduced length goes with the scale. Only positions on the near side are mapped. -/
namespace GeoRaster.Cartography.Gnomonic

/-- One step of Newton's method for the arc that is drawn at a distance, or at the inverse of
it if that is small, repeated until it is small. -/
def refine (c : Geodesic) (near : Bool) (target : Float) :
    (steps : Nat) → (arc : Float) → Option Float
  | 0, _ => none
  | steps + 1, arc =>
    let m := c.reducedLength arc
    let s := c.scale arc
    let excess := if near then (m - target * s) * s else (target * m - s) * m
    let next := arc - excess / (c.globe.axisRatio * c.stride arc)
    if excess.abs < 1.4901161193847656e-10 then some next else refine c near target steps next

def map (g : Globe) (phi₀ : Float) : GlobeMap :=
  let center := Geodesic.reducedLatitude g phi₀
  { forward := fun p => do
      let reached ← Geodesic.connect g center (Geodesic.reducedLatitude g p.y) p.x 100 p.x
      let m := reached.geodesic.reducedLength reached.arc
      let s := reached.geodesic.scale reached.arc
      if s ≤ (if g.isSphere then 1.0e-10 else 0.0) then none
      else some ⟨m / s * reached.sinAzimuth, m / s * reached.cosAzimuth⟩
    inverse := fun p => do
      let radius := hypot p.x p.y
      let c := if radius == 0.0 then Geodesic.through g center 0.0 1.0
        else Geodesic.through g center (p.x / radius) (p.y / radius)
      let near := radius ≤ 1.0
      let target := if near then radius else 1.0 / radius
      let arc ← refine c near target 10 (c.start + radius.atan)
      some (c.position arc) }

end GeoRaster.Cartography.Gnomonic
