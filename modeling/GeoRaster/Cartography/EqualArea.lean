import GeoRaster.Cartography.Center

/-! The Lambert azimuthal equal-area projection. Areas are kept by going through the sphere on
which latitudes are the authalic ones. -/
namespace GeoRaster.Cartography.EqualArea

def authalicLatitude (g : Globe) (phi : Float) : Float :=
  (clampSine (g.zone phi.sin / g.zone 1.0)).asin

/-- The projection around a pole; `side` is 1 for the north and -1 for the south. -/
def polar (g : Globe) (side : Float) : GlobeMap where
  forward p :=
    let phi := side * p.y
    if (phi + halfPi).abs < 1.0e-10 then none
    else
      let area := g.zone 1.0 - g.zone phi.sin
      let radius := if 1.0e-15 ≤ area then area.sqrt else 0.0
      some ⟨radius * p.x.sin, -side * radius * p.x.cos⟩
  inverse p :=
    let sine := 1.0 - (p.x * p.x + p.y * p.y) / g.zone 1.0
    if 1.0 < sine.abs then none
    else some ⟨p.x.atan2 (-side * p.y), side * g.latitudeOfAuthalic sine.asin⟩

/-- The projection around a center that is no pole. Near the center the ellipsoid's parallels
and meridians are not as long as those of the sphere; the ratio evens this out. -/
def oblique (g : Globe) (phi₀ : Float) : GlobeMap :=
  let center := Center.ofLatitude (authalicLatitude g phi₀)
  let radius := (0.5 * g.zone 1.0).sqrt
  let ratio := g.parallelRadius phi₀ / (radius * center.cos)
  { forward := fun p =>
      let p : Point Float := ⟨p.x, authalicLatitude g p.y⟩
      let depth := 1.0 + center.cosine p
      if depth.abs < 1.0e-10 then none
      else
        let scale := radius * (2.0 / depth).sqrt
        let seen := center.seen p
        some ⟨ratio * scale * seen.x, scale * seen.y / ratio⟩
    inverse := fun p =>
      let q : Point Float := ⟨p.x / ratio, p.y * ratio⟩
      let chord := hypot q.x q.y
      if chord < 1.0e-10 then some ⟨0.0, phi₀⟩
      else
        let sine := 0.5 * chord / radius
        if 1.0 < sine then none
        else
          let distance := 2.0 * sine.asin
          let q := center.locate distance.sin distance.cos q
          some ⟨q.x, g.latitudeOfAuthalic q.y⟩ }

def map (g : Globe) (phi₀ : Float) : GlobeMap :=
  match Aspect.ofLatitude phi₀ with
  | .northPole => polar g 1.0
  | .southPole => polar g (-1.0)
  | .equator | .oblique => oblique g phi₀

end GeoRaster.Cartography.EqualArea
