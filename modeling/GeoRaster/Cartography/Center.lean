import GeoRaster.Cartography.Globe

/-! The center of an azimuthal map on a sphere. Positions are longitudes, counted from the
center's meridian, and latitudes. Every azimuthal map of the sphere keeps the direction from
the center; they differ in how far out a given angular distance is drawn. -/
namespace GeoRaster.Cartography

/-- A center by the sine and the cosine of its latitude. -/
structure Center where
  sin : Float
  cos : Float

namespace Center

def ofLatitude (phi : Float) : Center :=
  ⟨phi.sin, phi.cos⟩

def cosine (c : Center) (p : Point Float) : Float :=
  c.sin * p.y.sin + c.cos * p.y.cos * p.x.cos

def seen (c : Center) (p : Point Float) : Point Float :=
  ⟨p.y.cos * p.x.sin, c.cos * p.y.sin - c.sin * p.y.cos * p.x.cos⟩

def locate (c : Center) (sinDistance cosDistance : Float) (direction : Point Float) :
    Point Float :=
  let radius := hypot direction.x direction.y
  let east := if radius == 0.0 then 0.0 else sinDistance * direction.x / radius
  let north := if radius == 0.0 then 0.0 else sinDistance * direction.y / radius
  let inward := c.cos * cosDistance - c.sin * north
  ⟨east.atan2 inward, (c.sin * cosDistance + c.cos * north).atan2 (hypot east inward)⟩

end Center

end GeoRaster.Cartography
