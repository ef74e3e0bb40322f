import GeoRaster.Cartography.Definition
import GeoRaster.Cartography.Globe

/-! The ellipsoids that stand for bodies: those that have a name, and those that a definition
gives by their size and shape. -/
namespace GeoRaster.Cartography

/-- An ellipsoid of revolution: a globe with its equatorial radius in meters. -/
structure Ellipsoid where
  radius : Float
  globe : Globe

namespace Ellipsoid

def sphere (radius : Float) : Ellipsoid :=
  ⟨radius, ⟨0.0⟩⟩

def ofFlattening (radius flattening : Float) : Ellipsoid :=
  ⟨radius, ⟨2.0 * flattening - flattening * flattening⟩⟩

def ofRadii (radius polarRadius : Float) : Ellipsoid :=
  if radius == polarRadius then sphere radius
  else ofFlattening radius ((radius - polarRadius) / radius)

def polarRadius (e : Ellipsoid) : Float :=
  e.radius * e.globe.axisRatio

end Ellipsoid

inductive Shape where
  | inverseFlattening (value : Float)
  | polarRadius (meters : Float)

structure NamedEllipsoid where
  key : String
  radius : Float
  shape : Shape
  name : String

namespace NamedEllipsoid

def ellipsoid (e : NamedEllipsoid) : Ellipsoid :=
  match e.shape with
  | .inverseFlattening value => .ofFlattening e.radius (1.0 / value)
  | .polarRadius meters => .ofRadii e.radius meters

def all : List NamedEllipsoid := [
  ⟨"MERIT", 6378137.0, .inverseFlattening 298.257, "MERIT 1983"⟩,
  ⟨"SGS85", 6378136.0, .inverseFlattening 298.257, "Soviet Geodetic System 85"⟩,
  ⟨"GRS80", 6378137.0, .inverseFlattening 298.257222101, "GRS 1980"⟩,
  ⟨"IAU76", 6378140.0, .inverseFlattening 298.257, "IAU 1976"⟩,
  ⟨"airy", 6377563.396, .inverseFlattening 299.3249646, "Airy 1830"⟩,
  ⟨"APL4.9", 6378137.0, .inverseFlattening 298.25, "Appl. Physics. 1965"⟩,
  ⟨"NWL9D", 6378145.0, .inverseFlattening 298.25, "Naval Weapons Lab., 1965"⟩,
  ⟨"mod_airy", 6377340.189, .polarRadius 6356034.446, "Modified Airy"⟩,
  ⟨"andrae", 6377104.43, .inverseFlattening 300.0, "Andrae 1876 (Den., Iclnd.)"⟩,
  ⟨"danish", 6377019.2563, .inverseFlattening 300.0, "Andrae 1876 (Denmark, Iceland)"⟩,
  ⟨"aust_SA", 6378160.0, .inverseFlattening 298.25, "Australian Natl & S. Amer. 1969"⟩,
  ⟨"GRS67", 6378160.0, .inverseFlattening 298.2471674270, "GRS 67(IUGG 1967)"⟩,
  ⟨"GSK2011", 6378136.5, .inverseFlattening 298.2564151, "GSK-2011"⟩,
  ⟨"bessel", 6377397.155, .inverseFlattening 299.1528128, "Bessel 1841"⟩,
  ⟨"bess_nam", 6377483.865, .inverseFlattening 299.1528128, "Bessel 1841 (Namibia)"⟩,
  ⟨"clrk66", 6378206.4, .polarRadius 6356583.8, "Clarke 1866"⟩,
  ⟨"clrk80", 6378249.145, .inverseFlattening 293.4663, "Clarke 1880 mod."⟩,
  ⟨"clrk80ign", 6378249.2, .inverseFlattening 293.4660212936269, "Clarke 1880 (IGN)."⟩,
  ⟨"CPM", 6375738.7, .inverseFlattening 334.29, "Comm. des Poids et Mesures 1799"⟩,
  ⟨"delmbr", 6376428.0, .inverseFlattening 311.5, "Delambre 1810 (Belgium)"⟩,
  ⟨"engelis", 6378136.05, .inverseFlattening 298.2566, "Engelis 1985"⟩,
  ⟨"evrst30", 6377276.345, .inverseFlattening 300.8017, "Everest 1830"⟩,
  ⟨"evrst48", 6377304.063, .inverseFlattening 300.8017, "Everest 1948"⟩,
  ⟨"evrst56", 6377301.243, .inverseFlattening 300.8017, "Everest 1956"⟩,
  ⟨"evrst69", 6377295.664, .inverseFlattening 300.8017, "Everest 1969"⟩,
  ⟨"evrstSS", 6377298.556, .inverseFlattening 300.8017, "Everest (Sabah & Sarawak)"⟩,
  ⟨"fschr60", 6378166.0, .inverseFlattening 298.3, "Fischer (Mercury Datum) 1960"⟩,
  ⟨"fschr60m", 6378155.0, .inverseFlattening 298.3, "Modified Fischer 1960"⟩,
  ⟨"fschr68", 6378150.0, .inverseFlattening 298.3, "Fischer 1968"⟩,
  ⟨"helmert", 6378200.0, .inverseFlattening 298.3, "Helmert 1906"⟩,
  ⟨"hough", 6378270.0, .inverseFlattening 297.0, "Hough"⟩,
  ⟨"intl", 6378388.0, .inverseFlattening 297.0, "International 1924 (Hayford 1909, 1910)"⟩,
  ⟨"krass", 6378245.0, .inverseFlattening 298.3, "Krassovsky, 1942"⟩,
  ⟨"kaula", 6378163.0, .inverseFlattening 298.24, "Kaula 1961"⟩,
  ⟨"lerch", 6378139.0, .inverseFlattening 298.257, "Lerch 1979"⟩,
  ⟨"mprts", 6397300.0, .inverseFlattening 191.0, "Maupertius 1738"⟩,
  ⟨"new_intl", 6378157.5, .polarRadius 6356772.2, "New International 1967"⟩,
  ⟨"plessis", 6376523.0, .polarRadius 6355863.0, "Plessis 1817 (France)"⟩,
  ⟨"PZ90", 6378136.0, .inverseFlattening 298.25784, "PZ-90"⟩,
  ⟨"SEasia", 6378155.0, .polarRadius 6356773.3205, "Southeast Asia"⟩,
  ⟨"walbeck", 6376896.0, .polarRadius 6355834.8467, "Walbeck"⟩,
  ⟨"WGS60", 6378165.0, .inverseFlattening 298.3, "WGS 60"⟩,
  ⟨"WGS66", 6378145.0, .inverseFlattening 298.25, "WGS 66"⟩,
  ⟨"WGS72", 6378135.0, .inverseFlattening 298.26, "WGS 72"⟩,
  ⟨"WGS84", 6378137.0, .inverseFlattening 298.257223563, "WGS 84"⟩,
  ⟨"sphere", 6370997.0, .polarRadius 6370997.0, "Normal Sphere (r=6370997)"⟩]

def ofKey? (key : String) : Option NamedEllipsoid :=
  all.find? (·.key = key)

end NamedEllipsoid

namespace Ellipsoid

/-- The keys of a shape, those first that take precedence. -/
def shapeKeys : List String :=
  ["rf", "f", "es", "e", "b"]

/-- The first key of a shape that a definition has. -/
def shapeKey? (d : Definition) : Option String :=
  shapeKeys.find? d.has

def checkShape (e : Ellipsoid) : Except String Ellipsoid :=
  if 0.0 ≤ e.globe.es then .ok e else .error "invalid shape"

def shaped (d : Definition) (radius : Float) (key : String) : Except String Ellipsoid :=
  let value := d.number key
  let refused : Except String Ellipsoid := .error "invalid shape"
  match key with
  | "rf" => if value.isInf || value ≤ 1.0 then refused else checkShape (ofFlattening radius (1.0 / value))
  | "f" => if value < 0.0 then refused else checkShape (ofFlattening radius value)
  | "es" => if value < 0.0 || 1.0 ≤ value then refused else checkShape ⟨radius, ⟨value⟩⟩
  | "e" => if value < 0.0 || 1.0 ≤ value then refused else checkShape ⟨radius, ⟨value * value⟩⟩
  | _ => if value ≤ 0.0 then refused else checkShape (ofRadii radius value)

def checkRadius (radius : Float) : Except String Float :=
  if radius ≤ 0.0 || radius.isInf then .error "invalid radius" else .ok radius

/-- The keys that make a sphere out of an ellipsoid, those first that take precedence. -/
def sphereKeys : List String :=
  ["R_A", "R_V", "R_a", "R_g", "R_h", "R_lat_a", "R_lat_g", "R_C"]

/-- The radius at a latitude: the mean of the radii of curvature along and across the meridian,
the arithmetic or the geometric one. -/
def localRadius (e : Ellipsoid) (arithmetic : Bool) (phi : Float) : Except String Float :=
  let s := phi.sin
  let t := 1.0 - e.globe.es * s * s
  if halfPi < phi.abs || t == 0.0 then .error "invalid latitude"
  else if arithmetic then .ok (e.radius * ((1.0 - e.globe.es + t) / (2.0 * t * t.sqrt)))
  else .ok (e.radius * ((1.0 - e.globe.es).sqrt / t))

/-- The radius of the sphere that a key makes out of an ellipsoid: one with the same area or
volume, with the arithmetic, geometric or harmonic mean of the radii, or with a radius of
curvature. -/
def sphereRadius (d : Definition) (e : Ellipsoid) (key : String) : Except String Float :=
  let a := e.radius
  let b := e.polarRadius
  let es := e.globe.es
  match key with
  | "R_A" => .ok (a * (1.0 - es * (1.0 / 6.0 + es * (17.0 / 360.0 + es * (67.0 / 3024.0)))))
  | "R_V" => .ok (a * (1.0 - es * (1.0 / 6.0 + es * (5.0 / 72.0 + es * (55.0 / 1296.0)))))
  | "R_a" => .ok ((a + b) / 2.0)
  | "R_g" => .ok (a * b).sqrt
  | "R_h" => .ok (2.0 * a * b / (a + b))
  | "R_lat_a" => e.localRadius true (d.angle key)
  | "R_lat_g" => e.localRadius false (d.angle key)
  | _ => e.localRadius false (d.angle "lat_0")

def spherified (d : Definition) (e : Ellipsoid) : Except String Ellipsoid :=
  match sphereKeys.find? d.has with
  | none => .ok e
  | some key => do
    let radius ← sphereRadius d e key
    if radius ≤ 0.0 then throw "invalid radius" else return sphere radius

/-- The ellipsoid that a definition gives. A radius by itself makes it a sphere; single values
take precedence over those that go with a name. -/
def ofDefinition (d : Definition) : Except String Ellipsoid := do
  match d.number? "R" with
  | some radius => return sphere (← checkRadius radius)
  | none =>
    let named ← match d.value? "ellps" with
      | none => pure none
      | some key =>
        match NamedEllipsoid.ofKey? key with
        | some e => pure (some e.ellipsoid)
        | none => throw "unknown ellipsoid"
    let radius ← match d.number? "a", named with
      | some radius, _ => checkRadius radius
      | none, some e => pure e.radius
      | none, none => throw "no ellipsoid"
    let globe := (named.map (·.globe)).getD ⟨0.0⟩
    let e ← match shapeKey? d with
      | some key => shaped d radius key
      | none => pure ⟨radius, globe⟩
    spherified d e

end Ellipsoid

end GeoRaster.Cartography
