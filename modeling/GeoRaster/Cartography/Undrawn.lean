import GeoRaster.Cartography.Ellipsoid

/-! Projections that the atlas knows by name but has no map of. A definition of one is checked
like any other; only its coordinates cannot be computed. -/
namespace GeoRaster.Cartography.Undrawn

def undemanding : List String := [
  "adams_hemi", "adams_ws1", "adams_ws2", "aeqd", "airy", "aitoff", "alsk", "apian", "august",
  "bacon", "bertin1953", "bipc", "boggs", "calcofi", "cass", "cc", "collg", "col_urban", "comill",
  "crast", "denoy", "eck1", "eck2", "eck3", "eck4", "eck5", "eck6", "eqearth", "fahey", "fouc",
  "gall", "gins8", "goode", "gs48", "gs50", "gstmerc", "guyou", "hatano", "healpix", "igh", "igh_o",
  "imoll", "imoll_o", "isea", "kav5", "kav7", "krovak", "larr", "lask", "lee_os", "mbt_s",
  "mbt_fps", "mbtfpp", "mbtfpq", "mbtfps", "mil_os", "mill", "mod_krovak", "moll", "natearth",
  "natearth2", "nell", "nell_h", "nicol", "nzmg", "ortel", "patterson", "poly", "putp1", "putp2",
  "putp3", "putp3p", "putp4p", "putp5", "putp5p", "putp6", "putp6p", "qsc", "qua_aut", "rhealpix",
  "robin", "rouss", "rpoly", "s2", "somerc", "tcc", "tcea", "times", "tobmerc", "urm5", "vandg",
  "vandg2", "vandg3", "vandg4", "wag1", "wag2", "wag3", "wag4", "wag5", "wag6", "wag7", "weren",
  "wink1", "wink2", "wintri"]

/-- Conic projections with two standard parallels that must not be opposite. -/
def conics : List String :=
  ["aea", "eqdc"]

def simpleConics : List String :=
  ["euler", "imw_p", "murd1", "murd2", "murd3", "pconic", "tissot", "vitk1"]

def perspectives : List String :=
  ["geos", "nsper", "tpers"]

def areOpposite (phi₁ phi₂ : Float) : Bool :=
  halfPi < phi₁.abs || halfPi < phi₂.abs || (phi₁ + phi₂).abs < 1.0e-10

def accepts (d : Definition) (e : Ellipsoid) (name : String) : Bool :=
  let phi₁ := d.angle "lat_1"
  let phi₂ := d.angle "lat_2"
  if undemanding.contains name then true
  else if conics.contains name then !areOpposite phi₁ phi₂
  else if simpleConics.contains name then
    d.has "lat_1" && d.has "lat_2" && !areOpposite phi₁ phi₂ && !((phi₂ - phi₁).abs < 1.0e-10)
  else if perspectives.contains name then
    let height := d.number "h" / e.radius
    0.0 < height && height ≤ 1.0e10 &&
      (name != "geos" || ["", "x", "y"].contains ((d.value? "sweep").getD ""))
  else
    match name with
    | "leac" =>
      match d.choice? "south" with
      | some south => !areOpposite phi₁ (if south then -halfPi else halfPi)
      | none => false
    | "bonne" => 1.0e-10 ≤ phi₁.abs
    | "lcca" | "labrd" => d.angle "lat_0" != 0.0
    | "cea" => 0.0 ≤ (d.angle "lat_ts").cos
    | "tpeqd" => phi₁ != phi₂ || d.angle "lon_1" != d.angle "lon_2"
    | "loxim" => 1.0e-8 ≤ phi₁.cos
    | "hammer" | "lagrng" => (d.number? "W").all fun w => 0.0 < w.abs
    | "urmfps" => (d.number? "n").any fun n => 0.0 < n && n ≤ 1.0
    | "gn_sinu" => (d.number? "n").any (0.0 < ·) && (d.number? "m").any (0.0 ≤ ·)
    | "fouc_s" => 0.0 ≤ d.number "n" && d.number "n" ≤ 1.0
    | "oea" => 0.0 < d.number "n" && 0.0 < d.number "m"
    | "omerc" => d.has "alpha" || d.has "gamma" || (d.has "lat_1" && d.has "lat_2")
    | "ocea" => d.has "alpha" || (phi₁ != phi₂ || d.angle "lon_1" != d.angle "lon_2")
    | _ => false

end GeoRaster.Cartography.Undrawn
