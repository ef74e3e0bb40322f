import GeoRaster.Cartography.Frame
import GeoRaster.Cartography.LinearUnit
import GeoRaster.Wkt.Number

/-! How a reference system spells a projection out: the name and the parameters it has, in their
order, whether or not they are given. Which parameters those are can depend on the values of some
of them. -/
namespace GeoRaster.Wkt

open Cartography (Definition)

inductive Quantity where
  | angle
  | scale
  | length
deriving DecidableEq, Repr

inductive Source where
  /-- From the entry with the parameter's key. -/
  | own
  /-- A value in its place. -/
  | fixed (value : Float)

structure Term where
  key : String
  quantity : Quantity
  source : Source := .own

structure Method where
  /-- The name of the projection in strings. -/
  name : String
  terms : List Term
  /-- The keys that were looked at in the choice of the parameters. -/
  consulted : List String := []

namespace Method

def angles (keys : List String) : List Term :=
  keys.map fun key => ⟨key, .angle, .own⟩

def scale : List Term :=
  [⟨"k", .scale, .own⟩]

def offsets : List Term :=
  [⟨"x_0", .length, .own⟩, ⟨"y_0", .length, .own⟩]

def height : List Term :=
  [⟨"h", .length, .own⟩]

/-- The keys of a scale, the one first that takes precedence. -/
def scaleKeys : List String :=
  ["k_0", "k"]

def scaleText? (d : Definition) : Option String :=
  (scaleKeys.findSome? d.value?).filter (· ≠ "")

/-- The scale that a definition gives, zero if it gives none. -/
def scaleOf (d : Definition) : Float :=
  ((scaleText? d).bind Number.read?).getD 0.0

def text? (d : Definition) (key : String) : Option String :=
  (d.value? key).filter (· ≠ "")

def angleOf (d : Definition) (key : String) : Float :=
  ((text? d key).bind Number.readAngle?).getD 0.0

def settled : List (String × List Term) :=
  let lon := angles ["lon_0"] ++ offsets
  let center := angles ["lat_0", "lon_0"]
  let parallels := angles ["lat_0", "lon_0", "lat_1", "lat_2"] ++ offsets
  [ ("tmerc", center ++ scale ++ offsets),
    ("sterea", center ++ scale ++ offsets),
    ("somerc", center ++ scale ++ offsets),
    ("gstmerc", center ++ [⟨"k_0", .scale, .own⟩] ++ offsets),
    ("tcea", center ++ scale ++ offsets),
    ("eqc", angles ["lat_ts", "lat_0", "lon_0"] ++ offsets),
    ("cea", angles ["lat_ts", "lon_0"] ++ offsets),
    ("wag3", angles ["lat_ts", "lon_0"] ++ offsets),
    ("wink1", angles ["lon_0", "lat_ts"] ++ offsets),
    ("wink2", angles ["lon_0", "lat_1"] ++ offsets),
    ("wintri", angles ["lon_0", "lat_1"] ++ offsets),
    ("loxim", angles ["lon_0", "lat_1"] ++ offsets),
    ("bonne", angles ["lat_1", "lon_0"] ++ offsets),
    ("imw_p", angles ["lon_0", "lat_1", "lat_2"] ++ offsets),
    ("tpeqd", angles ["lat_1", "lon_1", "lat_2", "lon_2"] ++ offsets),
    ("aea", parallels), ("eqdc", parallels),
    ("laea", center ++ offsets), ("aeqd", center ++ offsets), ("gnom", center ++ offsets),
    ("cass", center ++ offsets), ("poly", center ++ offsets), ("nzmg", center ++ offsets),
    ("nsper", center ++ height ++ offsets),
    ("geos", angles ["lon_0"] ++ height ++ offsets) ] ++
  ["sinu", "moll", "robin", "mill", "vandg", "gall", "goode", "igh", "igh_o", "eqearth", "natearth",
    "natearth2", "patterson", "comill", "aitoff", "crast", "qua_aut", "times", "eck1", "eck2",
    "eck3", "eck4", "eck5", "eck6", "wag1", "wag2", "wag4", "wag5", "wag6", "wag7"].map
      fun name => (name, lon)

/-- The parameters of the Lambert conformal conic projection: with one parallel and an origin on
it or off it, with two parallels, or with two parallels and a scale. -/
def conformalConic (d : Definition) : Method :=
  let consulted := ["lat_0", "lat_1", "lat_2"] ++ scaleKeys
  let coefficient : List Term := [⟨"k_0", .scale, .own⟩]
  let twoParallels := angles ["lat_0", "lon_0", "lat_1", "lat_2"] ++ offsets
  match text? d "lat_2", text? d "lat_0", text? d "lat_1" with
  | none, some origin, some parallel =>
    if origin = parallel || angleOf d "lat_0" == angleOf d "lat_1" then
      ⟨"lcc", angles ["lat_1", "lat_0", "lon_0"] ++ coefficient ++ offsets, consulted⟩
    else ⟨"lcc", angles ["lat_1"] ++ coefficient ++ angles ["lat_0", "lon_0"] ++ offsets, consulted⟩
  | _, _, _ =>
    if (scaleText? d).isSome && scaleOf d != 1.0 then ⟨"lcc", twoParallels ++ coefficient, consulted⟩
    else ⟨"lcc", twoParallels, consulted⟩

/-- The parameters of the stereographic projection. Around a pole it can be true to scale at a
latitude, which then says which pole it is. -/
def stereographic (d : Definition) : Except String Method :=
  let lat₀ := angleOf d "lat_0"
  let plain : Method := ⟨"stere", angles ["lat_0", "lon_0"] ++ scale ++ offsets, []⟩
  if (lat₀.abs - 90.0).abs < 1.0e-10 && d.has "lat_ts" then
    let trueScale := angleOf d "lat_ts"
    if (scaleText? d).isSome && 1.0e-10 < (scaleOf d - 1.0).abs then
      if 1.0e-10 < (trueScale - lat₀).abs then .error "true to scale twice"
      else .ok { plain with consulted := ["lat_ts"] }
    else
      let pole : Term := ⟨"lat_0", .angle, .fixed (if trueScale < 0.0 then -90.0 else 90.0)⟩
      .ok ⟨"stere", pole :: angles ["lat_ts", "lon_0"] ++ offsets, "lat_0" :: scaleKeys⟩
  else .ok plain

def mercator (d : Definition) : Method :=
  if d.has "lat_ts" then ⟨"merc", angles ["lat_ts", "lon_0"] ++ offsets, []⟩
  else ⟨"merc", angles ["lon_0"] ++ scale ++ offsets, []⟩

/-- The parameters of the orthographic projection: more of them if it is scaled or turned. -/
def orthographic (d : Definition) : Method :=
  let isScaled := (scaleText? d).isSome && scaleOf d != 1.0
  let isTurned := ((text? d "alpha").bind Number.read?).any (· != 0.0)
  if isScaled || isTurned then
    ⟨"ortho", angles ["lat_0", "lon_0", "alpha"] ++ scale ++ offsets, []⟩
  else ⟨"ortho", angles ["lat_0", "lon_0"] ++ offsets, "alpha" :: scaleKeys⟩

def obliqueMercator (d : Definition) : Option Method :=
  if d.has "no_rot" then none
  else if ["lat_1", "lon_1", "lat_2", "lon_2"].all d.has then
    some ⟨"omerc", angles ["lat_0", "lat_1", "lon_1", "lat_2", "lon_2"] ++ scale ++ offsets, []⟩
  else
    let gamma : Term := ⟨"gamma", .angle,
      if (text? d "gamma").isSome then .own else .fixed (angleOf d "alpha")⟩
    some ⟨"omerc", angles ["lat_0", "lonc", "alpha"] ++ [gamma] ++ scale ++ offsets,
      ["no_uoff", "no_off"]⟩

/-- The spelling of the projection with a name, if it has one. -/
def ofDefinition? (d : Definition) (name : String) : Except String (Option Method) :=
  match name with
  | "etmerc" => .ok ((settled.lookup "tmerc").map fun terms => ⟨"tmerc", terms, []⟩)
  | "lcc" => .ok (some (conformalConic d))
  | "stere" => (stereographic d).map some
  | "merc" => .ok (some (mercator d))
  | "ortho" => .ok (some (orthographic d))
  | "omerc" => .ok (obliqueMercator d)
  | "aeqd" => .ok ((settled.lookup name).map fun terms => ⟨name, terms, ["guam"]⟩)
  | "cass" => .ok ((settled.lookup name).map fun terms => ⟨name, terms, ["hyperbolic"]⟩)
  | "geos" => .ok ((settled.lookup name).map fun terms => ⟨name, terms, ["sweep"]⟩)
  | _ => .ok ((settled.lookup name).map fun terms => ⟨name, terms, []⟩)

def notices (m : Method) (key : String) : Bool :=
  m.consulted.contains key || m.terms.any fun term =>
    term.key = key || (scaleKeys.contains term.key && scaleKeys.contains key)

end Method

/-- A parameter with its value: an angle in degrees, a scale, or a length in a unit. -/
structure Argument where
  term : Term
  value : Float

namespace Argument

def textOf? (d : Definition) (term : Term) : Option String :=
  if term.quantity = .scale then Method.scaleText? d else Method.text? d term.key

/-- The value that a definition gives a parameter. Scales are one and all else is zero unless
given; lengths are in a unit of some meters. -/
def ofTerm (d : Definition) (unit : Float) (term : Term) : Except String Argument :=
  match term.source with
  | .fixed value => .ok ⟨term, value⟩
  | .own =>
    match textOf? d term with
    | none => .ok ⟨term, if term.quantity = .scale then 1.0 else 0.0⟩
    | some text =>
      let found := match term.quantity with
        | .angle => Number.readAngle? text
        | .scale => Number.read? text
        | .length => (Number.read? text).map fun meters => Number.settled (meters / unit)
      match found with
      | some value => .ok ⟨term, value⟩
      | none => .error "invalid parameter"

/-- The token of a parameter, after its value has been written and read; lengths are in meters
again. -/
def token (unit : Float) (a : Argument) : String :=
  let value := Number.reread a.value
  "+" ++ a.term.key ++ "=" ++
    Number.parameterText (if a.term.quantity = .length then value * unit else value)

end Argument

end GeoRaster.Wkt
