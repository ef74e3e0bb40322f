import GeoRaster.Projection.Provider
import GeoRaster.Projection.Tokens

/-! A provider whose projections need the field operations and comparisons only, so that they
are exact in exact arithmetic. Longitudes and latitudes are scaled, and meridians are
parabolas: a longitude is shifted in proportion to the square of the latitude. The domain can be
cut to longitudes near the central one; the image can be cut to a disk, and a square hole can
be left in it. Any projection name is taken. -/
namespace GeoRaster.Projection

open Scalar (ofInt radians degrees)

structure Parabolic (α : Type) where
  /-- The scale. -/
  k : α
  /-- How strongly meridians are bent. -/
  q : α
  centralLongitude : α
  falseEasting : α
  falseNorthing : α
  /-- The greatest distance from the central longitude, in degrees. -/
  maxDistance : Option α
  /-- The radius of the image. -/
  disk : Option α
  /-- Half the side of the square that is left out of the image. -/
  hole : Option α
  /-- Whether longitudes are left unwrapped. -/
  unwrapped : Bool

namespace Parabolic

variable {α : Type} [Scalar α]

/-- The parameter of a key: absent, a number, or a refusal of the string. -/
def parameter? (configuration key : String) : Except Fault (Option α) :=
  match findValue configuration key with
  | none => .ok none
  | some _ =>
    match extractValue configuration key with
    | some value => .ok (some value)
    | none => .error (.rejected ("rejected: " ++ configuration))

/-- Reads the parameters. A value that is no number, the token `+fail` and a zero scale are
refused. -/
def ofString (configuration : String) : Except Fault (Parabolic α) := do
  let k ← parameter? configuration "k"
  let q ← parameter? configuration "q"
  let lon₀ ← parameter? configuration "lon_0"
  let x₀ ← parameter? configuration "x_0"
  let y₀ ← parameter? configuration "y_0"
  let maxDistance ← parameter? configuration "maxlon"
  let disk ← parameter? configuration "disk"
  let hole ← parameter? configuration "hole"
  let k := k.getD (ofInt 1)
  if hasToken configuration "+fail" || k == ofInt 0 then
    throw (.rejected ("rejected: " ++ configuration))
  return {
    k
    q := q.getD (ofInt 0)
    centralLongitude := lon₀.getD (ofInt 0)
    falseEasting := x₀.getD (ofInt 0)
    falseNorthing := y₀.getD (ofInt 0)
    maxDistance, disk, hole
    unwrapped := hasToken configuration overToken }

def forward (c : Parabolic α) (lonLat : Point α) : Evaluation α :=
  let lat := degrees lonLat.y
  let d := degrees lonLat.x - c.centralLongitude
  if c.maxDistance.any fun m => m < Scalar.abs d then .error "fake: hidden"
  else .ok ⟨d * c.k + c.q * lat * lat + c.falseEasting, lat * c.k + c.falseNorthing⟩

def wrapOnce (lon : α) : α :=
  let east := if ofInt 180 < lon then lon - ofInt 360 else lon
  if east < ofInt (-180) then east + ofInt 360 else east

def inverse (c : Parabolic α) (p : Point α) : Evaluation α :=
  if c.disk.any fun r => r * r < p.x * p.x + p.y * p.y then .error "fake: outside disk"
  else if c.hole.any fun h => Scalar.abs p.x < h && Scalar.abs p.y < h then
    .error "fake: inside hole"
  else
    let lat := (p.y - c.falseNorthing) / c.k
    let lon := (p.x - c.falseEasting - c.q * lat * lat) / c.k + c.centralLongitude
    .ok ⟨radians (if c.unwrapped then lon else wrapOnce lon), radians lat⟩

def provider : Provider α where
  configure configuration := Logged.ofExcept ((ofString configuration).map fun c =>
    ⟨configuration, c.forward, c.inverse⟩)

end Parabolic

end GeoRaster.Projection
