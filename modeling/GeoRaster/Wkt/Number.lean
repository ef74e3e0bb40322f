import GeoRaster.Cartography.Angle
import GeoRaster.Decimal.Significant

/-! Numbers in well-known texts and in the strings that go with them. They are written with
fifteen significant digits, fewer where the last ones are all nines, so that a number passes
through a text with those digits only. -/
namespace GeoRaster.Wkt.Number

/-- The value of digits with points among them, each digit after the first point counting for a
tenth of the one before, if there are no other characters. -/
def pointedValue? : (value scale : Nat) → (afterPoint : Bool) → List Char → Option (Nat × Nat)
  | value, scale, _, [] => some (value, scale)
  | value, scale, afterPoint, c :: s =>
    if c.isDigit then
      pointedValue? (10 * value + (c.toNat - 48)) (if afterPoint then 10 * scale else scale)
        afterPoint s
    else if c = '.' then pointedValue? value scale true s
    else none

def readShort? (s : List Char) : Option Float :=
  let (negative, t) := Decimal.splitSign s
  if s.isEmpty || 15 ≤ s.length then none
  else
    (pointedValue? 0 1 false t).map fun (value, scale) =>
      let x := Decimal.nearest value scale
      if negative then -x else x

def readLong? (s : List Char) : Option Float :=
  let (negative, t) := Decimal.splitSign s
  match Decimal.Leading.decimal? t with
  | some ⟨x, []⟩ => if x.isInf then none else some (if negative then -x else x)
  | _ => none

def read? (text : String) : Option Float :=
  (readShort? text.toList).or (readLong? text.toList)

def readAngle? (text : String) : Option Float :=
  (Cartography.Angle.whole? text.toList).map fun angle => angle * 57.295779513082321

def hasNines : (run : Nat) → List Char → Bool
  | run, [] => 10 ≤ run
  | run, c :: s => 10 ≤ run || hasNines (if c = '9' then run + 1 else 0) s

def text (x : Float) : String :=
  let usual := Decimal.significantText 15 x
  if hasNines 0 usual.toList then Decimal.significantText 14 x else usual

def reread (x : Float) : Float :=
  (read? (text x)).getD x

def parameterText (x : Float) : String :=
  let tenths := (x * 10.0).round
  text (if (x * 10.0 - tenths).abs < 1.0e-8 then tenths / 10.0 else x)

def settled (x : Float) : Float :=
  if (x - x.round).abs < 1.0e-8 then x.round else x

end GeoRaster.Wkt.Number
