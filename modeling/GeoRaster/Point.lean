import GeoRaster.Fault

/-! Points of the plane, and coordinates of unchecked length. Conversions are rules on points;
callers hand over plain lists of numbers, and what happens to a list that is no pair is
settled here, before any rule applies. -/
namespace GeoRaster

/-- A pixel, a projected point, or a longitude with a latitude. -/
structure Point (α : Type) where
  x : α
  y : α
deriving DecidableEq, Repr, BEq

namespace Point

variable {α : Type}

def toList (p : Point α) : List α :=
  [p.x, p.y]

def ofPair : List α → Except Fault (Point α)
  | [x, y] => .ok ⟨x, y⟩
  | _ => .error .notAPair

def ofLeading : List α → Except Fault (Point α)
  | x :: y :: _ => .ok ⟨x, y⟩
  | _ => .error .missingCoordinate

/-- A list that stands for a point in a comparison with two bounds: one number stands for
both coordinates. -/
def ofBroadcast : List α → Except Fault (Point α)
  | [x] => .ok ⟨x, x⟩
  | [x, y] => .ok ⟨x, y⟩
  | _ => .error .notBroadcastable

def map {β : Type} (f : α → β) (p : Point α) : Point β :=
  ⟨f p.x, f p.y⟩

end Point

end GeoRaster
