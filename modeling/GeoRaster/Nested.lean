/-! Arrays given as nested lists. Such lists denote an array when all lists of one depth have
one length; the lengths from the outside in are its extents. -/
namespace GeoRaster

inductive Nested (α : Type) where
  | leaf (value : α)
  | node (items : List (Nested α))
deriving Inhabited

namespace Nested

variable {α : Type}

mutual

/-- The extents of the array that nested lists denote, if they do denote one. -/
def extents? : Nested α → Option (List Nat)
  | leaf _ => some []
  | node items => (commonExtents? items).map (items.length :: ·)

/-- The extents that all items share; no item, no extents. -/
def commonExtents? : List (Nested α) → Option (List Nat)
  | [] => some []
  | [item] => item.extents?
  | item :: items =>
    match item.extents?, commonExtents? items with
    | some e, some e' => if e = e' then some e else none
    | _, _ => none

end

mutual

def leaves : Nested α → List α
  | leaf value => [value]
  | node items => leavesOfAll items

def leavesOfAll : List (Nested α) → List α
  | [] => []
  | item :: items => item.leaves ++ leavesOfAll items

end

def ofRows (rows : List (List α)) : Nested α :=
  node (rows.map fun row => node (row.map leaf))

end Nested

end GeoRaster
