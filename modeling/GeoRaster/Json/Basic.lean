/-! JSON values. A number is kept as it is written, so that no digit and no sign is lost before
an arithmetic is chosen for it. -/
namespace GeoRaster

inductive Json where
  | null
  | bool (value : Bool)
  | num (text : String)
  | str (value : String)
  | arr (items : List Json)
  | obj (fields : List (String × Json))
deriving Inhabited

namespace Json

/-- The value of a field; of fields with one name, the last one counts. -/
def field? (key : String) : Json → Option Json
  | obj fields => fields.reverse.lookup key
  | _ => none

def string? : Json → Option String
  | str value => some value
  | _ => none

/-- The items of an array; other values have none. -/
def items : Json → List Json
  | arr items => items
  | _ => []

end Json

end GeoRaster
