/-! Lists in running text: items between brackets with a comma and a space between
neighbours, and the shape of an array, where a single extent keeps its comma. -/
namespace GeoRaster.Text

def commaSeparated (items : List String) : String :=
  String.intercalate ", " items

def bracketed (items : List String) : String :=
  "[" ++ commaSeparated items ++ "]"

/-- Extents between round brackets; a single one is followed by a comma. -/
def tupled : List String → String
  | [item] => "(" ++ item ++ ",)"
  | items => "(" ++ commaSeparated items ++ ")"

end GeoRaster.Text
