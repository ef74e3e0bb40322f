import GeoRaster.Text.Listing
import GeoRaster.Text.Quoted
import GeoRaster.Decimal.Notation

/-! Values in the header of a raster file. They may be of any simple kind when the header is
first filled; a value written later is kept as text. Texts inside lists and mappings are
quoted, a text by itself is not. -/
namespace GeoRaster

inductive HeaderValue where
  | none
  | bool (value : Bool)
  | int (value : Int)
  | float (value : Float)
  | string (value : String)
  | list (items : List HeaderValue)
  | mapping (entries : List (String × HeaderValue))
deriving Inhabited

namespace HeaderValue

mutual

def inner : HeaderValue → String
  | none => "None"
  | bool true => "True"
  | bool false => "False"
  | int value => Decimal.intText value
  | float value => Decimal.floatText value
  | string value => Text.quoted value
  | list items => Text.bracketed (innerList items)
  | mapping entries => "\x7b" ++ Text.commaSeparated (innerEntries entries) ++ "\x7d"

def innerList : List HeaderValue → List String
  | [] => []
  | value :: rest => value.inner :: innerList rest

def innerEntries : List (String × HeaderValue) → List String
  | [] => []
  | (key, value) :: rest => (Text.quoted key ++ ": " ++ value.inner) :: innerEntries rest

end

def text : HeaderValue → String
  | string value => value
  | value => value.inner

end HeaderValue

end GeoRaster
