import GeoRaster.Text.Blank
import GeoRaster.Scalar

/-! Projection strings: tokens such as `+proj=utm`, `+zone=11` or `+south`, separated by
blanks. The first token of a key gives its value. Editing a string keeps the order of its
tokens; removing a token also brings the spacing into its plainest form. -/
namespace GeoRaster.Projection

open Text (words unwords trim)

def tokenize (projection : String) : List String :=
  (words projection.toList).map String.ofList

def ofTokens (tokens : List String) : String :=
  String.ofList (unwords (tokens.map String.toList))

def hasToken (projection token : String) : Bool :=
  (tokenize projection).contains token

/-- How the token that gives a key its value starts. A key may come with its plus sign. -/
def keyStart (key : String) : List Char :=
  match key.toList with
  | '+' :: rest => '+' :: rest ++ ['=']
  | chars => '+' :: chars ++ ['=']

def after? : (beginning text : List Char) → Option (List Char)
  | [], text => some text
  | _ :: _, [] => none
  | b :: beginning, c :: text => if b = c then after? beginning text else none

/-- The text that the first token of a key gives it. -/
def findValue (projection key : String) : Option String :=
  (tokenize projection).findSome? fun token =>
    (after? (keyStart key) token.toList).map String.ofList

/-- The number that the first token of a key gives it, if that is a numeral. -/
def extractValue {α : Type} [Scalar α] (projection key : String) : Option α :=
  (findValue projection key).bind fun value =>
    (Decimal.readNumeral? value.toList).bind Scalar.ofNumeral?

def projectionName (projection : String) : Option String :=
  findValue projection "proj"

def geographicNames : List String :=
  ["longlat", "latlong", "lonlat", "latlon"]

def isGeographic (projection : String) : Bool :=
  match projectionName projection with
  | some name => geographicNames.contains name
  | none => false

def isUTM (projection : String) : Bool :=
  projectionName projection = some "utm"

def isOrthographic (projection : String) : Bool :=
  projectionName projection = some "ortho"

def removeToken (projection token : String) : String :=
  ofTokens ((tokenize projection).filter (· ≠ token))

def appendToken (projection token : String) : String :=
  String.ofList (trim (trim projection.toList ++ ' ' :: token.toList))

/-- Partial strings, trimmed and joined; those without tokens are left out. -/
def joinStrings (parts : List String) : String :=
  String.ofList (unwords ((parts.map fun part => trim part.toList).filter (· ≠ [])))

def overToken : String :=
  "+over"

end GeoRaster.Projection
