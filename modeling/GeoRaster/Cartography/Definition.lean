import GeoRaster.Cartography.Angle

/-! What an atlas reads in a projection string: entries of a key with or without a value, in
order. A plus sign before an entry, blanks around its equals sign and semicolons between entries
do not matter. Of entries with one key, the first one counts. -/
namespace GeoRaster.Cartography

open Decimal (Leading)

/-- An entry of a projection string; one without an equals sign has no value. -/
structure Entry where
  key : String
  value : Option String
deriving DecidableEq, Repr

namespace Entry

def ofChars (token : List Char) : Entry :=
  let (key, rest) := token.span (· ≠ '=')
  ⟨String.ofList key, match rest with
    | [] => none
    | _ :: value => some (String.ofList value)⟩

def token (entry : Entry) : String :=
  match entry.value with
  | none => "+" ++ entry.key
  | some value => "+" ++ entry.key ++ "=" ++ value

end Entry

structure Definition where
  entries : List Entry

namespace Definition

def isBreak (c : Char) : Bool :=
  Leading.isBlank c || c = ';'

def tokens : (current : List Char) → List Char → List (List Char)
  | current, [] => if current = [] then [] else [current.reverse]
  | current, c :: s =>
    if isBreak c then (if current = [] then tokens [] s else current.reverse :: tokens [] s)
    else tokens (c :: current) s

def unsigned : List Char → List Char
  | '+' :: token => token
  | token => token

def joins (c : Char) : Bool :=
  c = '=' || c = ','

/-- Tokens joined where one ends or the next one starts with an equals sign or a comma. -/
def glue : (current : List Char) → List (List Char) → List (List Char)
  | current, [] => [current]
  | current, token :: rest =>
    if current.getLast?.any joins || token.head?.any joins then glue (current ++ token) rest
    else current :: glue token rest

def ofString (projection : String) : Definition :=
  let parts := (tokens [] projection.toList).map unsigned
  ⟨((glue [] parts).filter (· ≠ [])).map Entry.ofChars⟩

def entry? (d : Definition) (key : String) : Option Entry :=
  d.entries.find? (·.key = key)

def has (d : Definition) (key : String) : Bool :=
  (d.entry? key).isSome

/-- The value of a key, which is empty if its entry has none. -/
def value? (d : Definition) (key : String) : Option String :=
  (d.entry? key).map fun entry => entry.value.getD ""

def number? (d : Definition) (key : String) : Option Float :=
  (d.value? key).map fun value => (Leading.read value.toList).value

/-- The number that the value of a key starts with, zero unless given. -/
def number (d : Definition) (key : String) : Float :=
  (d.number? key).getD 0.0

def angle? (d : Definition) (key : String) : Option Float :=
  (d.value? key).map fun value => (Angle.read value.toList).value

/-- The angle in radians that the value of a key starts with, zero unless given. -/
def angle (d : Definition) (key : String) : Float :=
  (d.angle? key).getD 0.0

/-- Whether the entry of a key says yes. It does so without a value and with a value that starts
with the letter `t`; a value that starts with the letter `f` says no, and any other value
nothing. -/
def choice? (d : Definition) (key : String) : Option Bool :=
  match d.value? key with
  | none => some false
  | some value =>
    match value.toList with
    | [] => some true
    | c :: _ =>
      if c = 't' || c = 'T' then some true else if c = 'f' || c = 'F' then some false else none

def append (d : Definition) (entries : List Entry) : Definition :=
  ⟨d.entries ++ entries⟩

end Definition

end GeoRaster.Cartography
