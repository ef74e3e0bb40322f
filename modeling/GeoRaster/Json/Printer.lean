import GeoRaster.Json.Basic
import GeoRaster.Text.Listing
import GeoRaster.Text.Quoted

/-! Writing JSON in ASCII. A space follows every comma and colon, the fields of an object stand
in the order of their names, and characters outside ASCII are written as their units. -/
namespace GeoRaster.Json

def unitChars (n : Nat) : List Char :=
  '\\' :: 'u' :: Text.hex 4 n

def escapeChar (c : Char) : List Char :=
  match c with
  | '"' => ['\\', '"']
  | '\\' => ['\\', '\\']
  | '\n' => ['\\', 'n']
  | '\r' => ['\\', 'r']
  | '\t' => ['\\', 't']
  | '\x08' => ['\\', 'b']
  | '\x0c' => ['\\', 'f']
  | c =>
    let n := c.toNat
    if 32 ≤ n ∧ n < 127 then [c]
    else if n < 0x10000 then unitChars n
    else unitChars (0xD800 + (n - 0x10000) / 0x400) ++ unitChars (0xDC00 + (n - 0x10000) % 0x400)

def renderString (s : String) : String :=
  String.ofList ('"' :: s.toList.flatMap escapeChar ++ ['"'])

mutual

def render : Json → String
  | null => "null"
  | bool true => "true"
  | bool false => "false"
  | num text => text
  | str value => renderString value
  | arr items => Text.bracketed (renderItems items)
  | obj fields =>
    let sorted := (renderFields fields).mergeSort fun a b => a.1 ≤ b.1
    "\x7b" ++ Text.commaSeparated (sorted.map fun field => renderString field.1 ++ ": " ++ field.2) ++
      "\x7d"

def renderItems : List Json → List String
  | [] => []
  | item :: rest => item.render :: renderItems rest

def renderFields : List (String × Json) → List (String × String)
  | [] => []
  | (key, value) :: rest => (key, value.render) :: renderFields rest

end

end GeoRaster.Json
