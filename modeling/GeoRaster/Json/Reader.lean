import GeoRaster.Json.Basic
import GeoRaster.Text.Digit

/-! Reading JSON. A reader takes a value off the front of a text and returns the text after
it. Every reader calls others on shorter texts only, so the length of the text bounds how
deep they go. -/
namespace GeoRaster.Json

open Text (hexDigit?)

def skipBlanks (s : List Char) : List Char :=
  s.dropWhile fun c => c = ' ' || c = '\t' || c = '\n' || c = '\r'

def readUnit? : List Char → Option (Nat × List Char)
  | a :: b :: c :: d :: s => do
    return (((← hexDigit? a) * 16 + (← hexDigit? b)) * 256 + (← hexDigit? c) * 16 + (← hexDigit? d), s)
  | _ => none

def escaped? : Char → Option Char
  | 'n' => some '\n'
  | 't' => some '\t'
  | 'r' => some '\r'
  | 'b' => some '\x08'
  | 'f' => some '\x0c'
  | '"' => some '"'
  | '\\' => some '\\'
  | '/' => some '/'
  | _ => none

/-- The character of a unit, and of the unit that follows it where both are the halves of a
pair. -/
def readEscape? (unit : Nat) (s : List Char) : Char × List Char :=
  match s with
  | '\\' :: 'u' :: t =>
    match readUnit? t with
    | some (low, rest) =>
      if 0xD800 ≤ unit ∧ unit < 0xDC00 ∧ 0xDC00 ≤ low ∧ low < 0xE000 then
        (Char.ofNat (0x10000 + (unit - 0xD800) * 0x400 + (low - 0xDC00)), rest)
      else (Char.ofNat unit, s)
    | none => (Char.ofNat unit, s)
  | _ => (Char.ofNat unit, s)

def readChars? : (fuel : Nat) → List Char → Option (List Char × List Char)
  | 0, _ => none
  | _, [] => none
  | _ + 1, '"' :: s => some ([], s)
  | fuel + 1, '\\' :: 'u' :: s => do
    let (unit, s) ← readUnit? s
    let (c, s) := readEscape? unit s
    let (cs, s) ← readChars? fuel s
    return (c :: cs, s)
  | fuel + 1, '\\' :: c :: s => do
    let c ← escaped? c
    let (cs, s) ← readChars? fuel s
    return (c :: cs, s)
  | fuel + 1, c :: s =>
    if c.toNat < 32 then none
    else do
      let (cs, s) ← readChars? fuel s
      return (c :: cs, s)

def readDigits (s : List Char) : List Char × List Char :=
  s.span Char.isDigit

def readWhole? : List Char → Option (List Char × List Char)
  | '0' :: s => some (['0'], s)
  | s =>
    match readDigits s with
    | ([], _) => none
    | found => some found

/-- The point and the digits after it, if there are any. -/
def readFraction (s : List Char) : List Char × List Char :=
  match s with
  | '.' :: t =>
    match readDigits t with
    | ([], _) => ([], s)
    | (digits, rest) => ('.' :: digits, rest)
  | _ => ([], s)

/-- The mark, the sign and the digits of an exponent, if there is one. -/
def readExponent (s : List Char) : List Char × List Char :=
  match s with
  | mark :: t =>
    if mark = 'e' || mark = 'E' then
      let (sign, t) := match t with
        | '+' :: t => (['+'], t)
        | '-' :: t => (['-'], t)
        | t => ([], t)
      match readDigits t with
      | ([], _) => ([], s)
      | (digits, rest) => (mark :: sign ++ digits, rest)
    else ([], s)
  | [] => ([], s)

/-- A number without a sign off the front of a text. The word `Infinity` is a number. -/
def readMagnitude? (s : List Char) : Option (List Char × List Char) :=
  match s with
  | 'I' :: 'n' :: 'f' :: 'i' :: 'n' :: 'i' :: 't' :: 'y' :: s => some ("Infinity".toList, s)
  | s =>
    (readWhole? s).map fun (whole, s) =>
      let (fraction, s) := readFraction s
      let (exponent, s) := readExponent s
      (whole ++ fraction ++ exponent, s)

/-- A number off the front of a text, kept as it is written. It starts with no plus sign and
with no needless zero; the word `NaN` is one too. -/
def readNumber? (s : List Char) : Option (Json × List Char) :=
  match s with
  | 'N' :: 'a' :: 'N' :: s => some (num "NaN", s)
  | '-' :: s => (readMagnitude? s).map fun (digits, s) => (num (String.ofList ('-' :: digits)), s)
  | s => (readMagnitude? s).map fun (digits, s) => (num (String.ofList digits), s)

mutual

def readValue? : (fuel : Nat) → List Char → Option (Json × List Char)
  | 0, _ => none
  | fuel + 1, s =>
    match skipBlanks s with
    | 'n' :: 'u' :: 'l' :: 'l' :: s => some (null, s)
    | 't' :: 'r' :: 'u' :: 'e' :: s => some (bool true, s)
    | 'f' :: 'a' :: 'l' :: 's' :: 'e' :: s => some (bool false, s)
    | '"' :: s => (readChars? (s.length + 1) s).map fun (cs, s) => (str (String.ofList cs), s)
    | '[' :: s =>
      match skipBlanks s with
      | ']' :: s => some (arr [], s)
      | s => (readItems? fuel s).map fun (items, s) => (arr items, s)
    | '\x7b' :: s =>
      match skipBlanks s with
      | '\x7d' :: s => some (obj [], s)
      | s => (readFields? fuel s).map fun (fields, s) => (obj fields, s)
    | s => readNumber? s

def readItems? : (fuel : Nat) → List Char → Option (List Json × List Char)
  | 0, _ => none
  | fuel + 1, s => do
    let (item, s) ← readValue? fuel s
    match skipBlanks s with
    | ',' :: s => (readItems? fuel s).map fun (items, s) => (item :: items, s)
    | ']' :: s => some ([item], s)
    | _ => none

def readFields? : (fuel : Nat) → List Char → Option (List (String × Json) × List Char)
  | 0, _ => none
  | fuel + 1, s =>
    match skipBlanks s with
    | '"' :: s => do
      let (key, s) ← readChars? (s.length + 1) s
      match skipBlanks s with
      | ':' :: s => do
        let (value, s) ← readValue? fuel s
        let field := (String.ofList key, value)
        match skipBlanks s with
        | ',' :: s => (readFields? fuel s).map fun (fields, s) => (field :: fields, s)
        | '\x7d' :: s => some ([field], s)
        | _ => none
      | _ => none
    | _ => none

end

def read? (text : String) : Option Json :=
  let chars := text.toList
  match readValue? (2 * chars.length + 1) chars with
  | some (value, rest) => if (skipBlanks rest).isEmpty then some value else none
  | none => none

end GeoRaster.Json
