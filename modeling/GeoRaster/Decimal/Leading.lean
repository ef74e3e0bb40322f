import GeoRaster.Decimal.Numeral

/-! The number that a text starts with. Blanks may precede it and anything may follow it. It is
written in decimal, or in hexadecimal after `0x`, where the exponent counts powers of two; the
words `inf`, `infinity` and `nan` in any case are numbers too. A text that starts with no number
counts as zero, and all of it is left. -/
namespace GeoRaster.Decimal

open Text (hexDigit?)

/-- A number off the front of a text, and the text after it. -/
structure Leading where
  value : Float
  rest : List Char

namespace Leading

def isBlank (c : Char) : Bool :=
  c = ' ' || ('\t' ≤ c && c ≤ '\r')

def afterWord? : (word text : List Char) → Option (List Char)
  | [], text => some text
  | _ :: _, [] => none
  | w :: word, c :: text => if w = c.toLower then afterWord? word text else none

/-- The value of a run of digits of a base, and the number of digits, off the front of a text. -/
def run (base : Nat) (digit? : Char → Option Nat) : (value count : Nat) → List Char →
    Nat × Nat × List Char
  | value, count, [] => (value, count, [])
  | value, count, c :: s =>
    match digit? c with
    | some d => run base digit? (base * value + d) (count + 1) s
    | none => (value, count, c :: s)

def decimalDigit? (c : Char) : Option Nat :=
  if c.isDigit then some (c.toNat - 48) else none

/-- Digits with at most one point among them: the value without the point, the number of digits
after it, and the text that follows. -/
def pointed? (base : Nat) (digit? : Char → Option Nat) (s : List Char) :
    Option (Nat × Nat × List Char) :=
  let (whole, before, rest) := run base digit? 0 0 s
  match rest with
  | '.' :: t =>
    let (value, after, rest) := run base digit? whole 0 t
    if before + after = 0 then none else some (value, after, rest)
  | _ => if before = 0 then none else some (whole, 0, rest)

/-- The exponent after one of two marks, zero if there is none. -/
def exponent (low high : Char) (s : List Char) : Int × List Char :=
  match s with
  | mark :: t =>
    if mark = low || mark = high then
      let (negative, t) := splitSign t
      let (value, count, rest) := run 10 decimalDigit? 0 0 t
      if count = 0 then (0, s) else (if negative then -(value : Int) else value, rest)
    else (0, s)
  | [] => (0, s)

/-- The double nearest to `digits * 2 ^ exponent`. Exponents so large or so small that the digits
cannot matter are cut short. -/
def ofBinary (digits : Nat) (exponent : Int) : Float :=
  let size := (Nat.log2 digits : Int)
  if digits = 0 || size + exponent < -1200 then 0.0
  else if 1100 < size + exponent then 1.0 / 0.0
  else nearest (digits * twoTo exponent.toNat) (twoTo (-exponent).toNat)

def hexadecimal? (s : List Char) : Option Leading :=
  (pointed? 16 hexDigit? s).map fun (value, after, rest) =>
    let (e, rest) := exponent 'p' 'P' rest
    ⟨ofBinary value (e - 4 * after), rest⟩

def decimal? (s : List Char) : Option Leading :=
  (pointed? 10 decimalDigit? s).map fun (value, after, rest) =>
    let (e, rest) := exponent 'e' 'E' rest
    ⟨ofDecimal value (e - after), rest⟩

def magnitude? (s : List Char) : Option Leading :=
  let word (text : String) := afterWord? text.toList s
  match (word "0x").bind hexadecimal?, word "infinity", word "inf", word "nan" with
  | some found, _, _, _ => some found
  | none, some rest, _, _ => some ⟨1.0 / 0.0, rest⟩
  | none, none, some rest, _ => some ⟨1.0 / 0.0, rest⟩
  | none, none, none, some rest => some ⟨0.0 / 0.0, rest⟩
  | none, none, none, none => decimal? s

def read (s : List Char) : Leading :=
  let (negative, t) := splitSign (s.dropWhile isBlank)
  match magnitude? t with
  | some found => if negative then ⟨-found.value, found.rest⟩ else found
  | none => ⟨0.0, s⟩

end Leading

end GeoRaster.Decimal
