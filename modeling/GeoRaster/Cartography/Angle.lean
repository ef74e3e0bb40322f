import GeoRaster.Decimal.Leading
import GeoRaster.Scalar.Double

/-! Angles in the notation of maps: degrees, minutes and seconds, each a number with its mark,
and a letter for the direction, as in `10d30'15"W`. The last number may do without a mark; after
a number with the letter `r` the angle is in radians. -/
namespace GeoRaster.Cartography.Angle

open Decimal (Leading)

/-- The first of the units degree, minute and second that is not finer than another one. -/
inductive Part where
  | degrees
  | minutes
  | seconds
deriving DecidableEq, Repr

namespace Part

def place : Part → Nat
  | degrees => 0
  | minutes => 1
  | seconds => 2

def ofPlace? : Nat → Option Part
  | 0 => some degrees
  | 1 => some minutes
  | 2 => some seconds
  | _ => none

def size : Part → Float
  | degrees => 0.017453292519943296
  | minutes => 0.0002908882086657216
  | seconds => 0.0000048481368110953599

def ofMark? (c : Char) : Option Part :=
  if c = 'd' || c = 'D' || c = '°' then some degrees
  else if c = '\'' then some minutes
  else if c = '"' then some seconds
  else none

end Part

/-- A number off the front of an angle. The letter that marks degrees ends it. -/
def number (s : List Char) : Leading :=
  let (digits, rest) := s.span fun c => c ≠ 'd' && c ≠ 'D'
  let found := Leading.read digits
  ⟨found.value, found.rest ++ rest⟩

/-- The parts of an angle off the front of a text, from a place on, added to a sum; nothing if
the parts are not in order. -/
def parts? : (fuel place : Nat) → (sum : Float) → List Char → Option (Float × List Char)
  | 0, _, sum, s => some (sum, s)
  | fuel + 1, place, sum, s =>
    match Part.ofPlace? place, s.head?.any fun c => c.isDigit || c = '.' with
    | some next, true =>
      let found := number s
      if found.value.isInf then none
      else
        match found.rest with
        | [] => some (sum + found.value * next.size, [])
        | c :: rest =>
          match Part.ofMark? c with
          | some part =>
            if part.place < place then none
            else parts? fuel (part.place + 1) (sum + found.value * part.size) rest
          | none =>
            if c = 'r' || c = 'R' then (if place = 0 then some (found.value, rest) else none)
            else some (sum + found.value * next.size, c :: rest)
    | _, _ => some (sum, s)

def direction? (c : Char) : Option Bool :=
  if "NnEe".toList.contains c then some false
  else if "SsWw".toList.contains c then some true
  else none

/-- The characters that angles are made of; no angle is longer than 63 of them. -/
def characters (s : List Char) : List Char :=
  ((s.dropWhile Leading.isBlank).takeWhile fun c => ('!' ≤ c && c ≤ '~') || c = '°').take 63

/-- Reads the angle that a text starts with, in radians. An angle whose parts are not in order is
infinite, and all of the text is left. -/
def read (s : List Char) : Leading :=
  let chars := characters s
  let (negative, t) := Decimal.splitSign chars
  match parts? 3 0 0.0 t with
  | none => ⟨1.0 / 0.0, s⟩
  | some (sum, t) =>
    let (negative, t) := match t with
      | c :: rest =>
        match direction? c with
        | some away => (away, rest)
        | none => (negative, t)
      | [] => (negative, t)
    let used := chars.length - t.length
    ⟨if negative then -sum else sum, (s.dropWhile Leading.isBlank).drop used⟩

def whole? (s : List Char) : Option Float :=
  let found := read s
  if found.rest.isEmpty && !found.value.isInf then some found.value else none

end GeoRaster.Cartography.Angle
