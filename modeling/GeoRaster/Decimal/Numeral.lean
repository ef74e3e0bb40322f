import GeoRaster.Text.Digit
import GeoRaster.Decimal.Binary64

/-! Numerals: the texts that denote a number. A numeral has an optional sign, decimal digits
of any script with at most one point among them, and an optional exponent; single
underscores may group the digits. The words `inf`, `infinity` and `nan` in any case are
numerals too. Reading gives the exact decimal; which number it becomes is left to the
arithmetic in use. -/
namespace GeoRaster.Decimal

open Text (digitValue?)

/-- What a numeral denotes: `digits * 10 ^ exponent` with a sign, or no finite number. -/
inductive Numeral where
  | finite (negative : Bool) (digits : Nat) (exponent : Int)
  | infinite (negative : Bool)
  | undefined
deriving DecidableEq, Repr

/-- The text without its underscores, each of which must stand between two digits. -/
def ungroup? : (afterDigit : Bool) → List Char → Option (List Char)
  | _, [] => some []
  | afterDigit, c :: s =>
    if c = '_' then
      match s with
      | [] => none
      | d :: _ => if afterDigit && (digitValue? d).isSome then ungroup? false s else none
    else (ungroup? (digitValue? c).isSome s).map (c :: ·)

def digitRun : List Char → List Nat × List Char
  | [] => ([], [])
  | c :: s =>
    match digitValue? c with
    | none => ([], c :: s)
    | some d => let (ds, rest) := digitRun s; (d :: ds, rest)

def ofDigits (ds : List Nat) : Nat :=
  ds.foldl (fun n d => 10 * n + d) 0

def splitSign : List Char → Bool × List Char
  | '-' :: s => (true, s)
  | '+' :: s => (false, s)
  | s => (false, s)

def readExponent? : List Char → Option Int
  | [] => some 0
  | c :: s =>
    if c = 'e' ∨ c = 'E' then
      let (negative, s) := splitSign s
      match digitRun s with
      | ([], _) => none
      | (ds, []) => some (if negative then -(ofDigits ds : Int) else ofDigits ds)
      | _ => none
    else none

/-- The digits after the point, if there is a point, and the text after them. -/
def fractionRun : List Char → List Nat × List Char
  | '.' :: s => digitRun s
  | s => ([], s)

def readDecimal? (negative : Bool) (s : List Char) : Option Numeral :=
  let (whole, s) := digitRun s
  let (fraction, s) := fractionRun s
  if whole = [] ∧ fraction = [] then none
  else (readExponent? s).map fun e =>
    .finite negative (ofDigits (whole ++ fraction)) (e - fraction.length)

def readNumeral? (s : List Char) : Option Numeral :=
  (ungroup? false s).bind fun s =>
    let (negative, s) := splitSign s
    let word := s.map Char.toLower
    if word = ['i', 'n', 'f'] ∨ word = ['i', 'n', 'f', 'i', 'n', 'i', 't', 'y'] then
      some (.infinite negative)
    else if word = ['n', 'a', 'n'] then some .undefined
    else readDecimal? negative s

def readInteger? (s : List Char) : Option Int :=
  (ungroup? false s).bind fun s =>
    let (negative, s) := splitSign s
    match digitRun s with
    | ([], _) => none
    | (ds, []) => some (if negative then -(ofDigits ds : Int) else ofDigits ds)
    | _ => none

/-- The double nearest to what a numeral denotes; beyond the largest double it is infinite. -/
def Numeral.toFloat : Numeral → Float
  | .finite negative digits exponent =>
    let x := ofDecimal digits exponent
    if negative then -x else x
  | .infinite negative => if negative then -1.0 / 0.0 else 1.0 / 0.0
  | .undefined => 0.0 / 0.0

end GeoRaster.Decimal
