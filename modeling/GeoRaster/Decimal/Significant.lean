import GeoRaster.Decimal.Notation

/-! Doubles written with a fixed number of significant digits. The exact value is rounded, a half
to the even neighbour, and zeros at the end are left out; a number that is too large for its
digits or below `10 ^ -4` has an exponent. -/
namespace GeoRaster.Decimal

def Binary64.unitsNear (x : Binary64) (k : Int) : Nat :=
  roundDiv (x.significand * twoTo x.exponent.toNat * tenTo (-k).toNat)
    (twoTo (-x.exponent).toNat * tenTo k.toNat)

/-- The double rounded on the first of the grids of `10 ^ k`, `10 ^ (k - 1)`, … on which it has
`digits` digits, at most `steps` of them. -/
def Binary64.roundedFrom (x : Binary64) (digits : Nat) : (steps : Nat) → (k : Int) → Scientific
  | 0, k => ⟨x.unitsNear k, k⟩
  | steps + 1, k =>
    let n := x.unitsNear k
    if tenTo (digits - 1) ≤ n then ⟨n, k⟩ else x.roundedFrom digits steps (k - 1)

def Binary64.rounded (x : Binary64) (digits : Nat) : Scientific :=
  stripZeros digits (x.roundedFrom digits 8 (x.topGrid - digits + 1))

/-- Digits with a point where there is a fraction; the first digit stands for `10 ^ lead`. -/
def compactPositional (digits : List Char) (lead : Int) : List Char :=
  if lead < 0 then
    '0' :: '.' :: List.replicate (-lead - 1).toNat '0' ++ digits
  else
    let whole := lead.toNat + 1
    if digits.length ≤ whole then digits ++ List.replicate (whole - digits.length) '0'
    else digits.take whole ++ '.' :: digits.drop whole

def significantText (digits : Nat) (x : Float) : String :=
  let magnitude :=
    if x.isNaN then ['n', 'a', 'n']
    else if x.isInf then ['i', 'n', 'f']
    else if x == 0.0 then ['0']
    else
      let d := (Binary64.ofFloat x).rounded digits
      let ds := natDigits d.digits
      let lead := d.exponent + ds.length - 1
      if -4 ≤ lead ∧ lead < digits then compactPositional ds lead else withExponent ds lead
  String.ofList (if signBit x && !x.isNaN then '-' :: magnitude else magnitude)

end GeoRaster.Decimal
