import GeoRaster.Scalar
import GeoRaster.Decimal.Notation

/-! Doubles as an arithmetic for coordinates. Remainders are exact; an infinite or undefined number
leaves an undefined one over. -/
namespace GeoRaster.Double

def remainder (x y : Float) : Float :=
  if x.isFinite then Decimal.remainder x (Decimal.floorInt y).toNat else 0.0 / 0.0

def floor? (x : Float) : Except NonFinite Int :=
  if x.isNaN then .error .undefined
  else if x.isInf then .error .infinite
  else .ok (Decimal.floorInt x)

/-- The largest natural number whose square does not exceed a number, found by one binary digit
after the other. -/
def floorRoot (n : Nat) : Nat :=
  if n = 0 then 0
  else
    let r := 2 * floorRoot (n / 4)
    if (r + 1) * (r + 1) ≤ n then r + 1 else r
termination_by n
decreasing_by omega

/-- The double nearest to the square root of `n * 4 ^ exponent`. The root is taken with more
digits than a double has, and one more bit tells whether it is exact. -/
def rootOf (n : Nat) (exponent : Int) : Float :=
  if n = 0 then 0.0
  else
    let missing := 64 - Nat.log2 n / 2
    let m := n * Decimal.twoTo (2 * missing)
    let r := floorRoot m
    let marked := 2 * r + (if r * r = m then 0 else 1)
    let place := exponent - missing - 1
    Decimal.nearest (marked * Decimal.twoTo place.toNat) (Decimal.twoTo (-place).toNat)

def hypot (x y : Float) : Float :=
  if x.isInf || y.isInf then 1.0 / 0.0
  else if x.isNaN || y.isNaN then 0.0 / 0.0
  else
    let a := Decimal.Binary64.ofFloat x
    let b := Decimal.Binary64.ofFloat y
    let e := if a.exponent ≤ b.exponent then a.exponent else b.exponent
    let m := a.significand * Decimal.twoTo (a.exponent - e).toNat
    let n := b.significand * Decimal.twoTo (b.exponent - e).toNat
    rootOf (m * m + n * n) e

instance : Scalar Float where
  decidableLT := inferInstance
  decidableLE := inferInstance
  ofInt := Decimal.ofInt
  floor? := floor?
  remainder := remainder
  isFinite := Float.isFinite
  pi := 3.141592653589793
  unbounded := 1.0 / 0.0
  ofNumeral? n := some n.toFloat
  text := Decimal.floatText

instance : MetricScalar Float where
  hypot := hypot

end GeoRaster.Double
