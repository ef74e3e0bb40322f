/-! Doubles as exact numbers. A finite double is a natural number times a power of two,
read off its bits; remainders and roundings are taken on that number, where nothing is
lost, and brought back to a double. -/
namespace GeoRaster.Decimal

def twoTo (n : Nat) : Nat :=
  Nat.pow 2 n

def tenTo (n : Nat) : Nat :=
  Nat.pow 10 n

/-- A finite non-negative double: `significand * 2 ^ exponent`. -/
structure Binary64 where
  significand : Nat
  exponent : Int
  /-- Whether the double below is half as far away as the double above. -/
  narrowBelow : Bool
deriving DecidableEq, Repr

def Binary64.ofBits (bits : UInt64) : Binary64 :=
  let e := ((bits >>> 52) &&& 0x7FF).toNat
  let f := (bits &&& 0xFFFFFFFFFFFFF).toNat
  if e = 0 then ⟨f, -1074, false⟩ else ⟨twoTo 52 + f, (e : Int) - 1075, f = 0 && 1 < e⟩

def Binary64.ofFloat (x : Float) : Binary64 :=
  .ofBits x.toBits

def signBit (x : Float) : Bool :=
  x.toBits >>> 63 = 1

def roundDiv (num den : Nat) : Nat :=
  let q := num / den
  let r := num % den
  if 2 * r < den then q
  else if den < 2 * r then q + 1
  else if q % 2 = 0 then q else q + 1

/-- The exponent of two whose power is the greatest that does not exceed a quotient of positive
naturals. -/
def leadingExponent (num den : Nat) : Int :=
  let e := (Nat.log2 num : Int) - Nat.log2 den
  if den * twoTo e.toNat ≤ num * twoTo (-e).toNat then e else e - 1

/-- The bits of infinity; those of every finite double that is not negative are less. -/
def infinityBits : Nat :=
  0x7FF0000000000000

/-- The double `significand * 2 ^ place`, for a significand of 53 bits, or of fewer at the last
place that doubles have. A carry out of the significand counts the exponent up, and a double
that would be too large is infinite. -/
def assemble (significand : Nat) (place : Int) : Float :=
  let bits := (place + 1074).toNat * twoTo 52 + significand
  Float.ofBits (UInt64.ofNat (if bits < infinityBits then bits else infinityBits))

/-- The double nearest to a quotient of naturals, a half to the even neighbour: the quotient is
rounded at the place of the last of the 53 bits that a double has, or at the last place that
doubles have at all. -/
def nearest (num den : Nat) : Float :=
  if num = 0 then 0.0
  else
    let e := leadingExponent num den - 52
    let place := if e < -1074 then -1074 else e
    assemble (roundDiv (num * twoTo (-place).toNat) (den * twoTo place.toNat)) place

/-- The double nearest to `digits * 10 ^ exponent`. Exponents so large or so small that the
digits cannot matter are cut short. -/
def ofDecimal (digits : Nat) (exponent : Int) : Float :=
  if digits = 0 then 0.0
  else
    let magnitude := (Nat.log2 digits : Int) / 4 + exponent
    let exponent := if magnitude > 400 then 800 else exponent
    if (Nat.log2 digits : Int) / 3 + 1 + exponent < -400 then 0.0
    else nearest (digits * tenTo exponent.toNat) (tenTo (-exponent).toNat)

/-- The remainder of a finite double by a positive natural; it has the sign of the double
and is itself a double. -/
def remainder (x : Float) (modulus : Nat) : Float :=
  let b := Binary64.ofFloat x
  let r := if 0 ≤ b.exponent then
      Float.ofNat (b.significand * twoTo b.exponent.toNat % modulus)
    else
      Float.scaleB (Float.ofNat (b.significand % (modulus * twoTo (-b.exponent).toNat))) b.exponent
  if signBit x then -r else r

def floorInt (x : Float) : Int :=
  let b := Binary64.ofFloat x
  let m : Int := if signBit x then -b.significand else b.significand
  if 0 ≤ b.exponent then m * twoTo b.exponent.toNat else m.fdiv (twoTo (-b.exponent).toNat)

/-- Whether a double is a whole number: finite, and without a bit behind the point. -/
def isWhole (x : Float) : Bool :=
  let b := Binary64.ofFloat x
  !x.isNaN && !x.isInf && (0 ≤ b.exponent || b.significand % twoTo (-b.exponent).toNat = 0)

def ofInt (n : Int) : Float :=
  if n < 0 then -nearest n.natAbs 1 else nearest n.natAbs 1

/-- A double rounded to a number of decimal places. The exact value decides, and a half goes
to the even neighbour. -/
def roundTo (places : Nat) (x : Float) : Float :=
  if x.isFinite then
    let b := Binary64.ofFloat x
    let n := if 0 ≤ b.exponent then b.significand * twoTo b.exponent.toNat * tenTo places
      else roundDiv (b.significand * tenTo places) (twoTo (-b.exponent).toNat)
    let r := ofDecimal n (-places)
    if signBit x then -r else r
  else x

end GeoRaster.Decimal
