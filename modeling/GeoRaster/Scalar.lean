import GeoRaster.Decimal.Numeral

/-! The numbers that coordinates are made of. The rules of this library are written once for
any arithmetic: they run on doubles, and they are reasoned about over exact numbers. An
arithmetic has the field operations, a decidable order, whole parts, and a written form.
Undefined numbers and infinities may or may not exist in it; where a rule meets them, its
comparisons are phrased so that both cases read alike. -/
namespace GeoRaster

inductive NonFinite where
  | undefined
  | infinite
deriving DecidableEq, Repr

/-- An arithmetic for coordinates. -/
class Scalar (α : Type) extends Add α, Sub α, Mul α, Div α, Neg α, LT α, LE α, BEq α where
  decidableLT : DecidableLT α
  decidableLE : DecidableLE α
  /-- The number nearest to an integer. -/
  ofInt : Int → α
  /-- The largest integer that does not exceed a number. -/
  floor? : α → Except NonFinite Int
  /-- What division by a positive whole number leaves over; it has the sign of the dividend. -/
  remainder : α → α → α
  /-- Whether a number is neither undefined nor infinite. -/
  isFinite : α → Bool
  /-- Half a turn in radians. -/
  pi : α
  /-- What the lower bounds of a box without points are shown as. No rule looks at it. -/
  unbounded : α
  /-- The number that a numeral denotes, if this arithmetic has it. -/
  ofNumeral? : Decimal.Numeral → Option α
  /-- The written form of a number. -/
  text : α → String

namespace Scalar

variable {α : Type} [Scalar α]

instance : DecidableLT α := decidableLT

instance : DecidableLE α := decidableLE

def least (a b : α) : α :=
  if a ≤ b then a else if a ≤ a then b else a

def greatest (a b : α) : α :=
  if b ≤ a then a else if a ≤ a then b else a

def abs (a : α) : α :=
  if a < ofInt 0 then -a else a

def ceil? (a : α) : Except NonFinite Int :=
  (floor? (-a)).map (-·)

def truncate? (a : α) : Except NonFinite Int :=
  if a < ofInt 0 then ceil? a else floor? a

/-- The largest whole number that does not exceed a quotient, for a positive divisor. The part of the
dividend that divides evenly is divided, and where the remainder is negative the quotient is one
less. Rounding may have moved it off a whole number, so it is snapped to the nearest one. -/
def floorQuotient (a b : α) : α :=
  let r := remainder a b
  let q := (a - r) / b
  let q := if r < ofInt 0 then q - ofInt 1 else q
  if q == ofInt 0 then ofInt 0
  else
    match floor? q with
    | .error _ => q
    | .ok n =>
      let f := ofInt n
      if ofInt 1 / ofInt 2 < q - f then f + ofInt 1 else f

def ofDecimal (digits : Nat) (exponent : Int) : α :=
  (ofNumeral? (.finite false digits exponent)).getD (ofInt 0)

def degrees (angle : α) : α :=
  angle * (ofInt 180 / pi)

def radians (angle : α) : α :=
  angle * (pi / ofInt 180)

end Scalar

/-- An arithmetic that measures plane distances. -/
class MetricScalar (α : Type) extends Scalar α where
  /-- The distance from the origin to a point. -/
  hypot : α → α → α

end GeoRaster
