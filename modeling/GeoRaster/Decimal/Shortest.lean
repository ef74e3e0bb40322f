import GeoRaster.Decimal.Binary64

/-! The shortest decimal of a double: of the decimals that are nearer to it than to any
other double, one with the fewest digits, and of those the nearest. Everything is
decided by comparing natural numbers. -/
namespace GeoRaster.Decimal

structure Scientific where
  digits : Nat
  exponent : Int
deriving DecidableEq, Repr

def compareScaled (a : Nat) (i : Int) (n : Nat) (j : Int) : Ordering :=
  compare (a * tenTo i.toNat * twoTo (-j).toNat) (n * twoTo j.toNat * tenTo (-i).toNat)

/-- Whether a decimal lies among the reals that round to the double: between the midpoints
to its neighbours, the midpoints included when the significand is even. -/
def Binary64.readsBack (x : Binary64) (d : Scientific) : Bool :=
  let low := if x.narrowBelow then 4 * x.significand - 1 else 4 * x.significand - 2
  let high := 4 * x.significand + 2
  let atLow := compareScaled d.digits d.exponent low (x.exponent - 2)
  let atHigh := compareScaled d.digits d.exponent high (x.exponent - 2)
  let closed := x.significand % 2 = 0
  (atLow = .gt || (closed && atLow = .eq)) && (atHigh = .lt || (closed && atHigh = .eq))

def Binary64.unitsBelow (x : Binary64) (k : Int) : Nat :=
  x.significand * twoTo x.exponent.toNat * tenTo (-k).toNat / (twoTo (-x.exponent).toNat * tenTo k.toNat)

/-- The decimal on the grid of `10 ^ k` that reads back as the double: the nearer one of the
double's two neighbours on the grid where both do, and on a tie the even one. -/
def Binary64.onGrid? (x : Binary64) (k : Int) : Option Scientific :=
  let n := x.unitsBelow k
  match x.readsBack ⟨n, k⟩, x.readsBack ⟨n + 1, k⟩ with
  | true, false => some ⟨n, k⟩
  | false, true => some ⟨n + 1, k⟩
  | false, false => none
  | true, true =>
    match compareScaled (2 * n + 1) k (2 * x.significand) x.exponent with
    | .gt => some ⟨n, k⟩
    | .lt => some ⟨n + 1, k⟩
    | .eq => some ⟨if n % 2 = 0 then n else n + 1, k⟩

/-- The first hit on the grids of `10 ^ k`, `10 ^ (k - 1)`, …, at most `steps` of them. -/
def Binary64.search (x : Binary64) : (steps : Nat) → (k : Int) → Option Scientific
  | 0, _ => none
  | steps + 1, k => match x.onGrid? k with
    | some d => some d
    | none => x.search steps (k - 1)

def Binary64.exact (x : Binary64) : Scientific :=
  if 0 ≤ x.exponent then ⟨x.significand * twoTo x.exponent.toNat, 0⟩
  else ⟨x.significand * Nat.pow 5 (-x.exponent).toNat, x.exponent⟩

/-- A power of ten at least as large as a positive double, and less than a thousand times
as large: three tenths of the binary exponent, rounded up generously. -/
def Binary64.topGrid (x : Binary64) : Int :=
  ((Nat.log2 x.significand : Int) + x.exponent) * 30103 / 100000 + 1

/-- Digits without the zeros at their end; a number below `10 ^ fuel` loses them all. -/
def stripZeros : (fuel : Nat) → Scientific → Scientific
  | 0, d => d
  | fuel + 1, d =>
    if d.digits ≠ 0 ∧ d.digits % 10 = 0 then stripZeros fuel ⟨d.digits / 10, d.exponent + 1⟩ else d

/-- The shortest decimal of a positive double. A double is settled by seventeen digits. -/
def Binary64.shortest (x : Binary64) : Scientific :=
  stripZeros 20 ((x.search 20 x.topGrid).getD x.exact)

end GeoRaster.Decimal
