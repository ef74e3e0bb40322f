import GeoRaster.Decimal.Shortest

/-! How a double is written: its shortest decimal, with a point between the digits when
the first digit stands for a power of ten from `10 ^ -4` up to `10 ^ 15`, and with an
exponent of at least two digits and a sign otherwise. A whole number keeps `.0`. -/
namespace GeoRaster.Decimal

def natDigits (n : Nat) : List Char :=
  Nat.toDigits 10 n

def natText (n : Nat) : String :=
  String.ofList (natDigits n)

/-- The text of an integer: its digits, after a minus sign if it is negative. -/
def intText (n : Int) : String :=
  String.ofList (if n < 0 then '-' :: natDigits n.natAbs else natDigits n.natAbs)

/-- Digits with a point; the first digit stands for `10 ^ lead`. -/
def positional (digits : List Char) (lead : Int) : List Char :=
  if lead < 0 then
    '0' :: '.' :: List.replicate (-lead - 1).toNat '0' ++ digits
  else
    let whole := lead.toNat + 1
    if digits.length ≤ whole then
      digits ++ List.replicate (whole - digits.length) '0' ++ ['.', '0']
    else
      digits.take whole ++ '.' :: digits.drop whole

def exponentPart (e : Int) : List Char :=
  let digits := natDigits e.natAbs
  'e' :: (if e < 0 then '-' else '+') :: (if digits.length < 2 then '0' :: digits else digits)

/-- Digits with an exponent; the first digit stands for `10 ^ lead`. -/
def withExponent (digits : List Char) (lead : Int) : List Char :=
  match digits with
  | [] => []
  | [d] => d :: exponentPart lead
  | d :: rest => d :: '.' :: rest ++ exponentPart lead

def Scientific.layout (d : Scientific) : List Char :=
  let digits := natDigits d.digits
  let lead := d.exponent + digits.length - 1
  if -4 ≤ lead ∧ lead < 16 then positional digits lead else withExponent digits lead

def floatChars (x : Float) : List Char :=
  if x.isNaN then ['n', 'a', 'n']
  else
    let magnitude :=
      if x.isInf then ['i', 'n', 'f']
      else if x == 0.0 then ['0', '.', '0']
      else (Binary64.ofFloat x).shortest.layout
    if signBit x then '-' :: magnitude else magnitude

def floatText (x : Float) : String :=
  String.ofList (floatChars x)

end GeoRaster.Decimal
