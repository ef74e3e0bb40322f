import GeoRaster.Text.Invisible

/-! Quoted text, as descriptions of datums and projections show it. A text stands between
single quotes; between double quotes only when it holds a single quote and no double one.
The quote, the backslash, line ends and tabs are escaped, and characters without a visible
form are written by their number in as few digits as their plane needs. -/
namespace GeoRaster.Text

def hexDigit (n : Nat) : Char :=
  if n < 10 then Char.ofNat (48 + n) else Char.ofNat (87 + n)

def hex : (width n : Nat) → List Char
  | 0, _ => []
  | width + 1, n => hex width (n / 16) ++ [hexDigit (n % 16)]

def escape (quote c : Char) : List Char :=
  if c = quote ∨ c = '\\' then ['\\', c]
  else if c = '\n' then ['\\', 'n']
  else if c = '\r' then ['\\', 'r']
  else if c = '\t' then ['\\', 't']
  else if isInvisible c then
    if c.toNat < 0x100 then '\\' :: 'x' :: hex 2 c.toNat
    else if c.toNat < 0x10000 then '\\' :: 'u' :: hex 4 c.toNat
    else '\\' :: 'U' :: hex 8 c.toNat
  else [c]

def quoteFor (s : List Char) : Char :=
  if '\'' ∈ s ∧ '"' ∉ s then '"' else '\''

def quoteChars (s : List Char) : List Char :=
  let q := quoteFor s
  q :: s.flatMap (escape q) ++ [q]

def quoted (s : String) : String :=
  String.ofList (quoteChars s.toList)

end GeoRaster.Text
