import GeoRaster.Decimal.Notation

/-! Numbers as they are given. A whole number is kept as one and is written without a point;
what is computed with is the double nearest to it. -/
namespace GeoRaster.Decimal

/-- A number as it is given: whole, or a double. -/
inductive Given where
  | whole (value : Int)
  | real (value : Float)

namespace Given

def toFloat : Given → Float
  | whole value => ofInt value
  | real value => value

def isPositive : Given → Bool
  | whole value => 0 < value
  | real value => 0.0 < value

def isBeyondDoubles : Given → Bool
  | whole value => (ofInt value).isInf
  | real _ => false

def text : Given → String
  | whole value => intText value
  | real value => floatText value

end Given

end GeoRaster.Decimal
