import GeoRaster.Point
import GeoRaster.Scalar

/-! Axis-aligned boxes in pixel, projected or geographic space. A box is empty, or spans from
its least to its greatest coordinates; growing it by a point moves the bounds just far enough
to contain the point. A pixel box leaves out its greatest row and column, but that is a
matter of those who read it. -/
namespace GeoRaster

inductive Box (α : Type) where
  | empty
  | span (minX minY maxX maxY : α)
deriving Repr

namespace Box

variable {α : Type} [Scalar α]

/-- The box with the given bounds, which must be in order. -/
def ofBounds (minX minY maxX maxY : α) : Except Fault (Box α) :=
  if minX ≤ maxX ∧ minY ≤ maxY then .ok (span minX minY maxX maxY) else .error .invalidBox

def isEmpty : Box α → Bool
  | empty => true
  | span .. => false

def minX : Box α → α
  | empty => Scalar.unbounded
  | span minX _ _ _ => minX

def minY : Box α → α
  | empty => Scalar.unbounded
  | span _ minY _ _ => minY

def maxX : Box α → α
  | empty => -Scalar.unbounded
  | span _ _ maxX _ => maxX

def maxY : Box α → α
  | empty => -Scalar.unbounded
  | span _ _ _ maxY => maxY

def lower (b : Box α) : Point α :=
  ⟨b.minX, b.minY⟩

def upper (b : Box α) : Point α :=
  ⟨b.maxX, b.maxY⟩

def width : Box α → α
  | empty => Scalar.ofInt 0
  | span minX _ maxX _ => maxX - minX

def height : Box α → α
  | empty => Scalar.ofInt 0
  | span _ minY _ maxY => maxY - minY

/-- The four corners, counted from the lower one along the first axis. -/
def corners (b : Box α) : List (Point α) :=
  [⟨b.minX, b.minY⟩, ⟨b.maxX, b.minY⟩, ⟨b.maxX, b.maxY⟩, ⟨b.minX, b.maxY⟩]

def grow (b : Box α) (p : Point α) : Box α :=
  match b with
  | empty => span p.x p.y p.x p.y
  | span minX minY maxX maxY =>
    span (Scalar.least minX p.x) (Scalar.least minY p.y)
      (Scalar.greatest maxX p.x) (Scalar.greatest maxY p.y)

def growBox (b other : Box α) : Box α :=
  match other with
  | empty => b
  | span minX minY maxX maxY => (b.grow ⟨minX, minY⟩).grow ⟨maxX, maxY⟩

def ofPoints (points : List (Point α)) : Box α :=
  points.foldl grow empty

def contains (b : Box α) (p : Point α) : Bool :=
  match b with
  | empty => false
  | span minX minY maxX maxY => minX ≤ p.x && p.x ≤ maxX && minY ≤ p.y && p.y ≤ maxY

def same : Box α → Box α → Bool
  | empty, empty => true
  | span a b c d, span a' b' c' d' => a == a' && b == b' && c == c' && d == d'
  | _, _ => false

/-- What the lack of a whole part is a fault of. -/
def wholeFault : NonFinite → Fault
  | .undefined => .undefinedWhole
  | .infinite => .infiniteWhole

def wholeBelow (a : α) : Except Fault Int :=
  (Scalar.floor? a).mapError wholeFault

def wholeAbove (a : α) : Except Fault Int :=
  (Scalar.ceil? a).mapError wholeFault

def wholePart (a : α) : Except Fault Int :=
  (Scalar.truncate? a).mapError wholeFault

def growToInt : Box α → Except Fault (Box α)
  | empty => .ok empty
  | span minX minY maxX maxY => do
    let x₀ ← wholeBelow minX
    let y₀ ← wholeBelow minY
    let x₁ ← wholeAbove maxX
    let y₁ ← wholeAbove maxY
    ofBounds (Scalar.ofInt x₀) (Scalar.ofInt y₀) (Scalar.ofInt x₁) (Scalar.ofInt y₁)

def text : Box α → String
  | empty => "BBox()"
  | span minX minY maxX maxY =>
    "BBox(minX=" ++ Scalar.text minX ++ ", minY=" ++ Scalar.text minY ++
      ", maxX=" ++ Scalar.text maxX ++ ", maxY=" ++ Scalar.text maxY ++ ")"

end Box

end GeoRaster
