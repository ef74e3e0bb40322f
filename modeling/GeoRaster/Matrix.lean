import GeoRaster.Point
import GeoRaster.Scalar

/-! Matrices of three rows and columns, read as projective maps of the plane. The inverse comes
from elimination with partial pivoting on the rows of the matrix beside those of the
identity; it exists when no pivot is zero. -/
namespace GeoRaster

open Scalar (ofInt)

structure Row (α : Type) where
  a : α
  b : α
  c : α
deriving DecidableEq, Repr, BEq

namespace Row

variable {α : Type} [Scalar α]

def scale (k : α) (r : Row α) : Row α :=
  ⟨k * r.a, k * r.b, k * r.c⟩

def minus (r s : Row α) : Row α :=
  ⟨r.a - s.a, r.b - s.b, r.c - s.c⟩

def divideBy (r : Row α) (k : α) : Row α :=
  ⟨r.a / k, r.b / k, r.c / k⟩

def toList (r : Row α) : List α :=
  [r.a, r.b, r.c]

end Row

structure Matrix3 (α : Type) where
  top : Row α
  middle : Row α
  bottom : Row α
deriving DecidableEq, Repr, BEq

/-- A row of a matrix beside the row of another one that undergoes the same operations. -/
structure AugmentedRow (α : Type) where
  left : Row α
  right : Row α

def AugmentedRow.reduce {α : Type} [Scalar α] (r : AugmentedRow α) (factor : α)
    (pivotRow : AugmentedRow α) : AugmentedRow α :=
  ⟨r.left.minus (pivotRow.left.scale factor), r.right.minus (pivotRow.right.scale factor)⟩

namespace Matrix3

variable {α : Type} [Scalar α]

def identity : Matrix3 α :=
  ⟨⟨ofInt 1, ofInt 0, ofInt 0⟩, ⟨ofInt 0, ofInt 1, ofInt 0⟩, ⟨ofInt 0, ofInt 0, ofInt 1⟩⟩

def toLists (m : Matrix3 α) : List (List α) :=
  [m.top.toList, m.middle.toList, m.bottom.toList]

def ofList? : List α → Option (Matrix3 α)
  | [a, b, c, d, e, f, g, h, i] => some ⟨⟨a, b, c⟩, ⟨d, e, f⟩, ⟨g, h, i⟩⟩
  | _ => none

def text (m : Matrix3 α) : String :=
  Text.bracketed (m.toLists.map fun row => Text.bracketed (row.map Scalar.text))

def isFinite (m : Matrix3 α) : Bool :=
  m.toLists.all fun row => row.all Scalar.isFinite

/-- The factor that a point's image is divided by. Points where it is zero have no image. -/
def denominator (m : Matrix3 α) (p : Point α) : α :=
  p.x * m.bottom.a + p.y * m.bottom.b + m.bottom.c

def apply (m : Matrix3 α) (p : Point α) : Point α :=
  let d := m.denominator p
  ⟨(p.x * m.top.a + p.y * m.top.b + m.top.c) / d,
    (p.x * m.middle.a + p.y * m.middle.b + m.middle.c) / d⟩

def halfShift (m : Matrix3 α) : Matrix3 α :=
  let half : α := ofInt 1 / ofInt 2
  ⟨⟨m.top.a, m.top.b, m.top.c + half * m.top.a⟩,
    ⟨m.middle.a, m.middle.b, m.middle.c + half * m.middle.b⟩, m.bottom⟩

/-- The three rows with one of greatest first entry in front, by at most one exchange. -/
def pivotFirst (r s t : AugmentedRow α) : AugmentedRow α × AugmentedRow α × AugmentedRow α :=
  let best := if Scalar.abs r.left.a < Scalar.abs s.left.a then s else r
  if Scalar.abs best.left.a < Scalar.abs t.left.a then (t, s, r)
  else if Scalar.abs r.left.a < Scalar.abs s.left.a then (s, r, t)
  else (r, s, t)

def pivotSecond (s t : AugmentedRow α) : AugmentedRow α × AugmentedRow α :=
  if Scalar.abs s.left.b < Scalar.abs t.left.b then (t, s) else (s, t)

/-- Solves a system in echelon form from the last unknown to the first. -/
def backSubstitute (r s t : AugmentedRow α) : Matrix3 α :=
  let z := t.right.divideBy t.left.c
  let y := (s.right.minus (z.scale s.left.c)).divideBy s.left.b
  let x := ((r.right.minus (y.scale r.left.b)).minus (z.scale r.left.c)).divideBy r.left.a
  ⟨x, y, z⟩

def inverse? (m : Matrix3 α) : Option (Matrix3 α) :=
  let one := identity (α := α)
  let (r, s, t) := pivotFirst ⟨m.top, one.top⟩ ⟨m.middle, one.middle⟩ ⟨m.bottom, one.bottom⟩
  if r.left.a == ofInt 0 then none
  else
    let (s, t) := pivotSecond (s.reduce (s.left.a / r.left.a) r) (t.reduce (t.left.a / r.left.a) r)
    if s.left.b == ofInt 0 then none
    else
      let t := t.reduce (t.left.b / s.left.b) s
      if t.left.c == ofInt 0 then none else some (backSubstitute r s t)

end Matrix3

end GeoRaster
