import GeoRaster.Matrix
import GeoRaster.Nested

/-! The relation between pixels and projected points: a matrix, the same matrix moved by half
a pixel, and the inverses of both. Which pair applies depends on whether a pixel stands
for the area it covers or for the point at its center. A transform exists only together
with both inverses. -/
namespace GeoRaster

inductive PixelInterpretation where
  /-- The area that the pixel covers; its corner lies at the transform's origin. -/
  | area
  /-- A point; the pixel's center lies at the transform's origin. -/
  | point
deriving DecidableEq, Repr

/-- A choice of interpretation as callers hand it over: one of the two, or something else,
kept in its quoted form. -/
inductive GivenInterpretation where
  | known (interpretation : PixelInterpretation)
  | other (quoted : String)
deriving DecidableEq, Repr

namespace PixelInterpretation

def name : PixelInterpretation → String
  | area => "PixelInterpretation.PixelAsArea"
  | point => "PixelInterpretation.PixelAsPoint"

def phrase : PixelInterpretation → String
  | area => "pixel as area"
  | point => "pixel as point"

end PixelInterpretation

structure AffineTransform (α : Type) [Scalar α] where
  /-- From pixels to projected points, a pixel standing for a point. -/
  transform : Matrix3 α
  inverse : Matrix3 α
  inverseShifted : Matrix3 α
  interpretation : PixelInterpretation
  inverse_eq : transform.inverse? = some inverse
  inverseShifted_eq : transform.halfShift.inverse? = some inverseShifted

namespace AffineTransform

variable {α : Type} [Scalar α]

def matrixOf (array : Nested α) : Except Fault (Matrix3 α) :=
  match array.extents? with
  | none => .error .raggedMatrix
  | some extents =>
    match (if extents = [3, 3] then Matrix3.ofList? array.leaves else none) with
    | none => .error (.transformShape extents)
    | some m => .ok m

/-- The inverse of a matrix with the fact that it is one; a fault names the matrix. -/
def invert (kind : TransformKind) (m : Matrix3 α) :
    Except Fault { inverse : Matrix3 α // m.inverse? = some inverse } :=
  match m.inverse? with
  | none => .error (.notInvertible kind m.text)
  | some inverse =>
    if inverse.isFinite then .ok ⟨inverse, rfl⟩ else .error (.numericallySingular kind m.text)

/-- The transform with a given matrix, which must be finite and invertible before and after
the move by half a pixel. -/
def ofMatrix (m : Matrix3 α) (interpretation : GivenInterpretation) :
    Except Fault (AffineTransform α) := do
  if !m.isFinite then throw (.transformNotFinite m.text)
  match interpretation with
  | .other quoted => throw (.unknownInterpretation quoted)
  | .known interpretation =>
    let inverse ← invert .given m
    let inverseShifted ← invert .shifted m.halfShift
    return ⟨m, inverse.1, inverseShifted.1, interpretation, inverse.2, inverseShifted.2⟩

def make (array : Option (Nested α)) (interpretation : GivenInterpretation) :
    Except Fault (AffineTransform α) := do
  let m ← match array with
    | none => pure Matrix3.identity
    | some array => matrixOf array
  ofMatrix m interpretation

def shifted (t : AffineTransform α) : Matrix3 α :=
  t.transform.halfShift

def native (t : AffineTransform α) : Matrix3 α :=
  match t.interpretation with
  | .area => t.shifted
  | .point => t.transform

def nativeInverse (t : AffineTransform α) : Matrix3 α :=
  match t.interpretation with
  | .area => t.inverseShifted
  | .point => t.inverse

/-- The first entry of the matrix, positive if points move to greater x along a row. -/
def xScale (t : AffineTransform α) : α :=
  t.transform.top.a

def withTransform (t : AffineTransform α) (array : Option (Nested α)) :
    Except Fault (AffineTransform α) :=
  make array (.known t.interpretation)

def withInterpretation (t : AffineTransform α) (interpretation : GivenInterpretation) :
    Except Fault (AffineTransform α) :=
  ofMatrix t.transform interpretation

def pixelToPoint (t : AffineTransform α) (pixel : Point α) : Point α :=
  t.native.apply pixel

def pointToPixel (t : AffineTransform α) (point : Point α) : Point α :=
  t.nativeInverse.apply point

def same (t u : AffineTransform α) : Bool :=
  t.interpretation == u.interpretation && t.transform == u.transform

def text (t : AffineTransform α) : String :=
  "AffineTransform(" ++ t.transform.text ++ ", " ++ t.interpretation.name ++ ")"

end AffineTransform

end GeoRaster
