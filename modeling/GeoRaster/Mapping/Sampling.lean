import GeoRaster.Box
import GeoRaster.LineWalk
import GeoRaster.Logged

/-! Images of boxes. Where a map of the plane is linear, the image of a box is spanned by the
images of its corners. Elsewhere it is approximated from samples on the edges and on both
diagonals of the box; the diagonals meet singularities inside the box, such as a pole, that
the edges pass by. Samples without an image are left out. -/
namespace GeoRaster.Mapping

open Scalar (ofInt)

variable {α : Type} [Scalar α]

def defaultSamples : Int :=
  100

def range (start stop : Int) : List Int :=
  (List.range (stop - start).toNat).map fun (i : Nat) => start + i

def gridPoint (p : Int × Int) : Point α :=
  ⟨ofInt p.1, ofInt p.2⟩

/-- The pixels on the edges of a box that leaves out its last row and column, and on the
diagonals of the whole box. -/
def pixelSamples (x₀ y₀ x₁ y₁ : Int) : List (Int × Int) :=
  let xs := range x₀ x₁
  let ys := range (y₀ + 1) (y₁ - 1)
  xs.map (fun x => (x, y₀)) ++ xs.map (fun x => (x, y₁ - 1)) ++
    ys.map (fun y => (x₀, y)) ++ ys.map (fun y => (x₁ - 1, y)) ++
    LineWalk.diagonals x₀ y₀ x₁ y₁

def isOnGrid (n : Int) : Bool :=
  -9223372036854775808 ≤ n && n < 9223372036854775808

/-- The grid coordinates of two corners; they lose their fractions. -/
def gridCorners (x₀ y₀ x₁ y₁ : α) : Except Fault ((Int × Int) × (Int × Int)) := do
  let x₀ ← Box.wholePart x₀
  let y₀ ← Box.wholePart y₀
  let x₁ ← Box.wholePart x₁
  let y₁ ← Box.wholePart y₁
  if isOnGrid x₀ && isOnGrid y₀ && isOnGrid x₁ && isOnGrid y₁ then return ((x₀, y₀), (x₁, y₁))
  else throw .beyondGrid

def diagonalLines (x₀ y₀ x₁ y₁ : α) : Except Fault (List (Int × Int)) := do
  let (lower, upper) ← gridCorners x₀ y₀ x₁ y₁
  return LineWalk.diagonals lower.1 lower.2 upper.1 upper.2

/-- The pixel samples of a box; its bounds lose their fractions. -/
def boxPixels (b : Box α) : Except Fault (List (Int × Int)) := do
  let (lower, upper) ← gridCorners b.minX b.minY b.maxX b.maxY
  return pixelSamples lower.1 lower.2 upper.1 upper.2

/-- Evenly spaced points on each edge of a box, `count` on each, and the points of both
diagonals of a grid with `count` steps across the box. -/
def continuousSamples (b : Box α) (count : Int) : Except Fault (List (Point α)) :=
  if count < 1 then .error (.sampleCount count)
  else
    let stepX := b.width / ofInt count
    let stepY := b.height / ofInt count
    let xs := (range 0 count).map fun i => b.minX + ofInt i * stepX
    let ys := (range 0 count).map fun i => b.minY + ofInt i * stepY
    .ok (xs.map (fun x => ⟨x, b.minY⟩) ++ xs.map (fun x => ⟨x, b.maxY⟩) ++
      ys.map (fun y => ⟨b.minX, y⟩) ++ ys.map (fun y => ⟨b.maxX, y⟩) ++
      (LineWalk.diagonals 0 0 count count).map fun p =>
        ⟨ofInt p.1 * stepX + b.minX, ofInt p.2 * stepY + b.minY⟩)

def spanOf : List (Point α) → Except Fault (Box α)
  | [] => .ok .empty
  | p :: ps =>
    let least := ps.foldl (fun q r => ⟨Scalar.least q.x r.x, Scalar.least q.y r.y⟩) p
    let greatest := ps.foldl (fun q r => ⟨Scalar.greatest q.x r.x, Scalar.greatest q.y r.y⟩) p
    Box.ofBounds least.x least.y greatest.x greatest.y

/-- The box of the images of samples, each image put through a finishing map, with a note of
how many samples had none. -/
def boxOfImages (samples : List (Point α)) (f : Point α → Option (Point α))
    (finish : Point α → Point α) : Logged (Box α) := do
  let images := samples.filterMap f
  let box ← Logged.ofExcept (spanOf (images.map finish))
  let missing := samples.length - images.length
  if missing ≠ 0 then
    Logged.debug (Decimal.natText missing ++ " samples could not be transformed and were skipped")
  return box

def transformCorners (b : Box α) (f : Point α → Point α) : Box α :=
  match b with
  | .empty => .empty
  | b => Box.ofPoints (b.corners.map f)

/-- The box around the images of the pixels on the edges and diagonals of a pixel box. -/
def samplePixels (b : Box α) (f : Point α → Option (Point α))
    (finish : Point α → Point α := id) : Logged (Box α) :=
  if b.isEmpty || b.width == ofInt 0 || b.height == ofInt 0 then do
    Logged.warning ("Empty pixel box " ++ b.text ++ ", returning empty box")
    return .empty
  else do
    let pixels ← Logged.ofExcept (boxPixels b)
    boxOfImages (pixels.map gridPoint) f finish

/-- The box around the images of points on the edges and diagonals of a box, each sample put
through a preparing map and each image through a finishing map. -/
def sampleBox (b : Box α) (f : Point α → Option (Point α)) (count : Int)
    (prepare finish : Point α → Point α := id) : Logged (Box α) :=
  match b with
  | .empty => return .empty
  | b => do
    let samples ← Logged.ofExcept (continuousSamples b count)
    boxOfImages (samples.map prepare) f finish

end GeoRaster.Mapping
