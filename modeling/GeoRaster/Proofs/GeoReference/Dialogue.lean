import GeoRaster.GeoReference.Dialogue
import GeoRaster.Proofs.Projection.Dialogue

/-! Conversions in dialogues with providers. Every conversion comes to the same in a dialogue as it does
by itself. It asks what its engine asks about the points it starts from or samples, in their
order; a pixel that goes to longitude and latitude and back is asked about twice. -/
namespace GeoRaster

open Projection (Dialogue Engine Evaluator)

namespace Mapping

variable {α : Type} [Scalar α]

/-- The points at which a box is sampled, none if it is empty or the count is refused. -/
def samplesOf (b : Box α) (count : Int) : List (Point α) :=
  match b with
  | .empty => []
  | b => (continuousSamples b count).toOption.getD []

/-- The pixels at which a box is sampled, none if it has no extent or does not fit on the grid. -/
def pixelsOf (b : Box α) : List (Point α) :=
  if b.isEmpty || b.width == Scalar.ofInt 0 || b.height == Scalar.ofInt 0 then []
  else ((boxPixels b).toOption.getD []).map gridPoint

namespace InDialogue

variable (e : Evaluator α) (f : Point α → Dialogue α (Option (Point α))) (prepare finish : Point α → Point α)

theorem result_boxOfImages (samples : List (Point α)) :
    (boxOfImages samples f finish).result e =
      Mapping.boxOfImages samples (fun s => (f s).result e) finish := by
  simp only [boxOfImages, Dialogue.result_bind, Dialogue.result_pure, Dialogue.result_each,
    List.filterMap_map]
  rfl

theorem questions_boxOfImages (samples : List (Point α)) :
    (boxOfImages samples f finish).questions e = samples.flatMap fun s => (f s).questions e := by
  simp only [boxOfImages, Dialogue.questions_bind, Dialogue.questions_pure, Dialogue.questions_each,
    List.append_nil]

theorem result_samplePixels (b : Box α) :
    (samplePixels b f finish).result e =
      Mapping.samplePixels b (fun s => (f s).result e) finish := by
  unfold samplePixels Mapping.samplePixels
  split
  · rfl
  · cases boxPixels b with
    | error fault => rfl
    | ok pixels => exact result_boxOfImages e f finish _

theorem questions_samplePixels (b : Box α) :
    (samplePixels b f finish).questions e = (pixelsOf b).flatMap fun s => (f s).questions e := by
  unfold samplePixels pixelsOf
  split
  · rfl
  · cases boxPixels b with
    | error fault => rfl
    | ok pixels => exact questions_boxOfImages e f finish _

theorem result_sampleBox (b : Box α) (count : Int) :
    (sampleBox b f count prepare finish).result e =
      Mapping.sampleBox b (fun s => (f s).result e) count prepare finish := by
  unfold sampleBox Mapping.sampleBox
  cases b with
  | empty => rfl
  | span minX minY maxX maxY =>
    cases sampled : continuousSamples (.span minX minY maxX maxY) count with
    | error fault => simp only [sampled]; rfl
    | ok samples => simp only [sampled]; exact result_boxOfImages e f finish _

theorem questions_sampleBox (b : Box α) (count : Int) :
    (sampleBox b f count prepare finish).questions e =
      (samplesOf b count).flatMap fun s => (f (prepare s)).questions e := by
  unfold sampleBox samplesOf
  cases b with
  | empty => rfl
  | span minX minY maxX maxY =>
    cases sampled : continuousSamples (.span minX minY maxX maxY) count with
    | error fault => simp only [sampled]; rfl
    | ok samples =>
      simp only [sampled, questions_boxOfImages, List.flatMap_map]
      rfl

end InDialogue

end Mapping

namespace GeoReference

section Functions

variable {α : Type} [Scalar α] (g : GeoReference α)

namespace InDialogue

@[simp] theorem result_pointToLonLat (point : Point α) :
    (pointToLonLat g point).result g.engine.session.evaluator = g.pointToLonLat point := by
  simp [pointToLonLat, GeoReference.pointToLonLat]

@[simp] theorem result_lonLatToPoint (lonLat : Point α) :
    (lonLatToPoint g lonLat).result g.engine.session.evaluator = g.lonLatToPoint lonLat := by
  simp [lonLatToPoint, GeoReference.lonLatToPoint]

@[simp] theorem result_pixelToLonLat (pixel : Point α) :
    (pixelToLonLat g pixel).result g.engine.session.evaluator = g.pixelToLonLat pixel := by
  simp [pixelToLonLat, GeoReference.pixelToLonLat]

@[simp] theorem result_lonLatToPixel (lonLat : Point α) :
    (lonLatToPixel g lonLat).result g.engine.session.evaluator = g.lonLatToPixel lonLat := by
  simp [lonLatToPixel, GeoReference.lonLatToPixel]

@[simp] theorem result_tryPointToLonLat (point : Point α) :
    (tryPointToLonLat g point).result g.engine.session.evaluator = g.tryPointToLonLat point := by
  simp [tryPointToLonLat, GeoReference.tryPointToLonLat]

@[simp] theorem result_tryLonLatToPoint (lonLat : Point α) :
    (tryLonLatToPoint g lonLat).result g.engine.session.evaluator = g.tryLonLatToPoint lonLat := by
  simp [tryLonLatToPoint, GeoReference.tryLonLatToPoint]

@[simp] theorem result_tryPixelToLonLat (pixel : Point α) :
    (tryPixelToLonLat g pixel).result g.engine.session.evaluator = g.tryPixelToLonLat pixel := by
  simp [tryPixelToLonLat, GeoReference.tryPixelToLonLat]

@[simp] theorem result_pixelToLonLatBox (pixels : Box α) :
    (pixelToLonLatBox g pixels).result g.engine.session.evaluator = g.pixelToLonLatBox pixels := by
  unfold pixelToLonLatBox GeoReference.pixelToLonLatBox
  split
  · simp [Mapping.InDialogue.result_samplePixels]
  · rfl

@[simp] theorem result_lonLatToPointBox (lonLats : Box α) (count : Int) :
    (lonLatToPointBox g lonLats count).result g.engine.session.evaluator =
      g.lonLatToPointBox lonLats count := by
  unfold lonLatToPointBox GeoReference.lonLatToPointBox
  split
  · simp [Mapping.InDialogue.result_sampleBox]
  · rfl

@[simp] theorem result_pointToLonLatBox (points : Box α) (count : Int) :
    (pointToLonLatBox g points count).result g.engine.session.evaluator =
      g.pointToLonLatBox points count := by
  unfold pointToLonLatBox GeoReference.pointToLonLatBox
  split
  · simp [Mapping.InDialogue.result_sampleBox]
  · rfl

@[simp] theorem result_lonLatToPixelBox (lonLats : Box α) (count : Int) :
    (lonLatToPixelBox g lonLats count).result g.engine.session.evaluator =
      g.lonLatToPixelBox lonLats count := by
  unfold lonLatToPixelBox GeoReference.lonLatToPixelBox
  split
  · simp
  · rfl

variable (e : Evaluator α)

@[simp] theorem questions_pointToLonLat (point : Point α) :
    (pointToLonLat g point).questions e = g.engine.asks .inverse point := by
  simp [pointToLonLat]

@[simp] theorem questions_lonLatToPoint (lonLat : Point α) :
    (lonLatToPoint g lonLat).questions e = g.engine.asks .forward (g.wrapped lonLat) := by
  simp [lonLatToPoint]

@[simp] theorem questions_pixelToLonLat (pixel : Point α) :
    (pixelToLonLat g pixel).questions e = g.engine.asks .inverse (g.pixelToPoint pixel) := by
  simp [pixelToLonLat]

@[simp] theorem questions_lonLatToPixel (lonLat : Point α) :
    (lonLatToPixel g lonLat).questions e = g.engine.asks .forward (g.wrapped lonLat) := by
  simp [lonLatToPixel]

@[simp] theorem questions_tryPointToLonLat (point : Point α) :
    (tryPointToLonLat g point).questions e = g.engine.asks .inverse point := by
  simp [tryPointToLonLat]

@[simp] theorem questions_tryLonLatToPoint (lonLat : Point α) :
    (tryLonLatToPoint g lonLat).questions e = g.engine.asks .forward (g.wrapped lonLat) := by
  simp [tryLonLatToPoint]

@[simp] theorem questions_tryPixelToLonLat (pixel : Point α) :
    (tryPixelToLonLat g pixel).questions e = g.engine.asks .inverse (g.pixelToPoint pixel) := by
  simp [tryPixelToLonLat]

/-! Where coordinates stand for themselves nothing is sampled. The questions that would be put about
the samples are then none. -/

@[simp] theorem questions_pixelToLonLatBox (pixels : Box α) :
    (pixelToLonLatBox g pixels).questions e =
      (Mapping.pixelsOf pixels).flatMap fun s => g.engine.asks .inverse (g.pixelToPoint s) := by
  unfold pixelToLonLatBox
  cases projected : g.isProjected with
  | false => simp [Engine.asks_of_unprojected projected]
  | true => simp [Mapping.InDialogue.questions_samplePixels]

@[simp] theorem questions_lonLatToPointBox (lonLats : Box α) (count : Int) :
    (lonLatToPointBox g lonLats count).questions e =
      (Mapping.samplesOf lonLats count).flatMap fun s => g.engine.asks .forward (g.wrapped s) := by
  unfold lonLatToPointBox
  cases projected : g.isProjected with
  | false => simp [Engine.asks_of_unprojected projected]
  | true => simp [Mapping.InDialogue.questions_sampleBox]

@[simp] theorem questions_pointToLonLatBox (points : Box α) (count : Int) :
    (pointToLonLatBox g points count).questions e =
      (Mapping.samplesOf points count).flatMap fun s => g.engine.asks .inverse s := by
  unfold pointToLonLatBox
  cases projected : g.isProjected with
  | false => simp [Engine.asks_of_unprojected projected]
  | true => simp [Mapping.InDialogue.questions_sampleBox]

@[simp] theorem questions_lonLatToPixelBox (lonLats : Box α) (count : Int) :
    (lonLatToPixelBox g lonLats count).questions e =
      (Mapping.samplesOf lonLats count).flatMap fun s => g.engine.asks .forward (g.wrapped s) := by
  unfold lonLatToPixelBox
  cases projected : g.isProjected with
  | false => simp [Engine.asks_of_unprojected projected]
  | true => simp

end InDialogue

end Functions

section Conversions

variable {α : Type} [MetricScalar α] (g : GeoReference α)

@[simp] theorem InDialogue.result_reprojectionError (pixel : Point α) :
    (reprojectionError g pixel).result g.engine.session.evaluator = g.reprojectionError pixel := by
  unfold reprojectionError GeoReference.reprojectionError reprojectionOffset
  rw [Dialogue.result_bind, result_pixelToLonLat]
  cases g.pixelToLonLat pixel with
  | error fault => rfl
  | ok lonLat =>
    simp only [Dialogue.result_bind, Dialogue.result_pure, result_lonLatToPixel]
    show _ = ((g.lonLatToPixel lonLat).bind _).map _
    cases g.lonLatToPixel lonLat <;> rfl

/-- Only a pixel that has a longitude and latitude is asked about a second time. -/
@[simp] theorem InDialogue.questions_reprojectionError (pixel : Point α) :
    (reprojectionError g pixel).questions g.engine.session.evaluator =
      g.engine.asks .inverse (g.pixelToPoint pixel) ++
        (g.pixelToLonLat pixel).toOption.toList.flatMap fun lonLat =>
          g.engine.asks .forward (g.wrapped lonLat) := by
  unfold reprojectionError
  rw [Dialogue.questions_bind, questions_pixelToLonLat, result_pixelToLonLat]
  cases g.pixelToLonLat pixel with
  | error fault => simp [Except.toOption]
  | ok lonLat => simp [Except.toOption]

/-- The georeference with an evaluator in the place of its provider's. -/
def answeredBy (e : Evaluator α) : GeoReference α :=
  { g with engine := { g.engine with session := { g.engine.session with evaluator := e } } }

theorem result_converse (c : Conversion α) :
    (g.converse c).result g.engine.session.evaluator = g.convert c := by
  cases c <;> simp [converse, convert, pointToLonLatRaw]

/-- Whatever evaluator it is held with, a dialogue comes to what the conversion itself would with that
evaluator. -/
theorem result_converse_answeredBy (e : Evaluator α) (c : Conversion α) :
    (g.converse c).result e = (g.answeredBy e).convert c := by
  have same : g.converse c = (g.answeredBy e).converse c := by
    cases c <;> rfl
  rw [same]
  exact result_converse (g.answeredBy e) c

end Conversions

end GeoReference

end GeoRaster
