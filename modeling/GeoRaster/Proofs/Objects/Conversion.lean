import GeoRaster.Objects.Conversion
import GeoRaster.Proofs.Objects.Memory

/-! Conversions in memory. They leave every object as it is, but for what providers remember of their
last evaluations. Where engines and georeferences show values, they come to what these are
converted to. -/
namespace GeoRaster.Objects

open Projection (Engine Evaluation Evaluator)
open Mapping (transformCorners)

/-! ### What is left as it is -/

section Undisturbed

variable {α β γ : Type} [Scalar α] {m m' m'' : Memory α}

/-- Every object is as it was, but for what providers remember of their last evaluations. -/
structure Memory.Undisturbed (m m' : Memory α) : Prop where
  engines : m'.engines = m.engines
  georeferences : m'.georeferences = m.georeferences
  providerCount : m'.providers.count = m.providers.count
  source : ∀ p, (m'.providers.object p).provider = (m.providers.object p).provider
  session : ∀ p, (m'.providers.object p).session = (m.providers.object p).session

theorem Memory.Undisturbed.refl (m : Memory α) : m.Undisturbed m :=
  ⟨rfl, rfl, rfl, fun _ => rfl, fun _ => rfl⟩

theorem Memory.Undisturbed.trans (first : m.Undisturbed m') (second : m'.Undisturbed m'') :
    m.Undisturbed m'' where
  engines := second.engines.trans first.engines
  georeferences := second.georeferences.trans first.georeferences
  providerCount := second.providerCount.trans first.providerCount
  source p := (second.source p).trans (first.source p)
  session p := (second.session p).trans (first.session p)

theorem Memory.undisturbed_evaluated (m : Memory α) (p : Address) (answer : Evaluation α) :
    m.Undisturbed (m.updateProvider p fun _ => (m.providers.object p).afterwards answer) := by
  refine ⟨rfl, rfl, rfl, fun i => ?_, fun i => ?_⟩
  all_goals
    simp only [Memory.updateProvider, Arena.update]
    split
    · rename_i here
      rw [here]
      cases answer <;> rfl
    · rfl

namespace Action

/-- Work that leaves every object as it is, but for what providers remember of evaluations. -/
def Undisturbing (x : Action α β) : Prop :=
  ∀ m : Memory α, m.Undisturbed (x m).2

theorem undisturbing_ofLogged (x : Logged β) : (ofLogged x : Action α β).Undisturbing :=
  fun m => Memory.Undisturbed.refl m

theorem undisturbing_read (f : Memory α → β) : (read f).Undisturbing :=
  fun m => Memory.Undisturbed.refl m

theorem memory_bind (x : Action α β) (f : β → Action α γ) (m : Memory α) :
    ((x >>= f) m).2 = match (x m).1.result with
      | .ok b => (f b (x m).2).2
      | .error _ => (x m).2 := by
  show (andThen x f m).2 = _
  unfold andThen
  rcases x m with ⟨⟨log, result⟩, m'⟩
  cases result <;> rfl

theorem logged_bind (x : Action α β) (f : β → Action α γ) (m : Memory α) :
    ((x >>= f) m).1 = (x m).1 >>= fun b => (f b (x m).2).1 := by
  show (andThen x f m).1 = Logged.andThen _ _
  unfold andThen Logged.andThen
  rcases x m with ⟨⟨log, result⟩, m'⟩
  cases result <;> rfl

/-- Handing a result on as it is changes nothing. -/
theorem bind_handedOn {x : Action α β} {f : β → Action α β} (handedOn : ∀ b, f b = pure b)
    (m : Memory α) : (x >>= f) m = x m := by
  obtain rfl : f = pure := funext handedOn
  show andThen x pure m = x m
  unfold andThen
  rcases x m with ⟨⟨log, result⟩, m'⟩
  cases result with
  | error fault => rfl
  | ok b =>
    show ((⟨log ++ [], .ok b⟩, m') : Logged β × Memory α) = _
    rw [List.append_nil]

theorem ofExcept_bind (r : Except Fault β) (f : β → Action α γ) (m : Memory α) :
    ((ofExcept r >>= f) m).1 = Logged.ofExcept r >>= fun b => (f b m).1 :=
  logged_bind (ofExcept r) f m

theorem Undisturbing.bind {x : Action α β} {f : β → Action α γ} (first : x.Undisturbing)
    (next : ∀ b, (f b).Undisturbing) : (x >>= f).Undisturbing := by
  intro m
  rw [memory_bind]
  cases (x m).1.result with
  | ok b => exact (first m).trans (next b _)
  | error fault => exact first m

theorem Undisturbing.each {f : β → Action α γ} (step : ∀ b, (f b).Undisturbing) (bs : List β) :
    (each f bs).Undisturbing := by
  induction bs with
  | nil => exact undisturbing_ofLogged _
  | cons b rest ih => exact (step b).bind fun _ => ih.bind fun _ => undisturbing_ofLogged _

end Action

open GeoRaster.Objects.Action (Undisturbing undisturbing_ofLogged undisturbing_read)

/-- An evaluation is answered by the session, if there is one. -/
theorem evaluate_run (e : Address) (direction : Evaluator α → Point α → Evaluation α)
    (point : Point α) (m : Memory α) :
    evaluate e direction point m = match (m.providerOf e).session with
      | none => (Logged.ofExcept (.error .unconfigured), m)
      | some session =>
        (pure (direction session.evaluator point), m.updateProvider (m.engines.object e).provider
          fun _ => (m.providerOf e).afterwards (direction session.evaluator point)) := by
  unfold evaluate Action.ofExcept
  rw [Action.read_bind, Action.read_bind]
  unfold Projection.Console.evaluate Memory.providerOf
  cases (m.providers.object (m.engines.object e).provider).session <;> rfl

theorem undisturbing_evaluate (e : Address) (direction : Evaluator α → Point α → Evaluation α)
    (point : Point α) : (evaluate e direction point).Undisturbing := by
  intro m
  rw [evaluate_run]
  cases (m.providerOf e).session with
  | none => exact .refl m
  | some session => exact m.undisturbed_evaluated _ _

/-- The longitude and latitude are what is made of the provider's answer. -/
theorem inverse_eq (e : Address) (point : Point α) :
    inverse e point = (Action.read fun m => m.engines.object e) >>= fun engine =>
      if engine.isProjected then
        evaluate e (·.inverse) point >>= fun answer =>
          Action.ofExcept (Engine.inverseAnswer point answer)
      else pure point := by
  funext m
  unfold inverse
  rw [Action.read_bind, Action.read_bind]
  split
  · show _ = Action.andThen (evaluate e _ point) _ m
    unfold Action.andThen
    rw [evaluate_run, Action.read_bind]
    unfold Projection.Console.evaluate Memory.providerOf
    cases (m.providers.object (m.engines.object e).provider).session <;> rfl
  · rfl

section Engines

variable (e : Address)

theorem undisturbing_forward (lonLat : Point α) : (forward e lonLat).Undisturbing := by
  refine (undisturbing_read _).bind fun engine => ?_
  split
  · refine (undisturbing_evaluate e _ _).bind fun answer => ?_
    cases answer <;> exact undisturbing_ofLogged _
  · exact undisturbing_ofLogged _

theorem undisturbing_tryForward (lonLat : Point α) : (tryForward e lonLat).Undisturbing := by
  refine (undisturbing_read _).bind fun engine => ?_
  split
  · exact (undisturbing_evaluate e _ _).bind fun _ => undisturbing_ofLogged _
  · exact undisturbing_ofLogged _

theorem undisturbing_inverse (point : Point α) : (inverse e point).Undisturbing := by
  rw [inverse_eq]
  refine (undisturbing_read _).bind fun engine => ?_
  split
  · exact (undisturbing_evaluate e _ _).bind fun _ => undisturbing_ofLogged _
  · exact undisturbing_ofLogged _

theorem undisturbing_tryInverse (point : Point α) : (tryInverse e point).Undisturbing := by
  refine (undisturbing_read _).bind fun engine => ?_
  split
  · refine (undisturbing_evaluate e _ _).bind fun answer => ?_
    cases answer <;> exact undisturbing_ofLogged _
  · exact undisturbing_ofLogged _

theorem undisturbing_inverseWrapped (window : LonWindow) (point : Point α) :
    (inverseWrapped e window point).Undisturbing :=
  (undisturbing_inverse e point).bind fun _ => undisturbing_ofLogged _

end Engines

section Coordinates

variable (a : Address)

theorem engineAddress_bind (f : Address → Action α β) (m : Memory α) :
    (engineAddress a >>= f) m = f (m.georeferences.object a).engine m :=
  rfl

theorem wrapped_bind (lonLat : Point α) (f : Point α → Action α β) (m : Memory α) :
    (wrapped a lonLat >>= f) m =
      f ⟨Longitude.wrap (m.georeferences.object a).window lonLat.x, lonLat.y⟩ m :=
  rfl

theorem undisturbing_wrapped (lonLat : Point α) : (wrapped a lonLat).Undisturbing :=
  (undisturbing_read _).bind fun _ => undisturbing_ofLogged _

theorem undisturbing_pointToLonLat (point : Point α) : (pointToLonLat a point).Undisturbing :=
  (undisturbing_read _).bind fun e => (undisturbing_inverse e point).bind (undisturbing_wrapped a)

theorem undisturbing_lonLatToPoint (lonLat : Point α) : (lonLatToPoint a lonLat).Undisturbing :=
  (undisturbing_wrapped a lonLat).bind fun lonLat =>
    (undisturbing_read _).bind fun e => undisturbing_forward e lonLat

theorem undisturbing_pixelToLonLat (pixel : Point α) : (pixelToLonLat a pixel).Undisturbing :=
  (undisturbing_read _).bind (undisturbing_pointToLonLat a)

theorem undisturbing_lonLatToPixel (lonLat : Point α) : (lonLatToPixel a lonLat).Undisturbing :=
  (undisturbing_lonLatToPoint a lonLat).bind fun _ => undisturbing_read _

theorem undisturbing_tryPointToLonLat (point : Point α) :
    (tryPointToLonLat a point).Undisturbing := by
  refine (undisturbing_read _).bind fun e => (undisturbing_tryInverse e point).bind fun lonLat => ?_
  cases lonLat with
  | none => exact undisturbing_ofLogged _
  | some lonLat => exact (undisturbing_wrapped a lonLat).bind fun _ => undisturbing_ofLogged _

theorem undisturbing_tryLonLatToPoint (lonLat : Point α) :
    (tryLonLatToPoint a lonLat).Undisturbing := by
  refine (undisturbing_wrapped a lonLat).bind fun lonLat => (undisturbing_read _).bind fun e =>
    (undisturbing_tryForward e lonLat).bind fun point => ?_
  cases point <;> exact undisturbing_ofLogged _

end Coordinates

section Boxes

variable (a : Address) {f : Point α → Action α (Option (Point α))}
  {prepare finish : Point α → Action α (Point α)} (asks : ∀ p, (f p).Undisturbing)
  (prepares : ∀ p, (prepare p).Undisturbing) (finishes : ∀ p, (finish p).Undisturbing)

include asks finishes

theorem undisturbing_boxOfImages (samples : List (Point α)) :
    (boxOfImages samples f finish).Undisturbing := by
  refine (Undisturbing.each asks samples).bind fun images => ?_
  refine (Undisturbing.each finishes _).bind fun finished => ?_
  refine (undisturbing_ofLogged _).bind fun box => ?_
  dsimp only
  split
  · exact (undisturbing_ofLogged _).bind fun _ => undisturbing_ofLogged _
  · exact undisturbing_ofLogged _

theorem undisturbing_samplePixels (b : Box α) : (samplePixels b f finish).Undisturbing := by
  unfold samplePixels
  split
  · exact (undisturbing_ofLogged _).bind fun _ => undisturbing_ofLogged _
  · exact (undisturbing_ofLogged _).bind fun _ => undisturbing_boxOfImages asks finishes _

include prepares

theorem undisturbing_sampleBox (b : Box α) (count : Int) :
    (sampleBox b f count prepare finish).Undisturbing := by
  unfold sampleBox
  split
  · exact undisturbing_ofLogged _
  · exact (undisturbing_ofLogged _).bind fun samples =>
      (Undisturbing.each prepares samples).bind fun _ => undisturbing_boxOfImages asks finishes _

end Boxes

section Boxes

variable (a : Address)

theorem undisturbing_pointToPixelBox (points : Box α) : (pointToPixelBox a points).Undisturbing :=
  (undisturbing_read _).bind fun _ => undisturbing_ofLogged _

theorem undisturbing_pixelToLonLatBox (pixels : Box α) :
    (pixelToLonLatBox a pixels).Undisturbing := by
  refine (undisturbing_read _).bind fun projected => ?_
  split
  · refine undisturbing_samplePixels (fun pixel => ?_) (undisturbing_wrapped a) pixels
    exact (undisturbing_read _).bind fun e => (undisturbing_read _).bind (undisturbing_tryInverse e)
  · exact undisturbing_read _

theorem undisturbing_lonLatToPointBox (lonLats : Box α) (count : Int) :
    (lonLatToPointBox a lonLats count).Undisturbing := by
  refine (undisturbing_read _).bind fun projected => ?_
  split
  · exact (undisturbing_read _).bind fun e => undisturbing_sampleBox (undisturbing_tryForward e)
      (undisturbing_wrapped a) (fun _ => undisturbing_ofLogged _) lonLats count
  · exact undisturbing_ofLogged _

theorem undisturbing_pointToLonLatBox (points : Box α) (count : Int) :
    (pointToLonLatBox a points count).Undisturbing := by
  refine (undisturbing_read _).bind fun projected => ?_
  split
  · exact (undisturbing_read _).bind fun e => undisturbing_sampleBox (undisturbing_tryInverse e)
      (fun _ => undisturbing_ofLogged _) (undisturbing_wrapped a) points count
  · exact undisturbing_ofLogged _

theorem undisturbing_lonLatToPixelBox (lonLats : Box α) (count : Int) :
    (lonLatToPixelBox a lonLats count).Undisturbing := by
  refine (undisturbing_read _).bind fun projected => ?_
  split
  · exact (undisturbing_lonLatToPointBox a lonLats count).bind (undisturbing_pointToPixelBox a)
  · exact undisturbing_pointToPixelBox a lonLats

end Boxes

end Undisturbed

theorem undisturbing_reprojectionError {α : Type} [MetricScalar α] (a : Address) (pixel : Point α) :
    (reprojectionError a pixel).Undisturbing :=
  (undisturbing_pixelToLonLat a pixel).bind fun lonLat =>
    (undisturbing_lonLatToPixel a lonLat).bind fun _ => Action.undisturbing_ofLogged _

theorem undisturbing_convert {α : Type} [MetricScalar α] (a : Address) (c : Conversion α) :
    (convert a c).Undisturbing := by
  have given {β : Type} {x : Action α β} (undisturbing : x.Undisturbing) (f : β → Given α) :
      (x >>= fun b => pure (f b)).Undisturbing :=
    undisturbing.bind fun _ => Action.undisturbing_ofLogged _
  cases c with
  | pixelToPoint pixel => exact given (Action.undisturbing_read _) _
  | pointToPixel point => exact given (Action.undisturbing_read _) _
  | pointToLonLat point => exact given (undisturbing_pointToLonLat a point) _
  | pointToLonLatRaw point =>
    exact given ((Action.undisturbing_read _).bind fun e => undisturbing_inverse e point) _
  | lonLatToPoint lonLat => exact given (undisturbing_lonLatToPoint a lonLat) _
  | pixelToLonLat pixel => exact given (undisturbing_pixelToLonLat a pixel) _
  | lonLatToPixel lonLat => exact given (undisturbing_lonLatToPixel a lonLat) _
  | tryPointToLonLat point => exact given (undisturbing_tryPointToLonLat a point) _
  | tryLonLatToPoint lonLat => exact given (undisturbing_tryLonLatToPoint a lonLat) _
  | tryPixelToLonLat pixel =>
    exact given ((Action.undisturbing_read _).bind (undisturbing_tryPointToLonLat a)) _
  | reprojectionError pixel => exact given (undisturbing_reprojectionError a pixel) _
  | pixelToPointBox pixels => exact given (Action.undisturbing_read _) _
  | pointToPixelBox points => exact given (undisturbing_pointToPixelBox a points) _
  | pixelToLonLatBox pixels => exact given (undisturbing_pixelToLonLatBox a pixels) _
  | lonLatToPointBox lonLats count => exact given (undisturbing_lonLatToPointBox a lonLats count) _
  | pointToLonLatBox points count => exact given (undisturbing_pointToLonLatBox a points count) _
  | lonLatToPixelBox lonLats count => exact given (undisturbing_lonLatToPixelBox a lonLats count) _

/-! ### What conversions come to where values are shown -/

theorem Logged.map_ofExcept {β γ : Type} (f : β → γ) (r : Except Fault β) :
    (Logged.ofExcept r >>= fun b => pure (f b)) = Logged.ofExcept (r.map f) := by
  cases r <;> rfl

section Values

variable {α β γ : Type} [Scalar α] {m m' : Memory α}

/-- What conversions read of an engine and its provider. -/
structure Memory.ReadsEngine (m : Memory α) (e : Address) (engine : Engine α) : Prop where
  isProjected : (m.engines.object e).isProjected = engine.isProjected
  session : (m.providerOf e).session = some engine.session

/-- What conversions read of a georeference. -/
structure Memory.Reads (m : Memory α) (a : Address) (g : GeoReference α) : Prop where
  affine : (m.georeferences.object a).affine = g.affine
  window : (m.georeferences.object a).window = g.window
  engine : m.ReadsEngine (m.georeferences.object a).engine g.engine

theorem Memory.ShowsEngine.reads {e : Address} {engine : Engine α} (shows : m.ShowsEngine e engine) :
    m.ReadsEngine e engine :=
  ⟨shows.isProjected, by rw [shows.console]; rfl⟩

theorem Memory.Shows.reads {a : Address} {g : GeoReference α} (shows : m.Shows a g) : m.Reads a g :=
  ⟨shows.affine, shows.window, shows.engine.reads⟩

theorem Memory.ReadsEngine.undisturbed {e : Address} {engine : Engine α}
    (reads : m.ReadsEngine e engine) (kept : m.Undisturbed m') : m'.ReadsEngine e engine := by
  refine ⟨by rw [kept.engines]; exact reads.isProjected, ?_⟩
  unfold Memory.providerOf
  rw [kept.engines, kept.session]
  exact reads.session

theorem Memory.Reads.undisturbed {a : Address} {g : GeoReference α} (reads : m.Reads a g)
    (kept : m.Undisturbed m') : m'.Reads a g := by
  obtain ⟨affine, window, engine⟩ := reads
  rw [← kept.georeferences] at affine window engine
  exact ⟨affine, window, engine.undisturbed kept⟩

section Engines

variable {e : Address} {engine : Engine α} (reads : m.ReadsEngine e engine)
include reads

theorem logged_evaluate (direction : Evaluator α → Point α → Evaluation α) (point : Point α) :
    (evaluate e direction point m).1 = pure (direction engine.session.evaluator point) := by
  rw [evaluate_run, reads.session]

theorem logged_forward (lonLat : Point α) :
    (forward e lonLat m).1 = Logged.ofExcept (engine.forward lonLat) := by
  unfold forward Engine.forward
  rw [Action.read_bind, reads.isProjected]
  split
  · rw [Action.logged_bind, logged_evaluate reads, pure_bind]
    cases engine.session.evaluator.forward (Engine.angles lonLat) <;> rfl
  · rfl

theorem logged_tryForward (lonLat : Point α) :
    (tryForward e lonLat m).1 = pure (engine.tryForward lonLat) := by
  unfold tryForward Engine.tryForward
  rw [Action.read_bind, reads.isProjected]
  split
  · rw [Action.logged_bind, logged_evaluate reads, pure_bind]
    rfl
  · rfl

theorem logged_inverse (point : Point α) :
    (inverse e point m).1 = Logged.ofExcept (engine.inverse point) := by
  rw [inverse_eq]
  unfold Engine.inverse
  rw [Action.read_bind, reads.isProjected]
  split
  · rw [Action.logged_bind, logged_evaluate reads, pure_bind]
    rfl
  · rfl

theorem logged_tryInverse (point : Point α) :
    (tryInverse e point m).1 = pure (engine.tryInverse point) := by
  unfold tryInverse Engine.tryInverse
  rw [Action.read_bind, reads.isProjected]
  split
  · rw [Action.logged_bind, logged_evaluate reads, pure_bind]
    cases engine.session.evaluator.inverse point <;> rfl
  · rfl

end Engines

section Coordinates

variable {a : Address} {g : GeoReference α}

theorem logged_wrapped (reads : m.Reads a g) (lonLat : Point α) :
    (wrapped a lonLat m).1 = pure (g.wrapped lonLat) := by
  show pure (⟨Longitude.wrap (m.georeferences.object a).window lonLat.x, lonLat.y⟩ : Point α) = _
  rw [reads.window]
  rfl

theorem logged_pixelToPoint (reads : m.Reads a g) (pixel : Point α) :
    (pixelToPoint a pixel m).1 = pure (g.pixelToPoint pixel) := by
  show pure ((m.georeferences.object a).affine.pixelToPoint pixel) = _
  rw [reads.affine]
  rfl

theorem logged_pointToPixel (reads : m.Reads a g) (point : Point α) :
    (pointToPixel a point m).1 = pure (g.pointToPixel point) := by
  show pure ((m.georeferences.object a).affine.pointToPixel point) = _
  rw [reads.affine]
  rfl

/-- Wrapping comes after whatever leaves the georeference as it is. -/
theorem logged_thenWrapped (reads : m.Reads a g) {x : Action α (Point α)}
    (undisturbing : x.Undisturbing) {r : Except Fault (Point α)}
    (gives : (x m).1 = Logged.ofExcept r) :
    ((x >>= wrapped a) m).1 = Logged.ofExcept (r.map g.wrapped) := by
  have kept := reads.undisturbed (undisturbing m)
  simp only [Action.logged_bind, gives, logged_wrapped kept]
  exact Logged.map_ofExcept g.wrapped r

theorem logged_pointToLonLat (reads : m.Reads a g) (point : Point α) :
    (pointToLonLat a point m).1 = Logged.ofExcept (g.pointToLonLat point) :=
  logged_thenWrapped reads (undisturbing_inverse _ point) (logged_inverse reads.engine point)

theorem logged_lonLatToPoint (reads : m.Reads a g) (lonLat : Point α) :
    (lonLatToPoint a lonLat m).1 = Logged.ofExcept (g.lonLatToPoint lonLat) := by
  unfold lonLatToPoint
  rw [wrapped_bind, engineAddress_bind, reads.window]
  exact logged_forward reads.engine _

theorem logged_pixelToLonLat (reads : m.Reads a g) (pixel : Point α) :
    (pixelToLonLat a pixel m).1 = Logged.ofExcept (g.pixelToLonLat pixel) := by
  unfold pixelToLonLat
  rw [Action.logged_bind, logged_pixelToPoint reads, pure_bind]
  exact logged_pointToLonLat reads _

theorem logged_lonLatToPixel (reads : m.Reads a g) (lonLat : Point α) :
    (lonLatToPixel a lonLat m).1 = Logged.ofExcept (g.lonLatToPixel lonLat) := by
  have kept := reads.undisturbed (undisturbing_lonLatToPoint a lonLat m)
  unfold lonLatToPixel
  simp only [Action.logged_bind, logged_lonLatToPoint reads, logged_pointToPixel kept]
  exact Logged.map_ofExcept g.pointToPixel _

theorem logged_tryPointToLonLat (reads : m.Reads a g) (point : Point α) :
    (tryPointToLonLat a point m).1 = pure (g.tryPointToLonLat point) := by
  unfold tryPointToLonLat GeoReference.tryPointToLonLat
  rw [engineAddress_bind, Action.logged_bind, logged_tryInverse reads.engine, pure_bind]
  cases g.engine.tryInverse point with
  | none => rfl
  | some lonLat =>
    have kept := reads.undisturbed (undisturbing_tryInverse (m.georeferences.object a).engine point m)
    simp only [Action.logged_bind, logged_wrapped kept, pure_bind]
    rfl

theorem logged_tryLonLatToPoint (reads : m.Reads a g) (lonLat : Point α) :
    (tryLonLatToPoint a lonLat m).1 = pure (g.tryLonLatToPoint lonLat) := by
  unfold tryLonLatToPoint GeoReference.tryLonLatToPoint
  rw [wrapped_bind, engineAddress_bind, reads.window, Action.logged_bind,
    logged_tryForward reads.engine, pure_bind]
  show _ = pure (g.engine.tryForward ⟨Longitude.wrap g.window lonLat.x, lonLat.y⟩)
  cases g.engine.tryForward ⟨Longitude.wrap g.window lonLat.x, lonLat.y⟩ <;> rfl

theorem logged_tryPixelToLonLat (reads : m.Reads a g) (pixel : Point α) :
    (tryPixelToLonLat a pixel m).1 = pure (g.tryPixelToLonLat pixel) := by
  unfold tryPixelToLonLat
  rw [Action.logged_bind, logged_pixelToPoint reads, pure_bind]
  exact logged_tryPointToLonLat reads _

end Coordinates

section Boxes

variable {a : Address} {g : GeoReference α}

theorem logged_each {f : β → Action α γ} {h : β → γ} (undisturbing : ∀ b, (f b).Undisturbing)
    (gives : ∀ m', m.Undisturbed m' → ∀ b, (f b m').1 = pure (h b)) (bs : List β) :
    (Action.each f bs m).1 = pure (bs.map h) := by
  induction bs generalizing m with
  | nil => rfl
  | cons b rest ih =>
    have kept := undisturbing b m
    have later := ih fun m' further => gives m' (kept.trans further)
    unfold Action.each
    simp only [Action.logged_bind, gives m (.refl m), later, pure_bind]
    rfl

section Sampled

variable {f : Point α → Action α (Option (Point α))} {prepare finish : Point α → Action α (Point α)}
  {h : Point α → Option (Point α)} {prepared finished : Point α → Point α}
  (asks : ∀ p, (f p).Undisturbing) (prepares : ∀ p, (prepare p).Undisturbing)
  (finishes : ∀ p, (finish p).Undisturbing)
  (asked : ∀ m', m.Undisturbed m' → ∀ p, (f p m').1 = pure (h p))
  (isPrepared : ∀ m', m.Undisturbed m' → ∀ p, (prepare p m').1 = pure (prepared p))
  (isFinished : ∀ m', m.Undisturbed m' → ∀ p, (finish p m').1 = pure (finished p))

include asks finishes asked isFinished

theorem logged_boxOfImages (samples : List (Point α)) :
    (boxOfImages samples f finish m).1 = Mapping.boxOfImages samples h finished := by
  have kept := Action.Undisturbing.each asks samples m
  have finishedLater := logged_each finishes fun m' further => isFinished m' (kept.trans further)
  unfold boxOfImages Mapping.boxOfImages
  simp only [Action.logged_bind, logged_each asks asked, finishedLater, pure_bind,
    List.filterMap_map, Function.id_comp]
  refine congrArg _ (funext fun box => ?_)
  split
  · rw [Action.logged_bind]
    rfl
  · rfl

theorem logged_samplePixels (b : Box α) :
    (samplePixels b f finish m).1 = Mapping.samplePixels b h finished := by
  unfold samplePixels Mapping.samplePixels
  split
  · rfl
  · rw [Action.ofExcept_bind]
    exact congrArg _ (funext fun pixels => logged_boxOfImages asks finishes asked isFinished _)

include prepares isPrepared

theorem logged_sampleBox (b : Box α) (count : Int) :
    (sampleBox b f count prepare finish m).1 = Mapping.sampleBox b h count prepared finished := by
  unfold sampleBox Mapping.sampleBox
  cases b with
  | empty => rfl
  | span minX minY maxX maxY =>
    rw [Action.ofExcept_bind]
    refine congrArg _ (funext fun samples => ?_)
    have kept := Action.Undisturbing.each prepares samples m
    rw [Action.logged_bind, logged_each prepares isPrepared, pure_bind]
    exact logged_boxOfImages asks finishes (fun m' further => asked m' (kept.trans further))
      (fun m' further => isFinished m' (kept.trans further)) _

end Sampled

variable (reads : m.Reads a g)
include reads

theorem logged_pixelToPointBox (pixels : Box α) :
    (pixelToPointBox a pixels m).1 = pure (g.pixelToPointBox pixels) := by
  show pure (transformCorners pixels (m.georeferences.object a).affine.pixelToPoint) = _
  rw [reads.affine]
  rfl

theorem logged_pointToPixelBox (points : Box α) :
    (pointToPixelBox a points m).1 = Logged.ofExcept (g.pointToPixelBox points) := by
  unfold pointToPixelBox
  rw [Action.read_bind, reads.affine]
  rfl

theorem isProjected_bind (f : Bool → Action α β) : (isProjected a >>= f) m = f g.isProjected m := by
  show f (m.engines.object (m.georeferences.object a).engine).isProjected m = _
  rw [reads.engine.isProjected]
  rfl

theorem logged_pixelToLonLatBox (pixels : Box α) :
    (pixelToLonLatBox a pixels m).1 = g.pixelToLonLatBox pixels := by
  unfold pixelToLonLatBox GeoReference.pixelToLonLatBox
  rw [isProjected_bind reads]
  split
  · refine logged_samplePixels (fun pixel => ?_) (undisturbing_wrapped a) ?_ ?_ pixels
    · exact (Action.undisturbing_read _).bind fun e =>
        (Action.undisturbing_read _).bind (undisturbing_tryInverse e)
    · intro m' kept pixel
      have reads := reads.undisturbed kept
      rw [engineAddress_bind, Action.logged_bind, logged_pixelToPoint reads, pure_bind]
      exact logged_tryInverse reads.engine _
    · exact fun m' kept => logged_wrapped (reads.undisturbed kept)
  · exact logged_pixelToPointBox reads pixels

theorem logged_lonLatToPointBox (lonLats : Box α) (count : Int) :
    (lonLatToPointBox a lonLats count m).1 = g.lonLatToPointBox lonLats count := by
  unfold lonLatToPointBox GeoReference.lonLatToPointBox
  rw [isProjected_bind reads]
  split
  · rw [engineAddress_bind]
    exact logged_sampleBox (undisturbing_tryForward _) (undisturbing_wrapped a)
      (fun _ => Action.undisturbing_ofLogged _)
      (fun m' kept => logged_tryForward (reads.engine.undisturbed kept))
      (fun m' kept => logged_wrapped (reads.undisturbed kept)) (fun _ _ _ => rfl) lonLats count
  · rfl

theorem logged_pointToLonLatBox (points : Box α) (count : Int) :
    (pointToLonLatBox a points count m).1 = g.pointToLonLatBox points count := by
  unfold pointToLonLatBox GeoReference.pointToLonLatBox
  rw [isProjected_bind reads]
  split
  · rw [engineAddress_bind]
    exact logged_sampleBox (undisturbing_tryInverse _) (fun _ => Action.undisturbing_ofLogged _)
      (undisturbing_wrapped a) (fun m' kept => logged_tryInverse (reads.engine.undisturbed kept))
      (fun _ _ _ => rfl) (fun m' kept => logged_wrapped (reads.undisturbed kept)) points count
  · rfl

theorem logged_lonLatToPixelBox (lonLats : Box α) (count : Int) :
    (lonLatToPixelBox a lonLats count m).1 = g.lonLatToPixelBox lonLats count := by
  unfold lonLatToPixelBox GeoReference.lonLatToPixelBox
  rw [isProjected_bind reads]
  split
  · have kept := reads.undisturbed (undisturbing_lonLatToPointBox a lonLats count m)
    simp only [Action.logged_bind, logged_lonLatToPointBox reads, logged_pointToPixelBox kept]
  · exact logged_pointToPixelBox reads lonLats

end Boxes

end Values

section Conversions

variable {α : Type} [MetricScalar α] {m : Memory α} {a : Address} {g : GeoReference α}

theorem logged_reprojectionError (reads : m.Reads a g) (pixel : Point α) :
    (reprojectionError a pixel m).1 = Logged.ofExcept (g.reprojectionError pixel) := by
  have kept := reads.undisturbed (undisturbing_pixelToLonLat a pixel m)
  unfold reprojectionError GeoReference.reprojectionError GeoReference.reprojectionOffset
  simp only [Action.logged_bind, logged_pixelToLonLat reads, logged_lonLatToPixel kept]
  cases g.pixelToLonLat pixel with
  | error fault => rfl
  | ok lonLat =>
    show (Logged.ofExcept (g.lonLatToPixel lonLat) >>= _) = Logged.ofExcept (((g.lonLatToPixel lonLat).bind _).map _)
    cases g.lonLatToPixel lonLat <;> rfl

/-- What is converted in memory comes to what the value that is shown there is converted to. -/
theorem logged_convert (reads : m.Reads a g) (c : Conversion α) :
    (convert a c m).1 = Given.ofConverted (g.convert c) := by
  have given {β : Type} {x : Action α β} {y : Logged β} (comes : (x m).1 = y) (f : β → Given α) :
      ((x >>= fun b => pure (f b)) m).1 = f <$> y := by
    rw [Action.logged_bind, comes]
    exact bind_pure_comp f y
  cases c with
  | pixelToPoint pixel => exact given (logged_pixelToPoint reads pixel) _
  | pointToPixel point => exact given (logged_pointToPixel reads point) _
  | pointToLonLat point => exact given (logged_pointToLonLat reads point) _
  | pointToLonLatRaw point => exact given (logged_inverse reads.engine point) _
  | lonLatToPoint lonLat => exact given (logged_lonLatToPoint reads lonLat) _
  | pixelToLonLat pixel => exact given (logged_pixelToLonLat reads pixel) _
  | lonLatToPixel lonLat => exact given (logged_lonLatToPixel reads lonLat) _
  | tryPointToLonLat point => exact given (logged_tryPointToLonLat reads point) _
  | tryLonLatToPoint lonLat => exact given (logged_tryLonLatToPoint reads lonLat) _
  | tryPixelToLonLat pixel => exact given (logged_tryPixelToLonLat reads pixel) _
  | reprojectionError pixel => exact given (logged_reprojectionError reads pixel) _
  | pixelToPointBox pixels => exact given (logged_pixelToPointBox reads pixels) _
  | pointToPixelBox points => exact given (logged_pointToPixelBox reads points) _
  | pixelToLonLatBox pixels => exact given (logged_pixelToLonLatBox reads pixels) _
  | lonLatToPointBox lonLats count => exact given (logged_lonLatToPointBox reads lonLats count) _
  | pointToLonLatBox points count => exact given (logged_pointToLonLatBox reads points count) _
  | lonLatToPixelBox lonLats count => exact given (logged_lonLatToPixelBox reads lonLats count) _

end Conversions

end GeoRaster.Objects
