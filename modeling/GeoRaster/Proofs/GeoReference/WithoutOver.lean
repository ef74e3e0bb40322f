import GeoRaster.Proofs.Mapping.Sampling
import GeoRaster.Proofs.Projection.UpToTurns
import GeoRaster.GeoReference.BoxConversion
import GeoRaster.Proofs.GeoReference.Sound
import GeoRaster.Wkt.Described

/-! Around the prime meridian `+over` makes no difference. Longitudes are wrapped before they are projected
and after points are unprojected; so whole turns that the provider takes without the token are not
to be seen in any conversion but the one that does not wrap. -/
namespace GeoRaster

open Projection

/-- The same value or the same failure; instead of the provider's reason for having no value there may be
one that goes together with it. -/
inductive SameButReason (reasons : String → String → Prop) {β : Type} :
    Except Fault β → Except Fault β → Prop
  | same (answer : Except Fault β) : SameButReason reasons answer answer
  | reason {reason other : String} (place : String) : reasons reason other →
    SameButReason reasons (.error (.notEvaluable reason place)) (.error (.notEvaluable other place))

namespace SameButReason

variable {reasons : String → String → Prop} {β γ : Type}

theorem toOption_eq {x y : Except Fault β} (alike : SameButReason reasons x y) :
    x.toOption = y.toOption := by
  cases alike <;> rfl

/-- Where the reasons are the same, nothing is left to differ. -/
theorem eq {x y : Except Fault β} (alike : SameButReason Eq x y) : x = y := by
  cases alike with
  | same => rfl
  | reason place related => rw [related]

theorem bind (x : Except Fault β) {f f' : β → Except Fault γ}
    (alike : ∀ b, SameButReason reasons (f b) (f' b)) :
    SameButReason reasons (x >>= f) (x >>= f') := by
  cases x with
  | error fault => exact .same _
  | ok b => exact alike b

end SameButReason

namespace GeoReference

variable {α : Type}

/-- The georeference with another engine, everything else being kept. -/
def withEngine [Scalar α] (g : GeoReference α) (e : Engine α) : GeoReference α :=
  { g with engine := e }

theorem engine_setWindow [Scalar α] (g : GeoReference α) (window : LonWindow) :
    (g.setWindow window).engine = g.engine := by
  unfold setWindow
  split <;> rfl

section Coordinates

variable [Scalar α] (g : GeoReference α)

theorem tryPointToLonLat_eq (point : Point α) :
    g.tryPointToLonLat point = (g.pointToLonLat point).toOption := by
  unfold tryPointToLonLat pointToLonLat
  rw [Engine.tryInverse_eq]
  cases g.engine.inverse point <;> rfl

theorem tryLonLatToPoint_eq (lonLat : Point α) :
    g.tryLonLatToPoint lonLat = (g.lonLatToPoint lonLat).toOption :=
  Engine.tryForward_eq g.engine _

/-- With a projection, the first two numbers of a coordinate are converted. -/
theorem pointToLonLatOf_of_projected (projected : g.isProjected = true) (coordinate : List α) :
    g.pointToLonLatOf coordinate = Point.ofLeading coordinate >>= g.pointToLonLat := by
  have engine : g.engine.isProjected = true := projected
  unfold pointToLonLatOf Engine.inverseOf
  rw [if_pos engine]
  cases Point.ofLeading coordinate with
  | error fault => rfl
  | ok point =>
    simp only [bind, Except.bind, pointToLonLat]
    cases g.engine.inverse point <;> rfl

theorem tryPointToLonLatOf_of_projected (projected : g.isProjected = true) (coordinate : List α) :
    g.tryPointToLonLatOf coordinate =
      Point.ofLeading coordinate >>= fun point => .ok (g.tryPointToLonLat point) := by
  have engine : g.engine.isProjected = true := projected
  unfold tryPointToLonLatOf Engine.tryInverseOf
  rw [if_pos engine]
  cases Point.ofLeading coordinate with
  | error fault => rfl
  | ok point =>
    simp only [bind, Except.bind, tryPointToLonLat]
    cases g.engine.tryInverse point <;> rfl

/-- Without a projection, a coordinate has to be a pair, which is only wrapped. -/
theorem pointToLonLatOf_of_unprojected (unprojected : g.isProjected = false) (coordinate : List α) :
    g.pointToLonLatOf coordinate = Point.ofPair coordinate >>= fun point => .ok (g.wrapped point) := by
  have engine : g.engine.isProjected = false := unprojected
  unfold pointToLonLatOf Engine.inverseOf
  rw [engine]
  rfl

theorem tryPointToLonLatOf_of_unprojected (unprojected : g.isProjected = false) (coordinate : List α) :
    g.tryPointToLonLatOf coordinate =
      Point.ofPair coordinate >>= fun point => .ok (some (g.wrapped point)) := by
  have engine : g.engine.isProjected = false := unprojected
  unfold tryPointToLonLatOf Engine.tryInverseOf
  rw [engine]
  rfl

end Coordinates

variable [ExactScalar α] {reasons : String → String → Prop}

/-- Every conversion that wraps longitudes gives the same, boxes with their log of samples without image
among them. The one that does not may differ by whole turns of the longitude. -/
structure ConvertsAlikeButRaw (reasons : String → String → Prop) (g h : GeoReference α) : Prop where
  pointToLonLat : ∀ point, SameButReason reasons (g.pointToLonLat point) (h.pointToLonLat point)
  pixelToLonLat : ∀ pixel, SameButReason reasons (g.pixelToLonLat pixel) (h.pixelToLonLat pixel)
  pointToLonLatOf : ∀ coordinate,
    SameButReason reasons (g.pointToLonLatOf coordinate) (h.pointToLonLatOf coordinate)
  lonLatToPoint : g.lonLatToPoint = h.lonLatToPoint
  lonLatToPixel : g.lonLatToPixel = h.lonLatToPixel
  tryPointToLonLat : g.tryPointToLonLat = h.tryPointToLonLat
  tryPixelToLonLat : g.tryPixelToLonLat = h.tryPixelToLonLat
  tryPointToLonLatOf : g.tryPointToLonLatOf = h.tryPointToLonLatOf
  tryLonLatToPoint : g.tryLonLatToPoint = h.tryLonLatToPoint
  pixelToPointBox : g.pixelToPointBox = h.pixelToPointBox
  pointToPixelBox : g.pointToPixelBox = h.pointToPixelBox
  pixelToLonLatBox : g.pixelToLonLatBox = h.pixelToLonLatBox
  lonLatToPointBox : g.lonLatToPointBox = h.lonLatToPointBox
  pointToLonLatBox : g.pointToLonLatBox = h.pointToLonLatBox
  lonLatToPixelBox : g.lonLatToPixelBox = h.lonLatToPixelBox
  pointToLonLatRaw : ∀ point,
    Engine.SameLonLat reasons (g.pointToLonLatRaw point) (h.pointToLonLatRaw point)

/-- Wrapping takes off the turns that two longitudes differ by. -/
theorem wrapped_sameLonLat (g : GeoReference α) {x y : Except Fault (Point α)}
    (same : Engine.SameLonLat reasons x y) :
    SameButReason reasons (x.map g.wrapped) (y.map g.wrapped) := by
  cases same with
  | ok lonLat n =>
    have wrapped : g.wrapped ⟨lonLat.x + n * 360, lonLat.y⟩ = g.wrapped lonLat := by
      simp only [GeoReference.wrapped, Longitude.wrap_add_turns]
    simp only [Except.map, wrapped]
    exact .same _
  | error place related => exact .reason place related

section Turned

variable {g : GeoReference α} {e : Engine α} (agrees : g.engine.AgreesUpToTurns reasons e)
include agrees

theorem pointToLonLat_withEngine (point : Point α) :
    SameButReason reasons (g.pointToLonLat point) ((g.withEngine e).pointToLonLat point) :=
  g.wrapped_sameLonLat (agrees.inverse point)

theorem tryPointToLonLat_withEngine : g.tryPointToLonLat = (g.withEngine e).tryPointToLonLat := by
  funext point
  rw [tryPointToLonLat_eq, tryPointToLonLat_eq]
  exact (pointToLonLat_withEngine agrees point).toOption_eq

theorem lonLatToPoint_withEngine (aroundZero : g.window = .aroundZero) :
    g.lonLatToPoint = (g.withEngine e).lonLatToPoint := by
  funext lonLat
  apply agrees.forward
  rw [← aroundZero]
  exact Longitude.wrap_holds g.window lonLat.x

theorem tryLonLatToPoint_withEngine (aroundZero : g.window = .aroundZero) :
    g.tryLonLatToPoint = (g.withEngine e).tryLonLatToPoint := by
  funext lonLat
  rw [tryLonLatToPoint_eq, tryLonLatToPoint_eq, lonLatToPoint_withEngine agrees aroundZero]

theorem isProjected_withEngine : (g.withEngine e).isProjected = g.isProjected :=
  agrees.isProjected.symm

theorem pointToLonLatOf_withEngine (coordinate : List α) :
    SameButReason reasons (g.pointToLonLatOf coordinate)
      ((g.withEngine e).pointToLonLatOf coordinate) := by
  have same := isProjected_withEngine agrees
  cases projected : g.isProjected with
  | true =>
    rw [pointToLonLatOf_of_projected _ projected, pointToLonLatOf_of_projected _ (same.trans projected)]
    exact .bind _ (pointToLonLat_withEngine agrees)
  | false =>
    rw [pointToLonLatOf_of_unprojected _ projected,
      pointToLonLatOf_of_unprojected _ (same.trans projected)]
    exact .same _

theorem tryPointToLonLatOf_withEngine : g.tryPointToLonLatOf = (g.withEngine e).tryPointToLonLatOf := by
  have same := isProjected_withEngine agrees
  funext coordinate
  cases projected : g.isProjected with
  | true =>
    rw [tryPointToLonLatOf_of_projected _ projected,
      tryPointToLonLatOf_of_projected _ (same.trans projected), tryPointToLonLat_withEngine agrees]
  | false =>
    rw [tryPointToLonLatOf_of_unprojected _ projected,
      tryPointToLonLatOf_of_unprojected _ (same.trans projected)]
    rfl

theorem lonLatToPointBox_withEngine (aroundZero : g.window = .aroundZero) :
    g.lonLatToPointBox = (g.withEngine e).lonLatToPointBox := by
  have images := congrFun (tryLonLatToPoint_withEngine agrees aroundZero)
  funext b count
  unfold lonLatToPointBox
  rw [isProjected_withEngine agrees]
  split
  · apply Mapping.sampleBox_congr
    intro lonLat
    exact congrArg _ (images lonLat)
  · rfl

/-- Engines that agree up to turns convert alike around the prime meridian. -/
theorem convertsAlike_withEngine (aroundZero : g.window = .aroundZero) :
    ConvertsAlikeButRaw reasons g (g.withEngine e) where
  pointToLonLat := pointToLonLat_withEngine agrees
  pixelToLonLat pixel := pointToLonLat_withEngine agrees (g.pixelToPoint pixel)
  pointToLonLatOf := pointToLonLatOf_withEngine agrees
  lonLatToPoint := lonLatToPoint_withEngine agrees aroundZero
  lonLatToPixel := by
    unfold lonLatToPixel
    rw [lonLatToPoint_withEngine agrees aroundZero]
    rfl
  tryPointToLonLat := tryPointToLonLat_withEngine agrees
  tryPixelToLonLat := by
    unfold tryPixelToLonLat
    rw [tryPointToLonLat_withEngine agrees]
    rfl
  tryPointToLonLatOf := tryPointToLonLatOf_withEngine agrees
  tryLonLatToPoint := tryLonLatToPoint_withEngine agrees aroundZero
  pixelToPointBox := rfl
  pointToPixelBox := rfl
  pixelToLonLatBox := by
    funext b
    unfold pixelToLonLatBox
    rw [isProjected_withEngine agrees]
    split
    · apply Mapping.samplePixels_congr
      intro pixel
      exact congrFun (tryPointToLonLat_withEngine agrees) (g.pixelToPoint pixel)
    · rfl
  lonLatToPointBox := lonLatToPointBox_withEngine agrees aroundZero
  pointToLonLatBox := by
    funext b count
    unfold pointToLonLatBox
    rw [isProjected_withEngine agrees]
    split
    · apply Mapping.sampleBox_congr
      exact congrFun (tryPointToLonLat_withEngine agrees)
    · rfl
  lonLatToPixelBox := by
    unfold lonLatToPixelBox
    rw [isProjected_withEngine agrees, lonLatToPointBox_withEngine agrees aroundZero]
    rfl
  pointToLonLatRaw := agrees.inverse

end Turned

/-- Around the prime meridian, `+over` is not to be seen but in longitudes that are not wrapped, if the
provider is one for which it is a matter of whole turns: neither where it is taken away from the engine,
nor where the engine is set up in any other way from the same tokens. Failures come with the reasons that
the provider gives, which are the same where the provider gives the same. -/
theorem Reachable.over_unobservable {g : GeoReference α} (reachable : Reachable g)
    (aroundZero : g.window = .aroundZero) (agrees : g.engine.provider.AgreesUpToTurns reasons) :
    (∀ e changed, g.engine.clearOver.result = .ok (e, changed) →
      hasToken e.projection overToken = false ∧ ConvertsAlikeButRaw reasons g (g.withEngine e)) ∧
    ∀ e : Engine α, e.provider = g.engine.provider → e.datum = g.datum →
      tokensButOver e.projection = tokensButOver g.projection → e.Configured →
        ConvertsAlikeButRaw reasons g (g.withEngine e) := by
  obtain ⟨overridden, sound⟩ := reachable.sound
  have configured : g.engine.Configured := sound.configured
  constructor
  · intro e changed cleared
    obtain ⟨alike, without⟩ := Engine.clearOver_alikeButOver configured cleared
    exact ⟨without, convertsAlike_withEngine (alike.agreesUpToTurns agrees) aroundZero⟩
  · intro e provider datum tokens other
    have alike : g.engine.AlikeButOver e := ⟨provider.symm, datum.symm, tokens.symm, configured, other⟩
    exact convertsAlike_withEngine (alike.agreesUpToTurns agrees) aroundZero

/-- A window that is overridden leaves `+over` where it is; once the token is cleared, the provider wraps. -/
theorem over_unobservable_after_override :
    ∃ (first g : GeoReference ℚ) (e : Engine ℚ),
      (make Parabolic.provider { projection := some "+proj=sinu +q=2" }).result = .ok first ∧
      first.setWindow .aroundZero = g ∧ hasToken g.projection overToken = true ∧
      g.engine.clearOver.result = .ok (e, true) ∧ hasToken e.projection overToken = false ∧
      g.pointToLonLatRaw ⟨200, 3⟩ = .ok ⟨182, 3⟩ ∧
      (g.withEngine e).pointToLonLatRaw ⟨200, 3⟩ = .ok ⟨-178, 3⟩ ∧
      g.pointToLonLat = (g.withEngine e).pointToLonLat ∧
      ConvertsAlikeButRaw Eq g (g.withEngine e) := by
  let converts (g : GeoReference ℚ) (lonLat : Point ℚ) : Bool :=
    (g.pointToLonLatRaw ⟨200, 3⟩).toOption.any fun raw => decide (raw = lonLat)
  let check (g : GeoReference ℚ) : Bool :=
    decide (g.window = .aroundZero) && hasToken g.projection overToken && converts g ⟨182, 3⟩ &&
      g.engine.clearOver.result.toOption.any fun cleared =>
        cleared.2 && converts (g.withEngine cleared.1) ⟨-178, 3⟩
  have runs : ((make (α := ℚ) Parabolic.provider
      { projection := some "+proj=sinu +q=2" }).result.toOption.any fun first =>
        check (first.setWindow .aroundZero)) = true := by
    decide +kernel
  obtain ⟨first, made, checked⟩ := exists_of_toOption_any runs
  have converted : ∀ {h lonLat}, converts h lonLat = true →
      h.pointToLonLatRaw ⟨200, 3⟩ = .ok lonLat := by
    intro h lonLat found
    obtain ⟨raw, ok, same⟩ := exists_of_toOption_any found
    rw [ok, of_decide_eq_true same]
  simp only [check, Bool.and_eq_true, decide_eq_true_eq] at checked
  obtain ⟨⟨⟨aroundZero, placed⟩, before⟩, cleared⟩ := checked
  obtain ⟨⟨e, changed⟩, cleared, after⟩ := exists_of_toOption_any cleared
  obtain ⟨rfl, after⟩ := Bool.and_eq_true_iff.mp after
  have overridden : (first.change Wkt.Described.catalogue (.window .aroundZero)).result =
      .ok (first.setWindow .aroundZero) := rfl
  have reachable : Reachable (first.setWindow .aroundZero) := .changed (.made made) overridden
  have agrees : (first.setWindow .aroundZero).engine.provider.AgreesUpToTurns Eq := by
    obtain ⟨_, _, _, _, built⟩ := make_ok_iff.mp made
    rw [engine_setWindow, built.provider_eq]
    exact Parabolic.provider_agreesUpToTurns
  obtain ⟨without, alike⟩ := (reachable.over_unobservable aroundZero agrees).1 e true cleared
  have same := funext fun point => (alike.pointToLonLat point).eq
  exact ⟨first, _, e, made, rfl, placed, cleared, without, converted before, converted after, same, alike⟩

end GeoReference

end GeoRaster
