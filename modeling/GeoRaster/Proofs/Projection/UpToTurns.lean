import GeoRaster.Proofs.Projection.Evaluation
import GeoRaster.Proofs.Projection.OverPlacement
import GeoRaster.Proofs.Projection.Setup

/-! Providers for which `+over` is a matter of whole turns. With and without the token they unproject the same
points, to longitudes that differ by whole turns, and project longitudes around the prime meridian
to the same points. Engines that such a provider sets up differ as little. Where there is no answer,
the reasons are the provider's own: they may be any two that go together, the same two or not. -/
namespace GeoRaster.Projection

open Scalar (radians degrees)

variable {α : Type}

section Evaluations

variable [ExactScalar α] (reasons : String → String → Prop)

/-- The same answer but for whole turns of the longitude, or none in both cases, for reasons that go
together. -/
inductive SameAngles : Evaluation α → Evaluation α → Prop
  | ok (angles : Point α) (n : ℤ) :
    SameAngles (.ok angles) (.ok ⟨angles.x + n * (2 * Scalar.pi), angles.y⟩)
  | error {reason other : String} : reasons reason other → SameAngles (.error reason) (.error other)

/-- Evaluators that agree on longitudes around the prime meridian, and up to whole turns the other way. -/
structure Evaluator.AgreesUpToTurns (e f : Evaluator α) : Prop where
  forward : ∀ angles : Point α, LonWindow.aroundZero.Holds (degrees angles.x) →
    e.forward angles = f.forward angles
  inverse : ∀ point, SameAngles reasons (e.inverse point) (f.inverse point)

/-- A provider whose evaluators agree up to turns if their strings have the same tokens but for `+over`. -/
def Provider.AgreesUpToTurns (provider : Provider α) : Prop :=
  ∀ s t, tokensButOver s = tokensButOver t → ∀ session other,
    (provider.configure s).result = .ok session → (provider.configure t).result = .ok other →
      session.evaluator.AgreesUpToTurns reasons other.evaluator

end Evaluations

theorem tokensButOver_overallString {s t : String} (same : tokensButOver s = tokensButOver t)
    (datum : Datum) :
    tokensButOver (overallString s datum) = tokensButOver (overallString t datum) := by
  simpa only [tokensButOver, overallString, tokenize_joinStrings, List.flatMap_cons,
    List.filter_append, List.append_cancel_right_eq] using same

namespace Engine

/-- An engine whose provider is set up from its own strings. -/
def Configured (e : Engine α) : Prop :=
  (e.provider.configure e.overall).result = .ok e.session

/-- Engines that one provider set up for one datum, from the same tokens but for `+over`. -/
structure AlikeButOver (e f : Engine α) : Prop where
  provider : e.provider = f.provider
  datum : e.datum = f.datum
  tokens : tokensButOver e.projection = tokensButOver f.projection
  configured : e.Configured
  other_configured : f.Configured

/-- Taking `+over` away leaves provider, datum and all other tokens. -/
theorem clearOver_alikeButOver {e cleared : Engine α} {changed : Bool} (configured : e.Configured)
    (ok : e.clearOver.result = .ok (cleared, changed)) :
    AlikeButOver e cleared ∧ hasToken cleared.projection overToken = false := by
  have stripped := hasToken_removeToken e.projection overToken
  unfold clearOver at ok
  by_cases same : removeToken e.projection overToken = e.projection
  · simp only [same, if_true, Logged.result_pure, Except.ok.injEq, Prod.mk.injEq] at ok
    obtain ⟨rfl, rfl⟩ := ok
    rw [same] at stripped
    exact ⟨⟨rfl, rfl, rfl, configured, configured⟩, stripped⟩
  · simp only [same, if_false, Logged.result_bind_eq_ok, install_ok_iff, Logged.result_pure,
      Except.ok.injEq, Prod.mk.injEq] at ok
    obtain ⟨_, ⟨session, set, rfl⟩, _, _, rfl, rfl⟩ := ok
    exact ⟨⟨rfl, rfl, (tokensButOver_removeToken _).symm, configured, set⟩, stripped⟩

theorem tryForward_eq [Scalar α] (e : Engine α) (lonLat : Point α) :
    e.tryForward lonLat = (e.forward lonLat).toOption := by
  unfold tryForward forward
  split
  · cases e.session.evaluator.forward (angles lonLat) <;> rfl
  · rfl

theorem tryInverse_eq [Scalar α] (e : Engine α) (point : Point α) :
    e.tryInverse point = (e.inverse point).toOption := by
  unfold tryInverse inverse
  split
  · cases e.session.evaluator.inverse point <;> rfl
  · rfl

variable [ExactScalar α] (reasons : String → String → Prop)

/-- The same longitude and latitude but for whole turns, or the same failure but for the reason. -/
inductive SameLonLat : Except Fault (Point α) → Except Fault (Point α) → Prop
  | ok (lonLat : Point α) (n : ℤ) : SameLonLat (.ok lonLat) (.ok ⟨lonLat.x + n * 360, lonLat.y⟩)
  | error {reason other : String} (place : String) : reasons reason other →
    SameLonLat (.error (.notEvaluable reason place)) (.error (.notEvaluable other place))

theorem SameLonLat.refl_ok (lonLat : Point α) : SameLonLat reasons (.ok lonLat) (.ok lonLat) := by
  have none := @SameLonLat.ok α _ reasons lonLat 0
  rwa [Int.cast_zero, zero_mul, add_zero] at none

/-- Engines that convert alike around the prime meridian, and up to whole turns the other way. -/
structure AgreesUpToTurns (e f : Engine α) : Prop where
  isProjected : e.isProjected = f.isProjected
  forward : ∀ lonLat : Point α, LonWindow.aroundZero.Holds lonLat.x → e.forward lonLat = f.forward lonLat
  inverse : ∀ point, SameLonLat reasons (e.inverse point) (f.inverse point)

variable {reasons}

theorem inverseAnswer_sameLonLat {answer other : Evaluation α} (same : SameAngles reasons answer other)
    (point : Point α) :
    SameLonLat reasons (inverseAnswer point answer) (inverseAnswer point other) := by
  cases same with
  | ok angles n =>
    simp only [inverseAnswer, Point.map, ExactScalar.degrees_add_turns]
    exact .ok ⟨degrees angles.x, degrees angles.y⟩ n
  | error related => exact .error _ related

/-- Whether `+over` is there or not makes no more difference to an engine than to its provider. -/
theorem AlikeButOver.agreesUpToTurns {e f : Engine α} (same : AlikeButOver e f)
    (agrees : e.provider.AgreesUpToTurns reasons) : e.AgreesUpToTurns reasons f := by
  have isProjected : e.isProjected = f.isProjected := by
    simp only [Engine.isProjected, isGeographic_congr same.tokens]
  have evaluators : e.session.evaluator.AgreesUpToTurns reasons f.session.evaluator := by
    have configured := same.other_configured
    unfold Configured overall at configured
    rw [← same.provider, ← same.datum] at configured
    exact agrees _ _ (tokensButOver_overallString same.tokens e.datum) _ _ same.configured configured
  refine ⟨isProjected, ?_, ?_⟩
  · intro lonLat holds
    unfold forward
    rw [isProjected, evaluators.forward]
    simpa only [angles, ExactScalar.degrees_radians] using holds
  · intro point
    unfold inverse
    rw [isProjected]
    split
    · exact inverseAnswer_sameLonLat (evaluators.inverse point) point
    · exact SameLonLat.refl_ok reasons point

end Engine

/-! ### The parabolic provider -/

namespace Parabolic

/-- Whether `+over` is there decides about wrapping, and about nothing else. -/
theorem ofString_congr_but_unwrapped [Scalar α] {s t : String}
    (same : tokensButOver s = tokensButOver t) :
    ((ofString (α := α) s).toOption.map fun c => { c with unwrapped := true }) =
      (ofString t).toOption.map fun c => { c with unwrapped := true } := by
  have finished : ∀ (refused : Bool) (c : Parabolic α) (f : Parabolic α → Parabolic α),
      (if refused = true then none else (pure c : Except Fault (Parabolic α)).toOption).map f =
        if refused = true then none else some (f c) := by
    intro refused c f
    cases refused <;> rfl
  have fails : hasToken s "+fail" = hasToken t "+fail" := hasToken_congr same (by decide)
  simp only [ofString, toOption_bind, parameter?_congr same, fails, toOption_guard,
    Option.map_bind, Function.comp_def, finished]

variable [ExactScalar α]

/-- Wrapping once takes off or adds a turn, or does nothing. -/
theorem exists_wrapOnce (lon : α) : ∃ n : ℤ, wrapOnce lon = lon + n * 360 := by
  unfold wrapOnce
  simp only [ExactScalar.ofInt_eq]
  push_cast
  split
  · split
    · exact ⟨0, by push_cast; ring⟩
    · exact ⟨-1, by push_cast; ring⟩
  · split
    · exact ⟨1, by push_cast; ring⟩
    · exact ⟨0, by push_cast; ring⟩

/-- A longitude as the provider gives it, wrapped once or not at all. -/
theorem exists_turns (unwrapped : Bool) (lon : α) :
    ∃ n : ℤ, (if unwrapped = true then lon else wrapOnce lon) = lon + n * 360 := by
  cases unwrapped with
  | true => exact ⟨0, by simp⟩
  | false => exact exists_wrapOnce lon

theorem agreesUpToTurns (c : Parabolic α) (unwrapped : Bool) :
    Evaluator.AgreesUpToTurns Eq ⟨c.forward, c.inverse⟩
      ⟨forward { c with unwrapped }, inverse { c with unwrapped }⟩ := by
  refine ⟨fun _ _ => rfl, fun point => ?_⟩
  simp only [inverse]
  split
  · exact .error rfl
  · split
    · exact .error rfl
    · generalize (point.x - c.falseEasting - c.q * ((point.y - c.falseNorthing) / c.k) *
        ((point.y - c.falseNorthing) / c.k)) / c.k + c.centralLongitude = lon
      obtain ⟨m, first⟩ := exists_turns c.unwrapped lon
      obtain ⟨n, second⟩ := exists_turns unwrapped lon
      have apart : lon + (n : α) * 360 = lon + m * 360 + ((n - m : ℤ) : α) * 360 := by
        push_cast
        ring
      rw [first, second, apart, ExactScalar.radians_add_turns (lon + m * 360)]
      exact .ok _ (n - m)

/-- With and without `+over`, the parabolic provider agrees with itself up to whole turns, and gives the same
reasons. -/
theorem provider_agreesUpToTurns : (provider (α := α)).AgreesUpToTurns Eq := by
  have read : ∀ {u session}, (provider.configure u).result = .ok session →
      ∃ c : Parabolic α, (ofString u).toOption = some c ∧ session.evaluator = ⟨c.forward, c.inverse⟩ := by
    intro u session configured
    simp only [provider, Logged.result_ofExcept] at configured
    cases ok : ofString (α := α) u with
    | error fault =>
      rw [ok] at configured
      contradiction
    | ok c =>
      rw [ok] at configured
      obtain rfl := Except.ok.inj configured
      exact ⟨c, rfl, rfl⟩
  intro s t same session other configured otherConfigured
  obtain ⟨c, readC, evaluator⟩ := read configured
  obtain ⟨d, readD, otherEvaluator⟩ := read otherConfigured
  have alike := ofString_congr_but_unwrapped (α := α) same
  rw [readC, readD, Option.map_some, Option.map_some, Option.some.injEq] at alike
  have other : d = { c with unwrapped := d.unwrapped } := by
    cases c
    cases d
    simp only [mk.injEq] at alike ⊢
    simp [alike]
  rw [evaluator, otherEvaluator, other]
  exact agreesUpToTurns c d.unwrapped

end Parabolic

end GeoRaster.Projection
