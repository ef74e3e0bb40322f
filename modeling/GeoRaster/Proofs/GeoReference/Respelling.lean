import GeoRaster.Proofs.GeoReference.Alike
import GeoRaster.Proofs.GeoReference.Build
import GeoRaster.Proofs.Projection.OverPlacement

/-! Building from another spelling of a projection. With a provider that does not mind where and how
often `+over` stands, two spellings of a projection lead to the same georeference, whichever
of them had `+over`; and one can be built whenever the other can, but for zones of the universal
transverse Mercator system, whose `+over` the provider is shown once before it is taken away. -/
namespace GeoRaster

namespace Mapping.WindowChoice

variable {α : Type} [Scalar α]

/-- The choice does not depend on `+over`, and for zones of the universal transverse Mercator
system not on the first pixel. -/
theorem choose_congr {s t : String} (same : Projection.tokensButOver s = Projection.tokensButOver t)
    {xScale : α} {start start' : Unit → Except Fault α}
    (asked : Projection.isUTM s = false → start () = start' ()) :
    choose s xScale start = choose t xScale start' := by
  unfold choose
  rw [← Projection.isUTM_congr same, ← Projection.isOrthographic_congr same,
    ← Projection.extractValue_congr same]
  cases utm : Projection.isUTM s with
  | true => rfl
  | false => rw [asked utm]

end Mapping.WindowChoice

namespace GeoReference

open Projection
open Mapping (WindowChoice)

variable {α : Type} [Scalar α]

/-- The same in every part of the state, the spelling of the projection apart. -/
structure SameState (g h : GeoReference α) : Prop where
  transform : g.affine.transform = h.affine.transform
  interpretation : g.affine.interpretation = h.affine.interpretation
  datum : g.datum = h.datum
  isProjected : g.isProjected = h.isProjected
  window : g.window = h.window
  tokens : tokensButOver g.projection = tokensButOver h.projection
  placement : hasToken g.projection overToken = hasToken h.projection overToken

theorem startLongitude_congr {affine : AffineTransform α} {e f : Engine α}
    (projected : e.isProjected = f.isProjected)
    (evaluator : e.session.evaluator = f.session.evaluator) :
    startLongitude affine e = startLongitude affine f := by
  simp only [startLongitude, Engine.inverse, projected, evaluator]

variable {provider : Provider α} {affine : AffineTransform α} {s t : String} {datum : Datum}
  {g h : GeoReference α}

/-- Two spellings of a projection that are both prepared and set up lead to one choice of
window. -/
theorem choose_respelled (affine : AffineTransform α) (ignores : provider.IgnoresOverPlacement)
    (same : tokensButOver s = tokensButOver t) {q q' : String} (prepared : Engine.prepared s = .ok q)
    (prepared' : Engine.prepared t = .ok q') {session session' : Session α}
    (configured : (provider.configure (overallString q datum)).result = .ok session)
    (configured' : (provider.configure (overallString q' datum)).result = .ok session') :
    WindowChoice.choose q affine.xScale
        (fun _ => startLongitude affine ⟨provider, session, none, q, datum⟩) =
      WindowChoice.choose q' affine.xScale
        (fun _ => startLongitude affine ⟨provider, session', none, q', datum⟩) := by
  have first := Engine.prepared_ok prepared
  have second := Engine.prepared_ok prepared'
  have tokens : tokensButOver q = tokensButOver q' :=
    first.tokens.trans (same.trans second.tokens.symm)
  refine WindowChoice.choose_congr tokens fun notUTM => ?_
  rw [isUTM_congr first.tokens] at notUTM
  have respelled := first.sameButOver second same fun utm => by simp [notUTM] at utm
  obtain ⟨other, found, evaluator⟩ := ignores.configure (respelled.overall datum) configured
  obtain rfl : other = session' := Except.ok.inj (found.symm.trans configured')
  refine startLongitude_congr ?_ evaluator.symm
  simp only [Engine.isProjected, isGeographic_congr tokens]

/-- What stays of two spellings of a projection in one window are two spellings again, or one. -/
theorem kept_respelled (same : tokensButOver s = tokensButOver t) {q q' : String}
    (prepared : Engine.prepared s = .ok q) (prepared' : Engine.prepared t = .ok q')
    {xScale : α} {start : Unit → Except Fault α} {choice : WindowChoice}
    (chosen : WindowChoice.choose q xScale start = .ok choice) :
    SameButOver (choice.kept q) (choice.kept q') := by
  have first := Engine.prepared_ok prepared
  have second := Engine.prepared_ok prepared'
  cases clears : choice.clearsOver with
  | true =>
    have tokens : tokensButOver q = tokensButOver q' :=
      first.tokens.trans (same.trans second.tokens.symm)
    simp only [WindowChoice.kept, clears, if_true, removeToken_congr tokens]
    exact .refl _
  | false =>
    have notUTM := WindowChoice.notUTM_of_stays chosen clears
    rw [isUTM_congr first.tokens] at notUTM
    simp only [WindowChoice.kept, clears, Bool.false_eq_true, if_false]
    exact first.sameButOver second same fun utm => by simp [notUTM] at utm

/-- Two spellings of a projection lead to georeferences in the same state that convert alike. -/
theorem Builds.respelled (ignores : provider.IgnoresOverPlacement)
    (same : tokensButOver s = tokensButOver t) (first : Builds provider affine s datum g)
    (second : Builds provider affine t datum h) : SameState g h ∧ Alike g h := by
  obtain ⟨prepared, configured, chosen, stays⟩ := first
  obtain ⟨prepared', configured', chosen', stays'⟩ := second
  have chose := choose_respelled affine ignores same prepared prepared' configured configured'
  obtain rfl := Except.ok.inj (chosen.symm.trans (chose.trans chosen'))
  have kept := kept_respelled same prepared prepared' chosen
  obtain ⟨other, found, evaluator⟩ := ignores.configure (kept.overall datum) stays
  obtain rfl := Except.ok.inj (found.symm.trans stays')
  have projected := congrArg (! ·) (isGeographic_congr kept.tokens)
  exact ⟨⟨rfl, rfl, rfl, projected, rfl, kept.tokens, kept.placement⟩,
    ⟨rfl, rfl, projected, evaluator.symm⟩⟩

/-- Where one spelling of a projection can be set up, another can as well; only a zone of the
universal transverse Mercator system that comes with `+over` has to be taken with it first. -/
theorem Builds.configure_respelled (ignores : provider.IgnoresOverPlacement)
    (same : tokensButOver s = tokensButOver t) (built : Builds provider affine s datum g)
    {q : String} (prepared : Engine.prepared t = .ok q)
    (taken : isUTM t = true → hasToken t overToken = true →
      ∃ session, (provider.configure (overallString (Text.trimmed t) datum)).result = .ok session) :
    ∃ session, (provider.configure (overallString q datum)).result = .ok session := by
  obtain @⟨p, session, final, choice, prepared', configured, chosen, stays⟩ := built
  have first := Engine.prepared_ok prepared'
  have second := Engine.prepared_ok prepared
  cases utm : isUTM t with
  | false =>
    -- both spellings are given `+over` if they lack it
    rw [← isUTM_congr same] at utm
    have respelled := first.sameButOver second same fun isUTM => by simp [utm] at isUTM
    obtain ⟨other, found, _⟩ := ignores.configure (respelled.overall datum) configured
    exact ⟨other, found⟩
  | true =>
    cases placed : hasToken t overToken with
    | true =>
      have trimmed := Engine.prepared_of_complete (Engine.named_of_prepared prepared)
        (by rw [placed, Bool.true_or])
      obtain rfl := Except.ok.inj (prepared.symm.trans trimmed)
      exact taken utm placed
    | false =>
      -- the other georeference has been set up without `+over` in the end
      rw [← isUTM_congr same, ← isUTM_congr first.tokens] at utm
      rw [WindowChoice.choose_utm utm] at chosen
      obtain rfl := Except.ok.inj chosen
      have respelled : SameButOver (removeToken p overToken) q := by
        refine ⟨?_, ?_⟩
        · rw [tokensButOver_removeToken, first.tokens, same, second.tokens]
        · rw [hasToken_removeToken, second.placement, placed, ← isUTM_congr same,
            ← isUTM_congr first.tokens, utm]
          rfl
      obtain ⟨other, found, _⟩ := ignores.configure (respelled.overall datum) stays
      exact ⟨other, found⟩

theorem Builds.exists_respelled (ignores : provider.IgnoresOverPlacement)
    (same : tokensButOver s = tokensButOver t) (built : Builds provider affine s datum g)
    (taken : isUTM t = true → hasToken t overToken = true →
      ∃ session, (provider.configure (overallString (Text.trimmed t) datum)).result = .ok session) :
    ∃ h, Builds provider affine t datum h := by
  have named : (projectionName t).isSome = true := by
    obtain ⟨prepared, _, _, _⟩ := built
    rw [← projectionName_congr same]
    exact Engine.named_of_prepared prepared
  obtain ⟨q, prepared⟩ := (Engine.exists_prepared_iff t).mpr named
  obtain ⟨session, configured⟩ := built.configure_respelled ignores same prepared taken
  obtain ⟨prepared', configured', chosen, stays⟩ := built
  have chose := choose_respelled affine ignores same prepared' prepared configured' configured
  have kept := kept_respelled same prepared' prepared chosen
  obtain ⟨final, stays', _⟩ := ignores.configure (kept.overall datum) stays
  exact ⟨_, .intro prepared configured (chose.symm.trans chosen) stays'⟩

end GeoReference

end GeoRaster
