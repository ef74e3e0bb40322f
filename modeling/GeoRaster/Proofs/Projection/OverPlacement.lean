import GeoRaster.Projection.Engine
import GeoRaster.Projection.Parabolic
import GeoRaster.Proofs.Projection.Tokens

/-! Providers that do not mind where and how often `+over` stands in a projection string. -/
namespace GeoRaster.Projection

variable {α : Type}

/-- A provider that reads a string by its tokens, and does not mind where and how often `+over`
stands among them: it takes or refuses two such strings alike, and evaluates alike. -/
def Provider.IgnoresOverPlacement (provider : Provider α) : Prop :=
  ∀ s t, SameButOver s t →
    (provider.configure s).result.toOption.map Session.evaluator =
      (provider.configure t).result.toOption.map Session.evaluator

theorem Provider.IgnoresOverPlacement.configure {provider : Provider α}
    (ignores : provider.IgnoresOverPlacement) {s t : String} (same : SameButOver s t)
    {session : Session α} (configured : (provider.configure s).result = .ok session) :
    ∃ other, (provider.configure t).result = .ok other ∧ other.evaluator = session.evaluator := by
  have alike := ignores s t same
  rw [configured] at alike
  cases taken : (provider.configure t).result with
  | error e =>
    rw [taken] at alike
    contradiction
  | ok other =>
    rw [taken] at alike
    exact ⟨other, rfl, (Option.some.inj alike).symm⟩

theorem SameButOver.overall {s t : String} (same : SameButOver s t) (datum : Datum) :
    SameButOver (overallString s datum) (overallString t datum) :=
  same.joinStrings [datum.tokens, "+no_defs"]

namespace Parabolic

variable [Scalar α]

theorem parameter?_congr {s t : String} (same : tokensButOver s = tokensButOver t) (key : String) :
    (parameter? (α := α) s key).toOption = (parameter? t key).toOption := by
  unfold parameter?
  rw [findValue_congr same, extractValue_congr same]
  split
  · rfl
  · split <;> rfl

omit [Scalar α] in
/-- A guard that refuses leaves nothing, whatever it would say. -/
theorem toOption_guard (refused : Bool) (fault : Fault) (x : Except Fault (Parabolic α)) :
    (if refused = true then do throw fault; x else x).toOption =
      if refused = true then none else x.toOption := by
  cases refused <;> rfl

theorem ofString_congr {s t : String} (same : SameButOver s t) :
    (ofString (α := α) s).toOption = (ofString t).toOption := by
  have fails : hasToken s "+fail" = hasToken t "+fail" := hasToken_congr same.tokens (by decide)
  simp only [ofString, toOption_bind, parameter?_congr same.tokens, fails, same.placement,
    toOption_guard]

/-- The parabolic provider is one of them. -/
theorem provider_ignoresOverPlacement : (provider (α := α)).IgnoresOverPlacement := by
  have taken : ∀ s, (provider.configure s).result.toOption.map Session.evaluator =
      (ofString (α := α) s).toOption.map fun c => ⟨c.forward, c.inverse⟩ := by
    intro s
    simp only [provider, Logged.result_ofExcept]
    cases ofString (α := α) s <;> rfl
  intro s t same
  rw [taken, taken, ofString_congr same]

/-- Whether a string asks for a zone of the universal transverse Mercator system with `+over` on the North
American datum of 1983. -/
def isUnwrappedZone (configuration : String) : Bool :=
  isUTM configuration && hasToken configuration overToken && hasToken configuration "+datum=NAD83"

/-- The parabolic provider, if it refused such zones. It sets up zones without `+over`, and on other
datums. -/
def guarded : Provider α where
  configure configuration :=
    if isUnwrappedZone configuration then
      Logged.ofExcept (.error (.rejected ("rejected: " ++ configuration)))
    else provider.configure configuration

omit [Scalar α] in
theorem isUnwrappedZone_congr {s t : String} (same : SameButOver s t) :
    isUnwrappedZone s = isUnwrappedZone t := by
  unfold isUnwrappedZone
  rw [isUTM_congr same.tokens, same.placement, hasToken_congr same.tokens (by decide)]

/-- What the guarded provider minds is whether `+over` is there, not where. -/
theorem guarded_ignoresOverPlacement : (guarded (α := α)).IgnoresOverPlacement := by
  intro s t same
  simp only [guarded, isUnwrappedZone_congr same]
  split
  · rfl
  · exact provider_ignoresOverPlacement s t same

end Parabolic

end GeoRaster.Projection
