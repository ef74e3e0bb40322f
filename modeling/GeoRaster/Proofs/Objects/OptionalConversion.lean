import GeoRaster.Proofs.Objects.Conversion
import GeoRaster.Proofs.Objects.Reachable

/-! Optional conversions in memory, against those that fail where there is no value. The two kinds run
through the same evaluations, and differ in what they make of the answer alone. -/
namespace GeoRaster.Objects

open Projection (Engine)

variable {α β : Type} [Scalar α]

/-- Two runs, of which the first gives what the second one gives, and nothing where that fails because
the projection has no value. Any other failure is one of both. -/
inductive Pairs : Logged (Option β) × Memory α → Logged β × Memory α → Prop
  | value (log : List LogEntry) (b : β) (m : Memory α) :
    Pairs (⟨log, .ok (some b)⟩, m) (⟨log, .ok b⟩, m)
  | missing (log : List LogEntry) {fault : Fault} (math : fault.kind = .projectionMath)
    (m : Memory α) : Pairs (⟨log, .ok none⟩, m) (⟨log, .error fault⟩, m)
  | failure (log : List LogEntry) {fault : Fault} (other : fault.kind ≠ .projectionMath)
    (m : Memory α) : Pairs (⟨log, .error fault⟩, m) (⟨log, .error fault⟩, m)

/-- What pairing comes to for callers. -/
structure Agree (optional : Logged (Option β) × Memory α) (raising : Logged β × Memory α) : Prop where
  value : ∀ b, optional.1.result = .ok (some b) ↔ raising.1.result = .ok b
  missing : optional.1.result = .ok none ↔
    ∃ fault, raising.1.result = .error fault ∧ fault.kind = .projectionMath
  memory : optional.2 = raising.2

variable {optional : Logged (Option β) × Memory α} {raising : Logged β × Memory α} {m : Memory α}

theorem Pairs.agree (pairs : Pairs optional raising) : Agree optional raising := by
  cases pairs with
  | value log b m => exact ⟨fun c => by simp, by simp, rfl⟩
  | missing log math m => exact ⟨fun c => by simp, by simp [math], rfl⟩
  | failure log other m => exact ⟨fun c => by simp, by simp [other], rfl⟩

/-- Points that come in pairs do so after they have been wrapped. -/
theorem Pairs.wrapped {x : Action α (Option (Point α))} {y : Action α (Point α)}
    (pairs : Pairs (x m) (y m)) (a : Address) :
    Pairs ((x >>= fun lonLat => match lonLat with
        | none => pure none
        | some lonLat => Objects.wrapped a lonLat >>= fun lonLat => pure (some lonLat)) m)
      ((y >>= Objects.wrapped a) m) := by
  show Pairs (Action.andThen x _ m) (Action.andThen y _ m)
  unfold Action.andThen
  generalize x m = optional at pairs
  generalize y m = raising at pairs
  cases pairs with
  | value log lonLat m => exact .value (log ++ []) _ m
  | missing log math m =>
    show Pairs (⟨log ++ [], .ok none⟩, m) _
    rw [List.append_nil]
    exact .missing log math m
  | failure log other m => exact .failure log other m

theorem pairs_forward (e : Address) (lonLat : Point α) (m : Memory α) :
    Pairs (tryForward e lonLat m) (forward e lonLat m) := by
  unfold tryForward forward
  rw [Action.read_bind, Action.read_bind]
  split
  · show Pairs (Action.andThen _ _ m) (Action.andThen _ _ m)
    unfold Action.andThen
    rw [evaluate_run]
    cases (m.providerOf e).session with
    | none => exact .failure _ (by decide) _
    | some session =>
      cases answer : session.evaluator.forward (Engine.angles lonLat) with
      | ok point => simp only [answer]; exact .value _ _ _
      | error reason => simp only [answer]; exact .missing _ rfl _
  · exact .value _ _ _

theorem pairs_inverse (e : Address) (point : Point α) (m : Memory α) :
    Pairs (tryInverse e point m) (inverse e point m) := by
  rw [inverse_eq]
  unfold tryInverse
  rw [Action.read_bind, Action.read_bind]
  split
  · show Pairs (Action.andThen _ _ m) (Action.andThen _ _ m)
    unfold Action.andThen
    rw [evaluate_run]
    cases (m.providerOf e).session with
    | none => exact .failure _ (by decide) _
    | some session =>
      cases answer : session.evaluator.inverse point with
      | ok angles => simp only [answer]; exact .value _ _ _
      | error reason => simp only [answer]; exact .missing _ rfl _
  · exact .value _ _ _

theorem pairs_pointToLonLat (a : Address) (point : Point α) (m : Memory α) :
    Pairs (tryPointToLonLat a point m) (pointToLonLat a point m) :=
  (pairs_inverse (m.georeferences.object a).engine point m).wrapped a

theorem pairs_lonLatToPoint (a : Address) (lonLat : Point α) (m : Memory α) :
    Pairs (tryLonLatToPoint a lonLat m) (lonLatToPoint a lonLat m) := by
  unfold tryLonLatToPoint lonLatToPoint
  rw [wrapped_bind, wrapped_bind, engineAddress_bind, engineAddress_bind]
  rw [Action.bind_handedOn fun point => by cases point <;> rfl]
  exact pairs_forward _ _ m

theorem pairs_pixelToLonLat (a : Address) (pixel : Point α) (m : Memory α) :
    Pairs (tryPixelToLonLat a pixel m) (pixelToLonLat a pixel m) :=
  pairs_pointToLonLat a _ m

section Metric

variable {α : Type} [MetricScalar α]

/-- In every memory, whatever its engines and georeferences have come to: an optional conversion gives a
value exactly if the one that may fail gives it, and gives none exactly if that fails because the
projection has no value. No conversion, whether it succeeds or not, changes an engine or a
georeference, or what a provider is set up from. What is converted is converted as the values
that are shown. -/
theorem optional_conversions_agree (m : Memory α) :
    (∀ e lonLat, Agree (tryForward e lonLat m) (forward e lonLat m)) ∧
      (∀ e point, Agree (tryInverse e point m) (inverse e point m)) ∧
      (∀ a point, Agree (tryPointToLonLat a point m) (pointToLonLat a point m)) ∧
      (∀ a lonLat, Agree (tryLonLatToPoint a lonLat m) (lonLatToPoint a lonLat m)) ∧
      (∀ a pixel, Agree (tryPixelToLonLat a pixel m) (pixelToLonLat a pixel m)) ∧
      (∀ e p window, m.Undisturbed (forward e p m).2 ∧ m.Undisturbed (inverse e p m).2 ∧
        m.Undisturbed (inverseWrapped e window p m).2) ∧
      (∀ a c, m.Undisturbed (convert a c m).2) ∧
      (∀ e engine, m.ShowsEngine e engine → ∀ p,
        (forward e p m).1 = Logged.ofExcept (engine.forward p) ∧
        (tryForward e p m).1 = pure (engine.tryForward p) ∧
        (inverse e p m).1 = Logged.ofExcept (engine.inverse p) ∧
        (tryInverse e p m).1 = pure (engine.tryInverse p)) ∧
      ∀ a g, m.Shows a g → ∀ c, (convert a c m).1 = Given.ofConverted (g.convert c) := by
  refine ⟨?_, ?_, ?_, ?_, ?_, ?_, ?_, ?_, ?_⟩
  · exact fun e lonLat => (pairs_forward e lonLat m).agree
  · exact fun e point => (pairs_inverse e point m).agree
  · exact fun a point => (pairs_pointToLonLat a point m).agree
  · exact fun a lonLat => (pairs_lonLatToPoint a lonLat m).agree
  · exact fun a pixel => (pairs_pixelToLonLat a pixel m).agree
  · exact fun e p window => ⟨undisturbing_forward e p m, undisturbing_inverse e p m,
      undisturbing_inverseWrapped e window p m⟩
  · exact fun a c => undisturbing_convert a c m
  · intro e engine shows p
    exact ⟨logged_forward shows.reads p, logged_tryForward shows.reads p,
      logged_inverse shows.reads p, logged_tryInverse shows.reads p⟩
  · exact fun a g shows => logged_convert shows.reads

/-- A georeference whose projection has a disk for its image: a pixel within the disk, and one outside. -/
theorem optional_conversions_agree_on_disk :
    ∃ (m : Memory ℚ) (overridden : Address → Bool) (g : GeoReference ℚ), Reached m overridden ∧
      m.Shows 0 g ∧
      (tryPixelToLonLat 0 ⟨3, 4⟩ m).1.result = .ok (some ⟨-33 / 2, 9 / 2⟩) ∧
      (pixelToLonLat 0 ⟨3, 4⟩ m).1.result = .ok ⟨-33 / 2, 9 / 2⟩ ∧
      (tryPixelToLonLat 0 ⟨30, 40⟩ m).1.result = .ok none ∧
      (∃ fault, (pixelToLonLat 0 ⟨30, 40⟩ m).1.result = .error fault ∧
        fault.kind = .projectionMath) ∧
      m.Undisturbed (convert 0 (.reprojectionError ⟨30, 40⟩) m).2 ∧
      (convert 0 (.reprojectionError ⟨30, 40⟩) m).1 =
        Given.ofConverted (g.convert (.reprojectionError ⟨30, 40⟩)) ∧
      (forward 0 ⟨170, 10⟩ m).1 = Logged.ofExcept (g.engine.forward ⟨170, 10⟩) := by
  let call : Call ℚ :=
    .make Projection.Parabolic.provider { projection := some "+proj=sinu +lon_0=-20 +disk=10" }
  have one : (call.run Memory.vacant).2.georeferences.count = 1 ∧
      ((call.run Memory.vacant).2.georeferences.object 0).engine = 0 := by
    decide +kernel
  have inside : (pixelToLonLat 0 ⟨3, 4⟩ (call.run Memory.vacant).2).1.result =
      .ok ⟨-33 / 2, 9 / 2⟩ := by
    decide +kernel
  have outside : (tryPixelToLonLat 0 ⟨30, 40⟩ (call.run Memory.vacant).2).1.result = .ok none := by
    decide +kernel
  have start : Reached Memory.vacant fun _ => false := .start _ rfl
  have possible : call.isAboutOneOf Memory.vacant := trivial
  have reached : Reached (call.run Memory.vacant).2 _ := start.step possible
  generalize (call.run Memory.vacant).2 = m at one inside outside reached
  obtain ⟨g, shows, _⟩ := reached.ready 0 (one.1 ▸ Nat.zero_lt_one)
  obtain ⟨_, _, _, _, pixels, _, kept, engines, values⟩ := optional_conversions_agree m
  have converted := (engines _ _ shows.engine ⟨170, 10⟩).1
  rw [one.2] at converted
  exact ⟨m, _, g, reached, shows, ((pixels 0 _).value _).mpr inside, inside, outside,
    (pixels 0 _).missing.mp outside, kept 0 _, values 0 g shows _, converted⟩

end Metric

end GeoRaster.Objects
