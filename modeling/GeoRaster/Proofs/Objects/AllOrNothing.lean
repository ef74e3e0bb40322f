import GeoRaster.Scalar.Exact
import GeoRaster.Objects.Call
import GeoRaster.Projection.Parabolic
import GeoRaster.Proofs.Objects.GeoReference
import GeoRaster.Wkt.Described

/-! Calls do all or nothing. Whichever step of a call fails, and whatever has been made and written by
then, every object that was in use before the call is as it was: the new engine that has been
made, asked about the first pixel and perhaps set up a second time is nobody's. -/
namespace GeoRaster.Objects

open Projection (Console Provider Engine removeToken overToken)
open GeoRaster.Objects.Action (Tracks)

variable {α β γ : Type} [Scalar α] {m : Memory α}

namespace Memory

/-- All fields of an engine, those of its provider included. -/
structure EngineState (α : Type) where
  engine : EngineObject α
  provider : Console α

/-- All fields of a georeference, those of its engine and its provider included. -/
structure GeoReferenceState (α : Type) [Scalar α] where
  georeference : GeoReferenceObject α
  engine : EngineState α

/-- The state of an engine. -/
def engineState (m : Memory α) (e : Address) : EngineState α :=
  ⟨m.engines.object e, m.providerOf e⟩

/-- The state of a georeference. -/
def georeferenceState (m : Memory α) (a : Address) : GeoReferenceState α :=
  ⟨m.georeferences.object a, m.engineState (m.georeferences.object a).engine⟩

/-- An engine in use with a provider in use. -/
structure EngineInUse (m : Memory α) (e : Address) : Prop where
  engine : e < m.engines.count
  provider : (m.engines.object e).provider < m.providers.count

/-- A georeference in use with an engine in use. -/
structure InUse (m : Memory α) (a : Address) : Prop where
  georeference : a < m.georeferences.count
  engine : m.EngineInUse (m.georeferences.object a).engine

/-- A memory in which nothing that was in use has changed: not an object, and not a state. -/
structure Unchanged (m m' : Memory α) : Prop where
  kept : m.Keeps m'
  engines : ∀ e, m.EngineInUse e → m'.engineState e = m.engineState e
  georeferences : ∀ a, m.InUse a → m'.georeferenceState a = m.georeferenceState a

theorem Keeps.unchanged {m' : Memory α} (kept : m.Keeps m') : m.Unchanged m' := by
  have engines : ∀ e, m.EngineInUse e → m'.engineState e = m.engineState e := by
    intro e inUse
    unfold engineState providerOf
    rw [kept.engines.object e inUse.engine, kept.providers.object _ inUse.provider]
  refine ⟨kept, engines, fun a inUse => ?_⟩
  unfold georeferenceState
  rw [kept.georeferences, engines _ inUse.engine]

end Memory

/-- An action that changes nothing in use if it fails. -/
def Action.KeepsOnFailure (m : Memory α) (x : Action α β) : Prop :=
  ∀ fault, (x m).1.result = .error fault → m.Keeps (x m).2

namespace Action

theorem Tracks.keepsOnFailure {x : Action α β} {y : Logged γ} {good : β → γ → Memory α → Prop}
    (tracked : Tracks m good (x m) y) : KeepsOnFailure m x := by
  intro fault failed
  generalize x m = run at tracked failed
  cases tracked with
  | ok reached => contradiction
  | error kept => exact kept

theorem KeepsOnFailure.ofLogged_bind {y : Logged β} {f : β → Action α γ}
    (next : ∀ b, KeepsOnFailure m (f b)) : KeepsOnFailure m (ofLogged y >>= f) := by
  rcases y with ⟨log, result⟩
  cases result with
  | error fault => exact fun _ _ => .refl m
  | ok b => exact next b

theorem KeepsOnFailure.read_bind {f : Memory α → β} {k : β → Action α γ}
    (next : KeepsOnFailure m (k (f m))) : KeepsOnFailure m (read f >>= k) :=
  next

theorem KeepsOnFailure.done (b : β) : KeepsOnFailure m (pure b : Action α β) :=
  fun _ failed => nomatch failed

theorem KeepsOnFailure.wrote (f : Memory α → Memory α) : KeepsOnFailure m (write f) :=
  fun _ failed => nomatch failed

/-- What is added at the end and cannot fail makes no difference. -/
theorem KeepsOnFailure.bind_sure {x : Action α β} {f : β → Action α γ} (first : KeepsOnFailure m x)
    (sure : ∀ b m' fault, (f b m').1.result ≠ .error fault) : KeepsOnFailure m (x >>= f) := by
  intro fault failed
  have kept := first fault
  show m.Keeps (andThen x f m).2
  have failed' : (andThen x f m).1.result = .error fault := failed
  unfold andThen at failed' ⊢
  generalize x m = run at failed' kept ⊢
  rcases run with ⟨⟨log, result⟩, m'⟩
  cases result with
  | error other =>
    obtain rfl := Except.error.inj failed'
    exact kept rfl
  | ok b => exact absurd failed' (sure b m' fault)

end Action

open GeoRaster.Objects.Action (KeepsOnFailure)

theorem rebuild_keepsOnFailure (m : Memory α) (a : Address) (affine : AffineTransform α)
    (projection : String) (datum : Datum) : KeepsOnFailure m (rebuild a affine projection datum) :=
  (rebuild_tracks m a affine projection datum).keepsOnFailure

/-- Each change fails before anything is rebuilt or in rebuilding. -/
theorem change_keepsOnFailure (m : Memory α) (a : Address) (catalogue : Wkt.Catalogue)
    (c : GeoReference.Change α) : KeepsOnFailure m (change a catalogue c) := by
  unfold change
  refine .read_bind (.read_bind ?_)
  cases c with
  | transform array => exact .ofLogged_bind fun affine => rebuild_keepsOnFailure m a affine _ _
  | interpretation interpretation =>
    exact .ofLogged_bind fun affine => rebuild_keepsOnFailure m a affine _ _
  | datum datum => exact .ofLogged_bind fun datum => rebuild_keepsOnFailure m a _ _ datum
  | wellKnownDatum name =>
    refine .ofLogged_bind fun known => ?_
    exact .ofLogged_bind fun datum => rebuild_keepsOnFailure m a _ _ datum
  | projection projection => exact rebuild_keepsOnFailure m a _ projection _
  | named projection => exact rebuild_keepsOnFailure m a _ projection.string _
  | wkt text =>
    refine .ofLogged_bind fun imported => ?_
    exact .ofLogged_bind fun datum => rebuild_keepsOnFailure m a _ imported.2 datum
  | window window =>
    show KeepsOnFailure m (if Projection.isUTM (m.engineOf a).projection = true then pure ()
      else Action.write (·.updateGeoReference a fun o => { o with window }))
    split
    · exact .done ()
    · exact .wrote _

theorem reconfigure_keepsOnFailure (m : Memory α) (e : Address) (projection : String)
    (datum : Datum) : KeepsOnFailure m (reconfigure e projection datum) :=
  (reconfigure_tracks (.refl m) rfl projection datum).keepsOnFailure

theorem clearOver_keepsOnFailure (m : Memory α) (e : Address) :
    KeepsOnFailure m (clearOver (α := α) e) := by
  unfold clearOver
  refine .read_bind ?_
  dsimp only
  by_cases same : removeToken (m.engines.object e).projection overToken =
      (m.engines.object e).projection
  · rw [if_pos same]
    exact .done false
  · rw [if_neg same]
    have installed : KeepsOnFailure m (install e
        (removeToken (m.engines.object e).projection overToken) (m.engines.object e).datum) :=
      (install_tracks (.refl m) rfl _ _).keepsOnFailure
    exact installed.bind_sure fun _ _ _ failed => nomatch failed

theorem copyGeoReference_keepsOnFailure (m : Memory α) (a : Address) :
    KeepsOnFailure m (copyGeoReference (α := α) a) := by
  unfold copyGeoReference copyEngine
  refine .read_bind ?_
  have copied : KeepsOnFailure m (newInstalled (m.engineOf a).source (m.engineOf a).projection
      (m.engineOf a).datum) :=
    (newInstalled_tracks (.refl m) _ _ _).keepsOnFailure
  exact (KeepsOnFailure.read_bind copied).bind_sure fun _ _ _ failed => nomatch failed

theorem Call.keepsOnFailure (m : Memory α) (call : Call α) : KeepsOnFailure m call.run := by
  cases call with
  | make source spec => exact (newGeoReference_tracks m source spec).keepsOnFailure
  | change a catalogue c =>
    exact (change_keepsOnFailure m a catalogue c).bind_sure fun _ _ _ failed => nomatch failed
  | copy a => exact copyGeoReference_keepsOnFailure m a

/-- Calls do all or nothing, and so does setting up an engine alone, for every provider, whatever
strings it refuses and whatever points it cannot convert. -/
theorem all_or_nothing (m : Memory α) :
    (∀ (call : Call α) (fault : Fault), (call.run m).1.result = .error fault →
      m.Unchanged (call.run m).2) ∧
    (∀ (e : Address) (projection : String) (datum : Datum) (fault : Fault),
      (reconfigure e projection datum m).1.result = .error fault →
        m.Unchanged (reconfigure e projection datum m).2) ∧
    ∀ (e : Address) (fault : Fault), (clearOver e m).1.result = .error fault →
      m.Unchanged (clearOver e m).2 := by
  refine ⟨?_, ?_, ?_⟩
  · intro call fault failed
    exact (call.keepsOnFailure m fault failed).unchanged
  · intro e projection datum fault failed
    exact (reconfigure_keepsOnFailure m e projection datum fault failed).unchanged
  · intro e fault failed
    exact (clearOver_keepsOnFailure m e fault failed).unchanged

/-- A provider that refuses strings without `+over`. -/
def overOnly : Provider ℚ where
  configure s :=
    if Projection.hasToken s overToken then Projection.Parabolic.provider.configure s
    else Logged.ofExcept (.error (.rejected s))

/-- A memory with nothing in use. -/
def Memory.vacant : Memory ℚ where
  providers := ⟨0, fun _ => .idle overOnly⟩
  engines := ⟨0, fun _ => ⟨overOnly, 0, "", WellKnownDatum.wgs1984.datum, false⟩⟩
  georeferences := ⟨0, fun _ => ⟨⟨.identity, .identity, ⟨⟨1, 0, -1 / 2⟩, ⟨0, 1, -1 / 2⟩, ⟨0, 0, 1⟩⟩,
    .area, by decide +kernel, by decide +kernel⟩, 0, .aroundZero⟩⟩

/-- The last step that can fail does: the new engine has been set up with `+over`, its window has
been chosen, and the provider refuses the string without `+over`. -/
theorem all_or_nothing_past_choice :
    ∃ (m : Memory ℚ) (call : Call ℚ), m.georeferences.count = 1 ∧
      (call.run m).1.result = .error (.rejected
        "+proj=sinu +lon_0=-20 +ellps=WGS84 +datum=WGS84 +no_defs") ∧
      m.Unchanged (call.run m).2 := by
  have refused : ((Call.change 0 Wkt.Described.catalogue (.projection "+proj=sinu +lon_0=-20")).run
      (newGeoReference overOnly { projection := some "+proj=sinu" } Memory.vacant).2).1.result =
        .error (.rejected "+proj=sinu +lon_0=-20 +ellps=WGS84 +datum=WGS84 +no_defs") := by
    decide +kernel
  exact ⟨_, _, by decide +kernel, refused, (all_or_nothing _).1 _ _ refused⟩

end GeoRaster.Objects
