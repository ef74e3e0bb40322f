import GeoRaster.Proofs.Objects.AllOrNothing
import GeoRaster.Proofs.GeoReference.Sound

/-! What holds in every memory that calls lead to, however many of them fail. Each georeference shows
a value whose parts fit together; a call that succeeds makes or changes one georeference, and
leaves the others with the values they showed. -/
namespace GeoRaster.Objects

open Projection (Provider overallString overToken projectionName geographicNames hasToken isUTM)
open GeoReference (Sound)
open GeoRaster.Objects.Action (Tracks)

variable {α : Type} [Scalar α]

/-- Whether the window of the georeference that a call makes or changes is overridden then. -/
def Call.leavesOverridden (overridden : Address → Bool) : Call α → Bool
  | .make .. => false
  | .change _ _ c => c.choosesWindow
  | .copy a => overridden a

/-- Which windows are overridden after a call. -/
def Call.overriddenAfter (call : Call α) (m : Memory α) (overridden : Address → Bool) :
    Address → Bool :=
  match (call.run m).1.result with
  | .ok a => fun i => if i = a then call.leavesOverridden overridden else overridden i
  | .error _ => overridden

/-- The memories that calls lead to from one without georeferences, and which windows have been
overridden since their georeferences were last made or changed otherwise. -/
inductive Reached : Memory α → (Address → Bool) → Prop where
  | start {m : Memory α} (overridden : Address → Bool) (vacant : m.georeferences.count = 0) :
      Reached m overridden
  | step {m : Memory α} {overridden : Address → Bool} {call : Call α}
      (reached : Reached m overridden) (possible : call.isAboutOneOf m) :
      Reached (call.run m).2 (call.overriddenAfter m overridden)

/-- Every georeference shows a value whose parts fit together. -/
def Memory.Ready (m : Memory α) (overridden : Address → Bool) : Prop :=
  ∀ a < m.georeferences.count, ∃ g, m.Shows a g ∧ Sound (overridden a) g

variable {m : Memory α} {overridden : Address → Bool}

/-- But for the georeference that has been given a value, those in use were so before. -/
theorem Memory.Becomes.older {m' : Memory α} {a i : Address} {g : GeoReference α}
    (becomes : m.Becomes a g m') (inUse : i < m'.georeferences.count) (other : i ≠ a) :
    i < m.georeferences.count := by
  rw [becomes.count] at inUse
  rcases Nat.lt_or_ge i m.georeferences.count with older | newer
  · exact older
  · have last : i < a + 1 := (lt_max_iff.mp inUse).resolve_left (Nat.not_lt.mpr newer)
    have before : i < a := Nat.lt_of_le_of_ne (Nat.le_of_lt_succ last) other
    exact Nat.lt_of_lt_of_le before becomes.inLine

theorem Memory.Ready.of_keeps {m' : Memory α} (ready : m.Ready overridden) (kept : m.Keeps m') :
    m'.Ready overridden := by
  intro i inUse
  rw [kept.georeferences] at inUse
  obtain ⟨g, shows, sound⟩ := ready i inUse
  exact ⟨g, shows.of_keeps kept, sound⟩

theorem Memory.Ready.becomes {m' : Memory α} {a : Address} {g : GeoReference α} {choice : Bool}
    (ready : m.Ready overridden) (becomes : m.Becomes a g m') (sound : Sound choice g) :
    m'.Ready fun i => if i = a then choice else overridden i := by
  intro i inUse
  by_cases same : i = a
  · subst same
    simp only [if_true]
    exact ⟨g, becomes.shows, sound⟩
  · simp only [same, if_false]
    obtain ⟨h, shows, sound⟩ := ready i (becomes.older inUse same)
    exact ⟨h, becomes.kept.shows same shows, sound⟩

namespace Call

/-- Whether a call is to change a georeference. -/
def Changes : Call α → Address → Prop
  | .change a _ _, i => i = a
  | _, _ => False

/-- What can come of a call: it fails and keeps the memory, what it has made by then being nobody's, or
it gives a fitting value to the georeference that it is to change or to a new one. -/
inductive Comes (m : Memory α) (overridden : Address → Bool) (call : Call α) :
    Logged Address × Memory α → Prop
  | refused {log : List LogEntry} {fault : Fault} {m' : Memory α} (kept : m.Keeps m') :
    Comes m overridden call (⟨log, .error fault⟩, m')
  | carriedOut {log : List LogEntry} {a : Address} {g : GeoReference α} {m' : Memory α}
    (becomes : m.Becomes a g m') (sound : Sound (call.leavesOverridden overridden) g)
    (subject : call.Changes a ∨ a = m.georeferences.count) :
    Comes m overridden call (⟨log, .ok a⟩, m')

theorem comes_of_tracks {call : Call α} {y : Logged (GeoReference α)}
    (tracked : Tracks m (fun a g m' => (call.Changes a ∨ a = m.georeferences.count) ∧ m.Becomes a g m')
      (call.run m) y)
    (sound : ∀ g, y.result = .ok g → Sound (call.leavesOverridden overridden) g) :
    call.Comes m overridden (call.run m) := by
  generalize call.run m = run at tracked ⊢
  cases tracked with
  | error kept => exact .refused kept
  | ok reached => exact .carriedOut reached.2 (sound _ rfl) reached.1

theorem comes (call : Call α) (possible : call.isAboutOneOf m) (ready : m.Ready overridden) :
    call.Comes m overridden (call.run m) := by
  cases call with
  | make source spec =>
    refine comes_of_tracks ((newGeoReference_tracks m source spec).weaken ?_) ?_
    · rintro a g m' ⟨fresh, becomes⟩
      exact ⟨.inr fresh, becomes⟩
    · exact fun g made => GeoReference.make_sound made
  | change a catalogue c =>
    obtain ⟨g, shows, sound⟩ := ready a possible
    have tracked : Tracks m (fun b g' m' =>
        ((Call.change a catalogue c).Changes b ∨ b = m.georeferences.count) ∧ m.Becomes b g' m')
        ((Call.change a catalogue c).run m) (g.change catalogue c >>= pure) :=
      (change_tracks shows catalogue c).bind fun _ _ _ becomes => .ok ⟨.inl rfl, becomes⟩
    rw [bind_pure] at tracked
    exact comes_of_tracks tracked fun g' changed => sound.change changed
  | copy a =>
    obtain ⟨g, shows, sound⟩ := ready a possible
    refine comes_of_tracks ((copyGeoReference_tracks shows).weaken ?_) ?_
    · rintro a g m' ⟨fresh, becomes⟩
      exact ⟨.inr fresh, becomes⟩
    · exact fun g' copied => sound.copy copied

theorem ready (call : Call α) (possible : call.isAboutOneOf m) (ready : m.Ready overridden) :
    (call.run m).2.Ready (call.overriddenAfter m overridden) := by
  have comes := call.comes possible ready
  unfold overriddenAfter
  generalize call.run m = run at comes ⊢
  cases comes with
  | refused kept => exact ready.of_keeps kept
  | carriedOut becomes sound _ => exact ready.becomes becomes sound

end Call

theorem Reached.ready (reached : Reached m overridden) : m.Ready overridden := by
  induction reached with
  | start overridden vacant =>
    intro a inUse
    rw [vacant] at inUse
    contradiction
  | step reached possible ready => exact Call.ready _ possible ready

/-- The fields of a georeference, its engine and its provider fit together: the provider is set up
from the string that projection and datum amount to now; the string names a projection and
decides whether points are projected; zones of the universal transverse Mercator system stay around the
prime meridian; `+over` tells the windows apart until one is overridden; and a datum with
the WGS 84 spheroid is complete. -/
structure Memory.FitsTogether (m : Memory α) (overridden : Bool) (a : Address) : Prop where
  configured : ∃ session, (m.providerOf (m.georeferences.object a).engine).session = some session ∧
    ((m.engineOf a).source.configure
      (overallString (m.engineOf a).projection (m.engineOf a).datum)).result = .ok session
  configuration :
    (∀ s session, ((m.engineOf a).source.configure s).result = .ok session → session.configuration = s) →
      (m.providerOf (m.georeferences.object a).engine).configuration =
        some (overallString (m.engineOf a).projection (m.engineOf a).datum)
  trimmed : Text.trimmed (m.engineOf a).projection = (m.engineOf a).projection
  nonempty : (m.engineOf a).projection ≠ ""
  named : (projectionName (m.engineOf a).projection).isSome = true
  isProjected : (m.engineOf a).isProjected = false ↔
    ∃ name ∈ geographicNames, projectionName (m.engineOf a).projection = some name
  utm : isUTM (m.engineOf a).projection = true →
    (m.georeferences.object a).window = .aroundZero ∧
      hasToken (m.engineOf a).projection overToken = false
  placement : overridden = false → (hasToken (m.engineOf a).projection overToken = true ↔
    (m.georeferences.object a).window.isCenterZero = false)
  datum : (m.engineOf a).datum.spheroidName ∈ Datum.wgs84SpheroidNames →
    Datum.containsText "+datum=".toList (m.engineOf a).datum.tokens.toList = true ∧
      (m.engineOf a).datum.name ≠ "unknown"
  complete : GeoReference.named (m.engineOf a).datum = pure (m.engineOf a).datum

theorem isGeographic_eq_true_iff {projection : String} : Projection.isGeographic projection = true ↔
    ∃ name ∈ geographicNames, projectionName projection = some name := by
  unfold Projection.isGeographic
  cases projectionName projection with
  | none => simp
  | some name => simp

theorem Memory.Shows.fitsTogether {a : Address} {g : GeoReference α} {overridden : Bool}
    (shows : m.Shows a g) (sound : Sound overridden g) : m.FitsTogether overridden a := by
  have projection : (m.engineOf a).projection = g.projection := shows.engine.projection
  have datum : (m.engineOf a).datum = g.datum := shows.engine.datum
  have isProjected : (m.engineOf a).isProjected = g.isProjected := shows.engine.isProjected
  have source : (m.engineOf a).source = g.engine.provider := shows.engine.source
  have console : m.providerOf (m.georeferences.object a).engine = g.engine.console :=
    shows.engine.console
  have configured : (g.engine.provider.configure (overallString g.projection g.datum)).result =
      .ok g.engine.session := sound.configured
  refine ⟨?_, ?_, ?_, ?_, ?_, ?_, ?_, ?_, ?_, ?_⟩
  · rw [console, source, projection, datum]
    exact ⟨g.engine.session, rfl, configured⟩
  · rw [console, source, projection, datum]
    intro keeps
    exact congrArg some (keeps _ _ configured)
  · rw [projection]
    exact sound.trimmed
  · rw [projection]
    exact Projection.ne_empty_of_named sound.named
  · rw [projection]
    exact sound.named
  · rw [isProjected, projection, ← isGeographic_eq_true_iff]
    show (!Projection.isGeographic g.projection) = false ↔ _
    simp
  · rw [projection, shows.window]
    exact sound.utm
  · rw [projection, shows.window]
    intro followed
    rw [sound.placement followed]
    cases g.window <;> decide
  · rw [datum]
    exact Datum.lacksDatumName_eq_false_iff.mp sound.complete
  · rw [datum]
    exact GeoReference.named_of_complete sound.complete

/-- Whatever calls have been made, and whichever of them failed, the fields of every georeference fit
together. -/
theorem Reached.fields_fit (reached : Reached m overridden) {a : Address}
    (inUse : a < m.georeferences.count) : m.FitsTogether (overridden a) a := by
  obtain ⟨g, shows, sound⟩ := reached.ready a inUse
  exact shows.fitsTogether sound

/-- A zone is asked for with `+over`, and its window is overridden, to no effect. -/
theorem fields_fit_overridden_zone :
    ∃ (m : Memory ℚ) (overridden : Address → Bool), Reached m overridden ∧
      m.georeferences.count = 1 ∧ isUTM (m.engineOf 0).projection = true ∧
      m.FitsTogether (overridden 0) 0 := by
  let zone : Call ℚ :=
    .make Projection.Parabolic.provider { projection := some "+proj=utm +zone=11 +over" }
  let window : Call ℚ := .change 0 Wkt.Described.catalogue (.window .around180)
  have one : (zone.run Memory.vacant).2.georeferences.count = 1 := by
    decide +kernel
  have still : (window.run (zone.run Memory.vacant).2).2.georeferences.count = 1 ∧
      isUTM ((window.run (zone.run Memory.vacant).2).2.engineOf 0).projection = true := by
    decide +kernel
  have start : Reached Memory.vacant fun _ => false := .start _ rfl
  have made : Reached (zone.run Memory.vacant).2 _ := start.step trivial
  have possible : window.isAboutOneOf (zone.run Memory.vacant).2 :=
    Nat.lt_of_lt_of_eq Nat.zero_lt_one one.symm
  have reached : Reached (window.run (zone.run Memory.vacant).2).2 _ := made.step possible
  exact ⟨_, _, reached, still.1, still.2, reached.fields_fit (still.1 ▸ Nat.zero_lt_one)⟩

end GeoRaster.Objects
