import GeoRaster.Proofs.Objects.Engine

/-! Georeferences in memory are made and changed as georeferences that are values. The three fields of
a georeference are written last; until then, work is done on objects that nobody knows yet. -/
namespace GeoRaster.Objects

open Projection (Console Provider Engine)
open Mapping (WindowChoice)
open GeoRaster.Objects.Action (Tracks)

variable {α : Type} [Scalar α] {base m m' : Memory α}

theorem startLongitude_run {e : Address} {engine : Engine α} (new : base.HasNew m e engine)
    (clean : engine.lastError = none) (affine : AffineTransform α) :
    ∃ m', startLongitude affine e m = (⟨[], GeoReference.startLongitude affine engine⟩, m') ∧
      base.Keeps m' ∧
      ∀ start, GeoReference.startLongitude affine engine = .ok start → base.HasNew m' e engine := by
  obtain ⟨m', run, kept, converted⟩ :=
    inverse_run new clean (affine.pixelToPoint ⟨Scalar.ofInt 0, Scalar.ofInt 0⟩)
  refine ⟨m', ?_, kept, ?_⟩
  · show Action.andThen (inverse e _) (fun lonLat => Action.ofLogged (pure lonLat.x)) m = _
    unfold Action.andThen GeoReference.startLongitude
    rw [run]
    cases engine.inverse (affine.pixelToPoint ⟨Scalar.ofInt 0, Scalar.ofInt 0⟩) <;> rfl
  · intro start started
    unfold GeoReference.startLongitude at started
    cases inverse : engine.inverse (affine.pixelToPoint ⟨Scalar.ofInt 0, Scalar.ofInt 0⟩) with
    | error fault =>
      rw [inverse] at started
      contradiction
    | ok lonLat => exact converted lonLat inverse

/-- The first pixel is looked up where the choice needs it, in vain or not. -/
theorem chooseWindow_tracks {e : Address} {engine : Engine α} (new : base.HasNew m e engine)
    (clean : engine.lastError = none) (affine : AffineTransform α) :
    Tracks base (fun choice choice' m' => choice = choice' ∧ base.HasNew m' e engine)
      (chooseWindow engine.projection affine.xScale (startLongitude affine e) m)
      (Logged.ofExcept (WindowChoice.choose engine.projection affine.xScale
        fun _ => GeoReference.startLongitude affine engine)) := by
  unfold chooseWindow WindowChoice.choose
  cases utm : Projection.isUTM engine.projection with
  | true => exact .ok ⟨rfl, new⟩
  | false =>
    cases orthographic : Projection.isOrthographic engine.projection with
    | true => exact .ok ⟨rfl, new⟩
    | false =>
      obtain ⟨m', run, kept, started⟩ := startLongitude_run new clean affine
      have attempted : (startLongitude affine e).attempt m =
          (⟨[], .ok (GeoReference.startLongitude affine engine)⟩, m') := by
        unfold Action.attempt
        rw [run]
      simp only [Bool.false_eq_true, if_false]
      show Tracks base _ (Action.andThen (startLongitude affine e).attempt _ m) _
      unfold Action.andThen
      rw [attempted]
      cases start : GeoReference.startLongitude affine engine with
      | error fault => exact .error kept
      | ok start' => exact .ok ⟨rfl, started start' start⟩

/-- The window is chosen, and `+over` is taken from the engine, before anybody knows the engine. -/
theorem settle_tracks {e : Address} {engine : Engine α} (new : base.HasNew m e engine)
    (clean : engine.lastError = none) (affine : AffineTransform α) :
    Tracks base (fun window g m' => window = g.window ∧ g.affine = affine ∧ base.Keeps m' ∧
        m'.ShowsEngine e g.engine)
      (settle affine e m) (GeoReference.commit affine engine) := by
  unfold settle GeoReference.commit
  rw [Action.read_bind, new.shows.projection]
  refine (chooseWindow_tracks new clean affine).bind ?_
  rintro choice _ m' ⟨rfl, new⟩
  refine .ofLogged_bind new.kept fun _ _ => ?_
  cases clears : choice.clearsOver with
  | false => exact .ok ⟨rfl, rfl, new.kept, new.shows⟩
  | true =>
    refine (clearOver_tracks new.kept new.shows).bind ?_
    rintro changed ⟨cleared, changed'⟩ m'' ⟨_, shows, kept⟩
    exact .ok ⟨rfl, rfl, new.kept.trans_keepsButEngine new.newEngine kept, shows⟩

namespace Memory

/-- The memory with a georeference given the fields of another transform, engine and window. -/
theorem commit_writes (m : Memory α) (a : Address) (affine : AffineTransform α) (engine : Address)
    (window : LonWindow) :
    ((m.updateGeoReference a fun o => { o with affine }).updateGeoReference a
        fun o => { o with engine }).updateGeoReference a (fun o => { o with window }) =
      m.updateGeoReference a fun _ => ⟨affine, engine, window⟩ := by
  simp only [updateGeoReference, Arena.update_update, Memory.mk.injEq]
  exact ⟨trivial, trivial, Arena.update_congr rfl⟩

/-- Every object in use is as it was, but for one georeference. -/
structure KeepsButGeoReference (a : Address) (m m' : Memory α) : Prop where
  providers : m.providers.Keeps m'.providers
  engines : m.engines.Keeps m'.engines
  count : m.georeferences.count ≤ m'.georeferences.count
  georeference : ∀ i < m.georeferences.count, i ≠ a →
    m'.georeferences.object i = m.georeferences.object i

theorem Keeps.updateGeoReference (kept : m.Keeps m') (a : Address)
    (f : GeoReferenceObject α → GeoReferenceObject α) :
    KeepsButGeoReference a m (m'.updateGeoReference a f) where
  providers := kept.providers
  engines := kept.engines
  count := Nat.le_of_eq (congrArg Arena.count kept.georeferences).symm
  georeference i _ other := (if_neg other).trans (congrArg (Arena.object · i) kept.georeferences)

theorem Keeps.addGeoReference (kept : m.Keeps m') (new : GeoReferenceObject α) :
    KeepsButGeoReference m.georeferences.count m (m'.addGeoReference new) where
  providers := kept.providers
  engines := kept.engines
  count := by
    show m.georeferences.count ≤ m'.georeferences.count + 1
    rw [kept.georeferences]
    exact Nat.le_succ _
  georeference i inUse other := by
    have object : (m'.addGeoReference new).georeferences.object i = m'.georeferences.object i := by
      refine if_neg ?_
      rw [kept.georeferences]
      exact other
    rw [object, kept.georeferences]

/-- Other georeferences show what they showed. -/
theorem KeepsButGeoReference.shows {a i : Address} (kept : KeepsButGeoReference a m m')
    (other : i ≠ a) {g : GeoReference α} (shows : m.Shows i g) : m'.Shows i g := by
  have object := kept.georeference i shows.inUse other
  have updated : m.Keeps { m' with georeferences := m.georeferences } :=
    ⟨kept.providers, kept.engines, rfl⟩
  refine ⟨Nat.lt_of_lt_of_le shows.inUse kept.count, ?_, ?_, ?_⟩ <;> rw [object]
  · exact shows.affine
  · exact shows.window
  · exact (shows.engine.of_keeps updated).congr rfl rfl

/-- The georeference at an address, in use or next in line, is given a value; other objects in use
are as they were. -/
structure Becomes (m : Memory α) (a : Address) (g : GeoReference α) (m' : Memory α) : Prop where
  kept : KeepsButGeoReference a m m'
  shows : m'.Shows a g
  inLine : a ≤ m.georeferences.count
  count : m'.georeferences.count = max m.georeferences.count (a + 1)

theorem Keeps.becomes_new (kept : m.Keeps m') {e : Address} {g : GeoReference α}
    (engine : m'.ShowsEngine e g.engine) :
    m.Becomes m'.georeferences.count g (m'.addGeoReference ⟨g.affine, e, g.window⟩) where
  kept := by
    have added := kept.addGeoReference ⟨g.affine, e, g.window⟩
    rwa [← kept.georeferences] at added
  shows := shows_of_object (Nat.lt_succ_self _) (if_pos rfl) (engine.congr rfl rfl)
  inLine := Nat.le_of_eq (congrArg Arena.count kept.georeferences)
  count := by
    show m'.georeferences.count + 1 = _
    rw [kept.georeferences]
    exact (Nat.max_eq_right (Nat.le_succ _)).symm

theorem Keeps.becomes_of_inUse (kept : m.Keeps m') {a e : Address} {g : GeoReference α}
    {f : GeoReferenceObject α → GeoReferenceObject α} (inUse : a < m.georeferences.count)
    (fields : f (m.georeferences.object a) = ⟨g.affine, e, g.window⟩)
    (engine : m'.ShowsEngine e g.engine) : m.Becomes a g (m'.updateGeoReference a f) where
  kept := kept.updateGeoReference a f
  shows := by
    rw [← kept.georeferences] at inUse fields
    exact shows_of_object inUse ((if_pos rfl).trans fields) (engine.congr rfl rfl)
  inLine := Nat.le_of_lt inUse
  count := by
    show m'.georeferences.count = _
    rw [kept.georeferences]
    exact (Nat.max_eq_left inUse).symm

end Memory

/-- A georeference is made last, when everything it consists of has been. -/
theorem newGeoReference_tracks (m : Memory α) (source : Provider α) (spec : GeoReferenceSpec α) :
    Tracks m (fun a g m' => a = m.georeferences.count ∧ m.Becomes a g m')
      (newGeoReference source spec m) (GeoReference.make source spec) := by
  unfold newGeoReference GeoReference.make
  refine .ofLogged_bind (.refl m) fun affine _ => ?_
  refine .ofLogged_bind (.refl m) fun datum _ => ?_
  refine (newEngine_tracks (.refl m) source _ datum).bind ?_
  rintro e engine m' ⟨new, clean⟩
  rw [← bind_pure (GeoReference.commit affine engine)]
  refine (settle_tracks new clean affine).bind ?_
  rintro _ g m'' ⟨rfl, rfl, kept, shows⟩
  exact .ok ⟨congrArg Arena.count kept.georeferences, kept.becomes_new shows⟩

/-- A georeference is given its new fields in one stroke, after everything that can fail. -/
theorem rebuild_tracks (m : Memory α) (a : Address) (affine : AffineTransform α)
    (projection : String) (datum : Datum) :
    Tracks m (fun _ g m' => a < m.georeferences.count → m.Becomes a g m')
      (rebuild a affine projection datum m)
      (Engine.make (m.engineOf a).source projection datum >>= GeoReference.commit affine) := by
  unfold rebuild commit
  rw [Action.read_bind]
  refine (newEngine_tracks (.refl m) _ projection datum).bind ?_
  rintro e engine m' ⟨new, clean⟩
  rw [← bind_pure (GeoReference.commit affine engine)]
  refine (settle_tracks new clean affine).bind ?_
  rintro _ g m'' ⟨rfl, rfl, kept, shows⟩
  rw [Action.write_bind, Action.write_bind]
  simp only [Action.write, Memory.commit_writes]
  exact .ok fun inUse => kept.becomes_of_inUse inUse rfl shows

/-- Changing a georeference in memory comes to what changing its value comes to; a change that fails
keeps every object, and one that succeeds every other georeference. -/
theorem change_tracks {a : Address} {g : GeoReference α} (shows : m.Shows a g)
    (catalogue : Wkt.Catalogue) (c : GeoReference.Change α) :
    Tracks m (fun _ g' m' => m.Becomes a g' m')
      (change a catalogue c m) (g.change catalogue c) := by
  have rebuilt : ∀ affine projection datum, Tracks m (fun _ g' m' => m.Becomes a g' m')
      (rebuild a affine projection datum m) (g.rebuilt affine projection datum) := by
    intro affine projection datum
    have tracked := rebuild_tracks m a affine projection datum
    rw [Memory.engineOf, shows.engine.source] at tracked
    exact tracked.weaken fun _ _ _ reached => reached shows.inUse
  unfold change
  rw [Action.read_bind, Action.read_bind, Memory.engineOf, shows.affine, shows.engine.projection,
    shows.engine.datum]
  cases c with
  | transform array => exact .ofLogged_bind (.refl m) fun affine _ => rebuilt affine _ _
  | interpretation interpretation =>
    exact .ofLogged_bind (.refl m) fun affine _ => rebuilt affine _ _
  | datum datum => exact .ofLogged_bind (.refl m) fun datum _ => rebuilt _ _ datum
  | wellKnownDatum name =>
    refine .ofLogged_bind (.refl m) fun known _ => ?_
    exact .ofLogged_bind (.refl m) fun datum _ => rebuilt _ _ datum
  | projection projection => exact rebuilt _ projection _
  | named projection => exact rebuilt _ projection.string _
  | wkt text =>
    refine .ofLogged_bind (.refl m) fun imported _ => ?_
    exact .ofLogged_bind (.refl m) fun datum _ => rebuilt _ _ datum
  | window window =>
    show Tracks m _ ((if Projection.isUTM g.engine.projection = true then pure ()
      else Action.write (·.updateGeoReference a fun o => { o with window })) m)
        (pure (g.setWindow window))
    by_cases utm : Projection.isUTM g.engine.projection = true
    · have unchanged : g.setWindow window = g := if_pos utm
      rw [if_pos utm, unchanged]
      exact .ok ⟨⟨.refl _, .refl _, Nat.le_refl _, fun _ _ _ => rfl⟩, shows,
        Nat.le_of_lt shows.inUse, (Nat.max_eq_left shows.inUse).symm⟩
    · have changed : g.setWindow window = { g with window } := if_neg utm
      rw [if_neg utm, changed]
      have fields : ({ m.georeferences.object a with window } : GeoReferenceObject α) =
          ⟨g.affine, (m.georeferences.object a).engine, window⟩ := by
        rw [← shows.affine]
      exact .ok ((Memory.Keeps.refl m).becomes_of_inUse shows.inUse fields shows.engine)

theorem copyGeoReference_tracks {a : Address} {g : GeoReference α} (shows : m.Shows a g) :
    Tracks m (fun a' g' m' => a' = m.georeferences.count ∧ m.Becomes a' g' m')
      (copyGeoReference a m) g.copy := by
  unfold copyGeoReference GeoReference.copy
  rw [Action.read_bind]
  refine (copyEngine_tracks (.refl m) shows.engine).bind ?_
  rintro e engine m' ⟨new, _⟩
  rw [shows.affine, shows.window]
  have shows' : m'.ShowsEngine e ({ g with engine } : GeoReference α).engine := new.shows
  exact .ok ⟨congrArg Arena.count new.kept.georeferences, new.kept.becomes_new shows'⟩

end GeoRaster.Objects
