import GeoRaster.Proofs.Objects.Memory

/-! Engines in memory are set up and converted with as engines that are values. Whatever fails on the
way, the fields of an engine are written after its provider has been set up, and not before. -/
namespace GeoRaster.Objects

open Projection (Console Provider Engine Session overallString removeToken overToken isGeographic)
open GeoRaster.Objects.Action (Tracks)

variable {α : Type} [Scalar α] {base m m' : Memory α}

namespace Memory

theorem updateProvider_addProvider (m : Memory α) (new : Console α) (f : Console α → Console α) :
    (m.addProvider new).updateProvider m.providers.count f = m.addProvider (f new) := by
  simp only [updateProvider, addProvider, Arena.update_add]

/-- The memory with a new engine, and a new provider for it. -/
def withNewEngine (m : Memory α) (engine : Engine α) : Memory α :=
  (m.addProvider engine.console).addEngine
    ⟨engine.provider, m.providers.count, engine.projection, engine.datum, engine.isProjected⟩

/-- The memory with an engine replaced, and a new provider for it. -/
def withEngine (m : Memory α) (e : Address) (engine : Engine α) : Memory α :=
  (m.addProvider engine.console).updateEngine e fun _ =>
    ⟨engine.provider, m.providers.count, engine.projection, engine.datum, engine.isProjected⟩

/-- A new engine, and a new provider of it, in a memory that is kept. -/
structure HasNew (base m : Memory α) (e : Address) (engine : Engine α) : Prop where
  kept : base.Keeps m
  newEngine : base.engines.count ≤ e
  newProvider : base.providers.count ≤ (m.engines.object e).provider
  shows : m.ShowsEngine e engine

/-- Every object in use is as it was, but for one engine. -/
structure KeepsButEngine (e : Address) (m m' : Memory α) : Prop where
  providers : m.providers.Keeps m'.providers
  engineCount : m'.engines.count = m.engines.count
  engine : ∀ i, i ≠ e → m'.engines.object i = m.engines.object i
  georeferences : m'.georeferences = m.georeferences

theorem KeepsButEngine.refl (e : Address) (m : Memory α) : KeepsButEngine e m m :=
  ⟨.refl _, rfl, fun _ _ => rfl, rfl⟩

theorem keepsButEngine_withEngine (m : Memory α) (e : Address) (engine : Engine α) :
    KeepsButEngine e m (m.withEngine e engine) where
  providers := (Arena.Keeps.refl _).add _
  engineCount := rfl
  engine _ other := if_neg other
  georeferences := rfl

/-- Changing an engine that was not in use yet keeps those that were. -/
theorem Keeps.trans_keepsButEngine {e : Address} (kept : base.Keeps m)
    (fresh : base.engines.count ≤ e) (changed : KeepsButEngine e m m') : base.Keeps m' where
  providers := kept.providers.trans changed.providers
  engines.count := changed.engineCount ▸ kept.engines.count
  engines.object i inUse := by
    rw [changed.engine i (Nat.ne_of_lt (Nat.lt_of_lt_of_le inUse fresh)), kept.engines.object i inUse]
  georeferences := changed.georeferences.trans kept.georeferences

theorem hasNew_withNewEngine (kept : base.Keeps m) (engine : Engine α) :
    HasNew base (m.withNewEngine engine) m.engines.count engine := by
  have object : (m.withNewEngine engine).engines.object m.engines.count =
      ⟨engine.provider, m.providers.count, engine.projection, engine.datum, engine.isProjected⟩ :=
    Arena.object_add m.engines _
  refine ⟨⟨kept.providers.add _, kept.engines.add _, kept.georeferences⟩, kept.engines.count, ?_, ?_⟩
  · rw [object]
    exact kept.providers.count
  · refine ⟨Nat.lt_succ_self _, ?_, ?_, ?_, ?_, ?_, ?_⟩ <;> try rw [object]
    · exact Nat.lt_succ_self _
    · rw [providerOf, object]
      exact Arena.object_add m.providers _

theorem showsEngine_withEngine {e : Address} (inUse : e < m.engines.count) (engine : Engine α) :
    (m.withEngine e engine).ShowsEngine e engine := by
  have object : (m.withEngine e engine).engines.object e =
      ⟨engine.provider, m.providers.count, engine.projection, engine.datum, engine.isProjected⟩ :=
    if_pos rfl
  refine ⟨inUse, ?_, ?_, ?_, ?_, ?_, ?_⟩ <;> try rw [object]
  · exact Nat.lt_succ_self _
  · rw [providerOf, object]
    exact Arena.object_add m.providers _

end Memory

/-- A provider is set up, or refuses and stays as it was. -/
theorem configureProvider_tracks (kept : base.Keeps m) {p : Address} {source : Provider α}
    (owner : (m.providers.object p).provider = source) (s : String) :
    Tracks base (fun _ session m' => m' = m.updateProvider p fun _ => ⟨source, some session, none⟩)
      (configureProvider p s m) (source.configure s) := by
  unfold configureProvider
  rw [Action.read_bind]
  unfold Console.reconfigure
  rw [owner]
  rcases source.configure s with ⟨log, result⟩
  cases result with
  | error fault => exact .error kept
  | ok session =>
    show Tracks base _ (⟨(log ++ []) ++ [], .ok ()⟩, _) _
    rw [List.append_nil, List.append_nil]
    exact .ok rfl

/-- A new provider is set up for whoever makes it. -/
theorem configureNewProvider_tracks (kept : base.Keeps m) (source : Provider α) (s : String) :
    Tracks base (fun _ session m' => m' = m.addProvider ⟨source, some session, none⟩)
      (configureProvider m.providers.count s (m.addProvider (.idle source))) (source.configure s) := by
  have added : base.Keeps (m.addProvider (.idle source)) :=
    ⟨kept.providers.add _, kept.engines, kept.georeferences⟩
  have owner :
      ((m.addProvider (.idle source)).providers.object m.providers.count).provider = source := by
    simp [Memory.addProvider, Console.idle]
  refine (configureProvider_tracks added owner s).weaken ?_
  rintro _ session m' rfl
  rw [Memory.updateProvider_addProvider]

theorem newInstalled_tracks (kept : base.Keeps m) (source : Provider α) (projection : String)
    (datum : Datum) :
    Tracks base (fun e engine m' => base.HasNew m' e engine ∧ engine.lastError = none)
      (newInstalled source projection datum m) (Engine.install source projection datum) := by
  unfold newInstalled Engine.install newProvider
  rw [Action.new_bind]
  refine (configureNewProvider_tracks kept source _).bind ?_
  rintro _ session m' rfl
  exact .ok ⟨Memory.hasNew_withNewEngine kept ⟨source, session, none, projection, datum⟩, rfl⟩

/-- An engine's fields are written when its new provider has been set up. -/
theorem install_tracks (kept : base.Keeps m) {e : Address} {source : Provider α}
    (owner : (m.engines.object e).source = source) (projection : String) (datum : Datum) :
    Tracks base (fun _ engine m' => m' = m.withEngine e engine ∧ engine.lastError = none)
      (install e projection datum m) (Engine.install source projection datum) := by
  unfold install Engine.install newProvider
  rw [Action.read_bind, Action.new_bind, owner]
  refine (configureNewProvider_tracks kept source _).bind ?_
  rintro _ session m' rfl
  simp only [Action.write_bind]
  refine .ok ⟨?_, rfl⟩
  -- the source is the one field that is not written
  simp only [Memory.withEngine, Memory.updateEngine, Arena.update_update, Memory.addProvider,
    Memory.mk.injEq]
  refine ⟨rfl, Arena.update_congr ?_, trivial⟩
  rw [← owner]
  rfl

theorem newEngine_tracks (kept : base.Keeps m) (source : Provider α) (projection : String)
    (datum : Datum) :
    Tracks base (fun e engine m' => base.HasNew m' e engine ∧ engine.lastError = none)
      (newEngine source projection datum m) (Engine.make source projection datum) :=
  .ofLogged_bind kept fun _ _ => newInstalled_tracks kept source _ datum

theorem reconfigure_tracks (kept : base.Keeps m) {e : Address} {source : Provider α}
    (owner : (m.engines.object e).source = source) (projection : String) (datum : Datum) :
    Tracks base (fun _ engine m' => m' = m.withEngine e engine ∧ engine.lastError = none)
      (reconfigure e projection datum m) (Engine.make source projection datum) :=
  .ofLogged_bind kept fun _ _ => install_tracks kept owner _ datum

theorem clearOver_tracks (kept : base.Keeps m) {e : Address} {engine : Engine α}
    (shows : m.ShowsEngine e engine) :
    Tracks base (fun changed cleared m' => changed = cleared.2 ∧
        m'.ShowsEngine e cleared.1 ∧ Memory.KeepsButEngine e m m')
      (clearOver e m) engine.clearOver := by
  unfold clearOver Engine.clearOver
  rw [Action.read_bind, shows.projection]
  by_cases same : removeToken engine.projection overToken = engine.projection
  · rw [if_pos same, if_pos same]
    exact .ok ⟨rfl, shows, .refl e m⟩
  · rw [if_neg same, if_neg same, shows.datum]
    refine (install_tracks kept shows.source _ engine.datum).bind ?_
    rintro _ cleared m' ⟨rfl, _⟩
    exact .ok ⟨rfl, Memory.showsEngine_withEngine shows.inUse cleared,
      Memory.keepsButEngine_withEngine m e cleared⟩

theorem copyEngine_tracks (kept : base.Keeps m) {e : Address} {engine : Engine α}
    (shows : m.ShowsEngine e engine) :
    Tracks base (fun e' copied m' => base.HasNew m' e' copied ∧ copied.lastError = none)
      (copyEngine e m) engine.copy := by
  unfold copyEngine Engine.copy
  rw [Action.read_bind, shows.source, shows.projection, shows.datum]
  exact newInstalled_tracks kept _ _ _

/-- The provider of a new engine may be changed; if it is set up as before, nothing is changed. -/
theorem Memory.HasNew.updateProvider {e : Address} {engine : Engine α} (new : base.HasNew m e engine)
    (f : Console α → Console α) :
    base.Keeps (m.updateProvider (m.engines.object e).provider f) ∧
      (f engine.console = engine.console →
        base.HasNew (m.updateProvider (m.engines.object e).provider f) e engine) := by
  have kept : base.Keeps (m.updateProvider (m.engines.object e).provider f) :=
    ⟨new.kept.providers.update new.newProvider f, new.kept.engines, new.kept.georeferences⟩
  refine ⟨kept, fun same => ⟨kept, new.newEngine, new.newProvider, ?_⟩⟩
  obtain ⟨inUse, providerInUse, source, projection, datum, isProjected, console⟩ := new.shows
  refine ⟨inUse, providerInUse, source, projection, datum, isProjected, ?_⟩
  have object : (m.updateProvider (m.engines.object e).provider f).providerOf e = f (m.providerOf e) :=
    if_pos rfl
  rw [object, console, same]

/-- What a projected point of a new engine is converted to. Only the engine's own provider sees the
evaluation. -/
theorem inverse_run {e : Address} {engine : Engine α} (new : base.HasNew m e engine)
    (clean : engine.lastError = none) (point : Point α) :
    ∃ m', inverse e point m = (⟨[], engine.inverse point⟩, m') ∧ base.Keeps m' ∧
      ∀ lonLat, engine.inverse point = .ok lonLat → base.HasNew m' e engine := by
  unfold inverse Engine.inverse
  rw [Action.read_bind, new.shows.isProjected]
  cases engine.isProjected with
  | false => exact ⟨m, rfl, new.kept, fun _ _ => new⟩
  | true =>
    have console : m.providers.object (m.engines.object e).provider = engine.console :=
      new.shows.console
    rw [if_pos rfl, if_pos rfl, Action.read_bind, console]
    have evaluated : engine.console.evaluate (·.inverse) point = .ok
        (engine.session.evaluator.inverse point,
          engine.console.afterwards (engine.session.evaluator.inverse point)) := rfl
    rw [evaluated]
    obtain ⟨kept, unchanged⟩ := new.updateProvider
      fun _ => engine.console.afterwards (engine.session.evaluator.inverse point)
    refine ⟨_, rfl, kept, fun lonLat converted => unchanged ?_⟩
    cases answer : engine.session.evaluator.inverse point with
    | error reason =>
      rw [answer] at converted
      contradiction
    | ok angles => simp only [Console.afterwards, Engine.console, clean]

end GeoRaster.Objects
