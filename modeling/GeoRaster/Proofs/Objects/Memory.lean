import GeoRaster.Objects.GeoReference

/-! What work on the memory keeps. Memory grows: new objects lie beyond those in use. Work keeps the
memory if every object in use is as it was, and it tracks a plain computation if it logs and gives
the same and, where that fails, keeps the memory it was begun with. -/
namespace GeoRaster.Objects

open Projection (Console Provider Engine)

namespace Arena

variable {γ : Type} {a b c : Arena γ}

/-- Every object in use is as it was. -/
structure Keeps (a b : Arena γ) : Prop where
  count : a.count ≤ b.count
  object : ∀ i < a.count, b.object i = a.object i

theorem Keeps.refl (a : Arena γ) : a.Keeps a :=
  ⟨Nat.le_refl _, fun _ _ => rfl⟩

theorem Keeps.trans (first : a.Keeps b) (second : b.Keeps c) : a.Keeps c where
  count := Nat.le_trans first.count second.count
  object i inUse := by
    rw [second.object i (Nat.lt_of_lt_of_le inUse first.count), first.object i inUse]

theorem Keeps.add (kept : a.Keeps b) (new : γ) : a.Keeps (b.add new) where
  count := Nat.le_succ_of_le kept.count
  object i inUse := by
    have other : i ≠ b.count := Nat.ne_of_lt (Nat.lt_of_lt_of_le inUse kept.count)
    rw [← kept.object i inUse]
    exact if_neg other

/-- Changing an object that was not in use yet keeps those that were. -/
theorem Keeps.update (kept : a.Keeps b) {i : Address} (fresh : a.count ≤ i) (f : γ → γ) :
    a.Keeps (b.update i f) where
  count := kept.count
  object j inUse := by
    have other : j ≠ i := Nat.ne_of_lt (Nat.lt_of_lt_of_le inUse fresh)
    rw [← kept.object j inUse]
    exact if_neg other

@[simp] theorem object_add (a : Arena γ) (new : γ) : (a.add new).object a.count = new :=
  if_pos rfl

@[simp] theorem object_update (a : Arena γ) (i : Address) (f : γ → γ) :
    (a.update i f).object i = f (a.object i) :=
  if_pos rfl

/-- A new object that is changed at once is another new object. -/
@[simp] theorem update_add (a : Arena γ) (new : γ) (f : γ → γ) :
    (a.add new).update a.count f = a.add (f new) := by
  simp only [add, update, Arena.mk.injEq, true_and]
  funext i
  split <;> rfl

@[simp] theorem update_update (a : Arena γ) (i : Address) (f g : γ → γ) :
    (a.update i f).update i g = a.update i (g ∘ f) := by
  simp only [update, Arena.mk.injEq, true_and]
  funext j
  split <;> rfl

theorem update_congr {a : Arena γ} {i : Address} {f g : γ → γ}
    (same : f (a.object i) = g (a.object i)) : a.update i f = a.update i g := by
  simp only [update, Arena.mk.injEq, true_and]
  funext j
  split
  · rename_i here
    rw [here, same]
  · rfl

end Arena

namespace Memory

variable {α : Type} [Scalar α] {base m m' m'' : Memory α}

/-- Every object in use is as it was, and there are no new georeferences. -/
structure Keeps (m m' : Memory α) : Prop where
  providers : m.providers.Keeps m'.providers
  engines : m.engines.Keeps m'.engines
  georeferences : m'.georeferences = m.georeferences

theorem Keeps.refl (m : Memory α) : m.Keeps m :=
  ⟨.refl _, .refl _, rfl⟩

theorem Keeps.trans (first : m.Keeps m') (second : m'.Keeps m'') : m.Keeps m'' :=
  ⟨first.providers.trans second.providers, first.engines.trans second.engines,
    second.georeferences.trans first.georeferences⟩

/-! ### Objects that show values -/

/-- An engine in use that has the fields of an engine as a value, and a provider in use that is
set up alike. -/
structure ShowsEngine (m : Memory α) (e : Address) (engine : Engine α) : Prop where
  inUse : e < m.engines.count
  providerInUse : (m.engines.object e).provider < m.providers.count
  source : (m.engines.object e).source = engine.provider
  projection : (m.engines.object e).projection = engine.projection
  datum : (m.engines.object e).datum = engine.datum
  isProjected : (m.engines.object e).isProjected = engine.isProjected
  console : m.providerOf e = engine.console

theorem ShowsEngine.of_keeps {e : Address} {engine : Engine α} (shows : m.ShowsEngine e engine)
    (kept : m.Keeps m') : m'.ShowsEngine e engine := by
  have object := kept.engines.object e shows.inUse
  have provider := kept.providers.object _ shows.providerInUse
  refine ⟨Nat.lt_of_lt_of_le shows.inUse kept.engines.count, ?_, ?_, ?_, ?_, ?_, ?_⟩
  · rw [object]
    exact Nat.lt_of_lt_of_le shows.providerInUse kept.providers.count
  · rw [object, shows.source]
  · rw [object, shows.projection]
  · rw [object, shows.datum]
  · rw [object, shows.isProjected]
  · rw [providerOf, object, provider]
    exact shows.console

/-- Only engines and their providers count. -/
theorem ShowsEngine.congr {e : Address} {engine : Engine α} (shows : m.ShowsEngine e engine)
    (providers : m'.providers = m.providers) (engines : m'.engines = m.engines) :
    m'.ShowsEngine e engine := by
  obtain ⟨inUse, providerInUse, source, projection, datum, isProjected, console⟩ := shows
  unfold providerOf at console
  rw [← providers, ← engines] at console
  rw [← engines] at inUse providerInUse source projection datum isProjected
  rw [← providers] at providerInUse
  exact ⟨inUse, providerInUse, source, projection, datum, isProjected, console⟩

/-- A georeference in use that has the fields of a georeference as a value. -/
structure Shows (m : Memory α) (a : Address) (g : GeoReference α) : Prop where
  inUse : a < m.georeferences.count
  affine : (m.georeferences.object a).affine = g.affine
  window : (m.georeferences.object a).window = g.window
  engine : m.ShowsEngine (m.georeferences.object a).engine g.engine

theorem shows_of_object {a e : Address} {g : GeoReference α} (inUse : a < m.georeferences.count)
    (object : m.georeferences.object a = ⟨g.affine, e, g.window⟩)
    (engine : m.ShowsEngine e g.engine) : m.Shows a g := by
  refine ⟨inUse, ?_, ?_, ?_⟩ <;> rw [object]
  exact engine

theorem Shows.of_keeps {a : Address} {g : GeoReference α} (shows : m.Shows a g)
    (kept : m.Keeps m') : m'.Shows a g := by
  obtain ⟨inUse, affine, window, engine⟩ := shows
  rw [← kept.georeferences] at inUse affine window engine
  exact ⟨inUse, affine, window, engine.of_keeps kept⟩

end Memory

namespace Action

variable {α β γ δ ε : Type} [Scalar α] {base m : Memory α}

/-- A run of work on the memory that logs and gives what a plain computation does. The base memory is
kept by a failure; what a success leaves is told by the good outcomes. -/
inductive Tracks (base : Memory α) (good : β → γ → Memory α → Prop) :
    Logged β × Memory α → Logged γ → Prop where
  | ok {log : List LogEntry} {b : β} {c : γ} {m : Memory α} (reached : good b c m) :
      Tracks base good (⟨log, .ok b⟩, m) ⟨log, .ok c⟩
  | error {log : List LogEntry} {fault : Fault} {m : Memory α} (kept : base.Keeps m) :
      Tracks base good (⟨log, .error fault⟩, m) ⟨log, .error fault⟩

variable {good : β → γ → Memory α → Prop} {good' : δ → ε → Memory α → Prop}

theorem Tracks.bind {x : Action α β} {f : β → Action α δ} {y : Logged γ} {g : γ → Logged ε}
    (first : Tracks base good (x m) y)
    (next : ∀ b c m', good b c m' → Tracks base good' (f b m') (g c)) :
    Tracks base good' ((x >>= f) m) (y >>= g) := by
  show Tracks base good' (andThen x f m) (Logged.andThen y g)
  unfold andThen Logged.andThen
  generalize x m = run at first
  cases first with
  | error kept => exact .error kept
  | @ok log b c m' reached =>
    have second := next b c m' reached
    simp only
    generalize f b m' = run at second
    generalize g c = computed at second
    cases second with
    | error kept => exact .error kept
    | ok reached => exact .ok reached

theorem Tracks.weaken {good₂ : β → γ → Memory α → Prop} {run : Logged β × Memory α} {y : Logged γ}
    (tracked : Tracks base good run y) (weaker : ∀ b c m', good b c m' → good₂ b c m') :
    Tracks base good₂ run y := by
  cases tracked with
  | ok reached => exact .ok (weaker _ _ _ reached)
  | error kept => exact .error kept

/-- A plain computation tracks itself and leaves the memory alone. -/
theorem tracks_ofLogged (kept : base.Keeps m) (y : Logged β) :
    Tracks base (fun b c m' => b = c ∧ m' = m ∧ y.result = .ok b) (ofLogged y m) y := by
  rcases y with ⟨log, result⟩
  cases result with
  | error fault => exact .error kept
  | ok b => exact .ok ⟨rfl, rfl, rfl⟩

theorem Tracks.ofLogged_bind (kept : base.Keeps m) {y : Logged β} {f : β → Action α δ}
    {g : β → Logged ε} (next : ∀ b, y.result = .ok b → Tracks base good' (f b m) (g b)) :
    Tracks base good' ((ofLogged y >>= f) m) (y >>= g) := by
  refine (tracks_ofLogged kept y).bind ?_
  rintro b c m' ⟨rfl, rfl, reached⟩
  exact next b reached

theorem read_bind (f : Memory α → β) (k : β → Action α δ) :
    (read f >>= k) m = k (f m) m :=
  rfl

theorem write_bind (f : Memory α → Memory α) (k : Unit → Action α δ) :
    (write f >>= k) m = k () (f m) :=
  rfl

theorem new_bind (count : Memory α → Nat) (add : Memory α → Memory α) (k : Address → Action α δ) :
    (new count add >>= k) m = k (count m) (add m) :=
  rfl

end Action

end GeoRaster.Objects
