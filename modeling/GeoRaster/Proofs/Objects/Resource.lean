import GeoRaster.Objects.Resource
import GeoRaster.Proofs.GeoReference.Alike
import GeoRaster.Proofs.Objects.Reachable

/-! What requests to resources come to. Resources as objects do what resources as values do: they gain
copies at addresses that were free, and leave every georeference in use with the value it showed. A
copy of a sound georeference never fails, and differs from it in nothing but what its
provider remembers of past failures. -/
namespace GeoRaster

variable {α : Type} [Scalar α]

namespace GeoReference

/-- The georeference with a provider that remembers no failure. -/
def cleared (g : GeoReference α) : GeoReference α :=
  { g with engine := { g.engine with lastError := none } }

theorem alike_cleared (g : GeoReference α) : Alike g g.cleared :=
  ⟨rfl, rfl, rfl, rfl⟩

/-- The parts of a georeference fit together, whether or not its window is overridden. -/
def Fits (g : GeoReference α) : Prop :=
  ∃ overridden, Sound overridden g

/-- The provider is set up from the string it was set up from before, and so takes it again. -/
theorem Fits.result_copy {g : GeoReference α} (fits : g.Fits) : g.copy.result = .ok g.cleared := by
  obtain ⟨_, sound⟩ := fits
  have configured : (g.engine.provider.configure
      (Projection.overallString g.engine.projection g.engine.datum)).result =
        .ok g.engine.session := sound.configured
  unfold GeoReference.copy Projection.Engine.copy Projection.Engine.install
  simp only [Logged.result_bind, configured, Except.bind, Logged.result_pure]
  rfl

theorem Fits.cleared {g : GeoReference α} (fits : g.Fits) : g.cleared.Fits := by
  have copied := fits.result_copy
  obtain ⟨overridden, sound⟩ := fits
  exact ⟨overridden, sound.copy copied⟩

theorem fits_map_cleared {value : Option (GeoReference α)} (fits : ∀ g ∈ value, g.Fits) :
    ∀ g ∈ value.map cleared, g.Fits := by
  intro _ member
  obtain ⟨g, stored, rfl⟩ := Option.mem_map.mp member
  exact (fits g stored).cleared

end GeoReference

namespace MemoryResource

theorem lookup_entry (key name : String) (value : HeaderValue) (rest : List (String × HeaderValue)) :
    ((key, value) :: rest).lookup name = if key = name then some value else rest.lookup name := by
  by_cases same : key = name
  · simp [same]
  · simp [List.lookup_cons, same, beq_eq_false_iff_ne.mpr (Ne.symm same)]

/-- A header value that is put shows under its name, and under no other. -/
theorem lookup_putHeader (name name' : String) (value : HeaderValue)
    (header : List (String × HeaderValue)) :
    (putHeader name value header).lookup name' =
      if name = name' then some value else header.lookup name' := by
  induction header with
  | nil => exact lookup_entry name name' value []
  | cons entry rest ih =>
    obtain ⟨key, old⟩ := entry
    unfold putHeader
    by_cases here : key = name
    · subst here
      rw [if_pos rfl, lookup_entry, lookup_entry]
      split <;> rfl
    · rw [if_neg here, lookup_entry, lookup_entry, ih]
      by_cases same : key = name'
      · subst same
        rw [if_pos rfl, if_neg (Ne.symm here), if_pos rfl]
      · rw [if_neg same, if_neg same]

theorem result_make {georeference : Option (GeoReference α)}
    (fits : ∀ g ∈ georeference, g.Fits)
    (header : List (String × HeaderValue)) (readOnly : Bool) :
    (make georeference header readOnly).result =
      .ok ⟨georeference.map GeoReference.cleared, header, readOnly⟩ := by
  cases georeference with
  | none => rfl
  | some g =>
    unfold make
    rw [Logged.result_bind, (fits g rfl).result_copy]
    rfl

theorem result_read {r : MemoryResource α}
    (fits : ∀ g ∈ r.georeference, g.Fits) :
    r.read.result = .ok (r.georeference.map GeoReference.cleared) := by
  unfold read
  cases stored : r.georeference with
  | none => rfl
  | some g =>
    dsimp only
    rw [Logged.result_bind, (fits g stored).result_copy]
    rfl

theorem result_write {r : MemoryResource α} (writable : r.readOnly = false) {g : GeoReference α}
    (fits : g.Fits) :
    (r.write g).result = .ok { r with georeference := some g.cleared } := by
  unfold write
  rw [writable, if_neg Bool.false_ne_true, Logged.result_bind, fits.result_copy]
  rfl

end MemoryResource

namespace Objects

open GeoRaster.Objects.Action (Tracks)

namespace Action

variable {β γ : Type} {base : Memory α} {good : β → γ → Memory α → Prop} {run : Logged β × Memory α}
  {y : Logged γ}

theorem bind_of_error {m m' : Memory α} {x : Action α β} {log : List LogEntry} {fault : Fault}
    (ran : x m = (⟨log, .error fault⟩, m')) (f : β → Action α γ) :
    (x >>= f) m = (⟨log, .error fault⟩, m') := by
  show andThen x f m = _
  unfold andThen
  rw [ran]

theorem bind_pure_of_ok {m m' : Memory α} {x : Action α β} {log : List LogEntry} {b : β}
    (ran : x m = (⟨log, .ok b⟩, m')) (f : β → γ) :
    (x >>= fun b => pure (f b)) m = (⟨log ++ [], .ok (f b)⟩, m') := by
  show andThen x _ m = _
  unfold andThen
  rw [ran]
  rfl

/-- What tracks a success succeeds. -/
theorem Tracks.exists_of_ok (tracked : Tracks base good run y) {c : γ} (ok : y.result = .ok c) :
    ∃ log b m', run = (⟨log, .ok b⟩, m') ∧ good b c m' := by
  cases tracked with
  | error kept => contradiction
  | ok reached =>
    obtain rfl := Except.ok.inj ok
    exact ⟨_, _, _, rfl, reached⟩

end Action

namespace Memory

variable {m m' : Memory α}

/-- Every georeference shows a value whose parts fit together, whichever windows are overridden. -/
def IsSound (m : Memory α) : Prop :=
  ∃ overridden, m.Ready overridden

theorem IsSound.exists_value (sound : m.IsSound) {a : Address} (inUse : a < m.georeferences.count) :
    ∃ g, m.Shows a g ∧ g.Fits := by
  obtain ⟨overridden, ready⟩ := sound
  obtain ⟨g, shows, fits⟩ := ready a inUse
  exact ⟨g, shows, overridden a, fits⟩

theorem IsSound.exists_shows (sound : m.IsSound) {a : Option Address}
    (inUse : ∀ b, a = some b → b < m.georeferences.count) :
    ∃ value, Option.Rel m.Shows a value ∧ ∀ g ∈ value, g.Fits := by
  cases a with
  | none => exact ⟨none, .none, nofun⟩
  | some b =>
    obtain ⟨g, shows, fits⟩ := sound.exists_value (inUse b rfl)
    refine ⟨some g, .some shows, ?_⟩
    rintro _ ⟨⟩
    exact fits

/-- A memory with one more georeference, if there is to be one. -/
inductive Gains (m : Memory α) : Option Address → Option (GeoReference α) → Memory α → Prop
  | nothing : Gains m none none m
  | one {g : GeoReference α} {m' : Memory α} (becomes : m.Becomes m.georeferences.count g m') :
    Gains m (some m.georeferences.count) (some g) m'

/-- Georeferences that are in use already show what they showed. -/
theorem Gains.older {a : Option Address} {value : Option (GeoReference α)} (gains : m.Gains a value m')
    {i : Address} {g : GeoReference α} (shows : m.Shows i g) : m'.Shows i g := by
  cases gains with
  | nothing => exact shows
  | one becomes => exact becomes.kept.shows (Nat.ne_of_lt shows.inUse) shows

theorem Gains.count {a : Option Address} {value : Option (GeoReference α)} (gains : m.Gains a value m') :
    m.georeferences.count ≤ m'.georeferences.count := by
  cases gains with
  | nothing => exact Nat.le_refl _
  | one becomes => exact becomes.kept.count

theorem Gains.new {a : Option Address} {value : Option (GeoReference α)} (gains : m.Gains a value m')
    {b : Address} (gained : a = some b) :
    b = m.georeferences.count ∧ b < m'.georeferences.count := by
  cases gains with
  | nothing => contradiction
  | one becomes =>
    obtain rfl := Option.some.inj gained
    exact ⟨rfl, becomes.shows.inUse⟩

theorem Gains.shows {a : Option Address} {value : Option (GeoReference α)}
    (gains : m.Gains a value m') : Option.Rel m'.Shows a value := by
  cases gains with
  | nothing => exact .none
  | one becomes => exact .some becomes.shows

theorem Gains.isSound {a : Option Address} {value : Option (GeoReference α)}
    (gains : m.Gains a value m') (sound : m.IsSound)
    (fits : ∀ g ∈ value, g.Fits) : m'.IsSound := by
  cases gains with
  | nothing => exact sound
  | one becomes =>
    obtain ⟨_, fits⟩ := fits _ rfl
    obtain ⟨_, ready⟩ := sound
    exact ⟨_, ready.becomes becomes fits⟩

/-- A resource that has the fields of a resource as a value. -/
structure ShowsResource (m : Memory α) (o : ResourceObject) (r : MemoryResource α) : Prop where
  georeference : Option.Rel m.Shows o.georeference r.georeference
  header : o.header = r.header
  readOnly : o.readOnly = r.readOnly

theorem ShowsResource.exists_shows {o : ResourceObject} {r : MemoryResource α}
    (shown : m.ShowsResource o r) {p : Address} (stored : o.georeference = some p) :
    ∃ g, m.Shows p g := by
  have shows := shown.georeference
  rw [stored] at shows
  generalize r.georeference = value at shows
  cases shows with
  | some shows => exact ⟨_, shows⟩

theorem ShowsResource.later {o : ResourceObject} {r : MemoryResource α} (shown : m.ShowsResource o r)
    (shows : ∀ p g, o.georeference = some p → m.Shows p g → m'.Shows p g) : m'.ShowsResource o r := by
  refine ⟨?_, shown.header, shown.readOnly⟩
  have before := shown.georeference
  revert shows before
  generalize o.georeference = a
  generalize r.georeference = value
  intro shows before
  cases before with
  | none => exact .none
  | some before => exact .some (shows _ _ rfl before)

end Memory

/-! ### Resources as objects and as values -/

section Tracks

variable {m : Memory α}

theorem read_tracks {o : ResourceObject} {r : MemoryResource α} (shown : m.ShowsResource o r) :
    Tracks m m.Gains (o.read m) r.read := by
  obtain ⟨a, _, _⟩ := o
  obtain ⟨value, _, _⟩ := r
  cases shown.georeference with
  | none => exact .ok .nothing
  | some shows =>
    refine (copyGeoReference_tracks shows).bind ?_
    rintro _ g m' ⟨rfl, becomes⟩
    exact .ok (.one becomes)

theorem make_tracks {a : Option Address} {value : Option (GeoReference α)}
    (shows : Option.Rel m.Shows a value) (header : List (String × HeaderValue)) (readOnly : Bool) :
    Tracks m (fun o r m' => m.Gains o.georeference r.georeference m' ∧ m'.ShowsResource o r)
      (ResourceObject.make a header readOnly m) (MemoryResource.make value header readOnly) := by
  -- a resource is made from what would be read from one that had its georeference
  have stored : MemoryResource.make value header readOnly =
      (⟨value, header, readOnly⟩ : MemoryResource α).read >>= fun copied =>
        pure ⟨copied, header, readOnly⟩ := by
    cases value with
    | none => rfl
    | some g => simp [MemoryResource.make, MemoryResource.read]
  have shown : m.ShowsResource ⟨a, header, readOnly⟩ ⟨value, header, readOnly⟩ := ⟨shows, rfl, rfl⟩
  rw [stored]
  exact (read_tracks shown).bind fun _ _ _ gains => .ok ⟨gains, gains.shows, rfl, rfl⟩

theorem write_tracks {o : ResourceObject} {r : MemoryResource α} (shown : m.ShowsResource o r)
    {a : Address} {g : GeoReference α} (shows : m.Shows a g) :
    Tracks m (fun o' r' m' => m.Gains o'.georeference r'.georeference m' ∧ m'.ShowsResource o' r')
      (o.write a m) (r.write g) := by
  unfold ResourceObject.write MemoryResource.write
  rw [shown.readOnly]
  cases r.readOnly with
  | true => exact .error (.refl m)
  | false =>
    refine (copyGeoReference_tracks shows).bind ?_
    rintro _ g' m' ⟨rfl, becomes⟩
    exact .ok ⟨.one becomes, .some becomes.shows, shown.header, rfl⟩

end Tracks

/-! ### What requests come to -/

namespace Request

variable {s : Store α} {log : List LogEntry} {fault : Fault} {m' : Memory α}

theorem run_of_error {request : Request α}
    (worked : request.work s.resources s.memory = (⟨log, .error fault⟩, m')) :
    request.run s = (⟨log, .error fault⟩, ⟨m', s.resources⟩) := by
  unfold run
  rw [worked]

theorem run_of_ok {request : Request α} {answer : Answer} {resources : Arena ResourceObject}
    (worked : request.work s.resources s.memory = (⟨log, .ok (answer, resources)⟩, m')) :
    request.run s = (⟨log, .ok answer⟩, ⟨m', resources⟩) := by
  unfold run
  rw [worked]

theorem run_call_of_error {c : Call α} (ran : c.run s.memory = (⟨log, .error fault⟩, m')) :
    (call c).run s = (⟨log, .error fault⟩, ⟨m', s.resources⟩) :=
  run_of_error (Action.bind_of_error ran _)

theorem run_call {c : Call α} {a : Address} (ran : c.run s.memory = (⟨log, .ok a⟩, m')) :
    ∃ log, (call c).run s = (⟨log, .ok (.georeference (some a))⟩, ⟨m', s.resources⟩) :=
  ⟨_, run_of_ok (Action.bind_pure_of_ok ran _)⟩

theorem run_makeResource {a : Option Address} {value : Option (GeoReference α)}
    (shows : Option.Rel s.memory.Shows a value)
    (fits : ∀ g ∈ value, g.Fits) (header : List (String × HeaderValue))
    (readOnly : Bool) :
    ∃ log o m', (makeResource a header readOnly).run s =
        (⟨log, .ok (.resource s.resources.count)⟩, ⟨m', s.resources.add o⟩) ∧
      s.memory.Gains o.georeference (value.map GeoReference.cleared) m' ∧
      m'.ShowsResource o ⟨value.map GeoReference.cleared, header, readOnly⟩ := by
  obtain ⟨log, o, m', ran, gains, shown⟩ :=
    (make_tracks shows header readOnly).exists_of_ok (MemoryResource.result_make fits header readOnly)
  exact ⟨_, o, m', run_of_ok (Action.bind_pure_of_ok ran _), gains, shown⟩

theorem run_read {r : Address} {v : MemoryResource α}
    (shown : s.memory.ShowsResource (s.resources.object r) v)
    (fits : ∀ g ∈ v.georeference, g.Fits) :
    ∃ log a m', (read r).run s = (⟨log, .ok (.georeference a)⟩, ⟨m', s.resources⟩) ∧
      s.memory.Gains a (v.georeference.map GeoReference.cleared) m' := by
  obtain ⟨log, a, m', ran, gains⟩ :=
    (read_tracks shown).exists_of_ok (MemoryResource.result_read fits)
  exact ⟨_, a, m', run_of_ok (Action.bind_pure_of_ok ran _), gains⟩

theorem run_write {r a : Address} {v : MemoryResource α} {g : GeoReference α}
    (shown : s.memory.ShowsResource (s.resources.object r) v) (writable : v.readOnly = false)
    (shows : s.memory.Shows a g) (fits : g.Fits) :
    ∃ log o m', (write r a).run s =
        (⟨log, .ok .done⟩, ⟨m', s.resources.update r fun _ => o⟩) ∧
      s.memory.Gains o.georeference (some g.cleared) m' ∧
      m'.ShowsResource o { v with georeference := some g.cleared } := by
  obtain ⟨log, o, m', ran, gains, shown⟩ :=
    (write_tracks shown shows).exists_of_ok (MemoryResource.result_write writable fits)
  exact ⟨_, o, m', run_of_ok (Action.bind_pure_of_ok ran _), gains, shown⟩

theorem run_write_of_readOnly {r : Address} (readOnly : (s.resources.object r).readOnly = true)
    (a : Address) : (write r a).run s = (⟨[], .error .georeferenceNotWritable⟩, s) := by
  have refused : (s.resources.object r).write a s.memory =
      (⟨[], .error .georeferenceNotWritable⟩, s.memory) := by
    unfold ResourceObject.write
    rw [readOnly]
    rfl
  exact run_of_error (Action.bind_of_error refused _)

theorem run_readHeader (r : Address) (name : String) :
    (readHeader r name).run s = (⟨[], .ok (.header ((s.resources.object r).readHeader name))⟩, s) :=
  rfl

theorem run_writeHeader {r : Address} (writable : (s.resources.object r).readOnly = false)
    (name : String) (value : HeaderValue) :
    (writeHeader r name value).run s = (⟨[], .ok .done⟩, ⟨s.memory, s.resources.update r fun _ =>
      { s.resources.object r with
        header := MemoryResource.putHeader name (.string value.text) (s.resources.object r).header }⟩) := by
  have taken : (s.resources.object r).writeHeader name value = .ok { s.resources.object r with
      header := MemoryResource.putHeader name (.string value.text) (s.resources.object r).header } :=
    if_neg (Bool.eq_false_iff.mp writable)
  have ran : Action.ofLogged (Logged.ofExcept ((s.resources.object r).writeHeader name value))
      s.memory = (⟨[], .ok _⟩, s.memory) :=
    congrArg (fun o => Action.ofLogged (Logged.ofExcept o) s.memory) taken
  exact run_of_ok (Action.bind_pure_of_ok ran _)

theorem run_writeHeader_of_readOnly {r : Address}
    (readOnly : (s.resources.object r).readOnly = true) (name : String) (value : HeaderValue) :
    (writeHeader r name value).run s = (⟨[], .error .readOnlyHeader⟩, s) := by
  have refused : (s.resources.object r).writeHeader name value = .error .readOnlyHeader :=
    if_pos readOnly
  have ran : Action.ofLogged (Logged.ofExcept ((s.resources.object r).writeHeader name value))
      s.memory = (⟨[], .error .readOnlyHeader⟩, s.memory) :=
    congrArg (fun o => Action.ofLogged (Logged.ofExcept o) s.memory) refused
  exact run_of_error (Action.bind_of_error ran _)

end Request

end Objects

end GeoRaster
