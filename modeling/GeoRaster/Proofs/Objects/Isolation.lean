import GeoRaster.Proofs.Objects.History

/-! Resources share nothing with their callers. Callers may change the georeferences that they have been
answered with, those that they have given to a resource and those that they have read from it;
the one that a resource has is none of these. So what a resource gives back is told by the history
alone: the georeference as it was when it was given last, and the header value put last. -/
namespace GeoRaster.Objects

variable {α : Type} [Scalar α]

/-- A copy of a georeference as it was in a memory. -/
def IsCopyOf (copy : GeoReference α) (given : Memory α × Address) : Prop :=
  ∃ g, given.1.Shows given.2 g ∧ copy = g.cleared

/-- A resource has what the history says it was given. -/
structure Accounts (h : History α) (r : Address) (v : MemoryResource α) : Prop where
  georeference : Option.Rel IsCopyOf v.georeference (h.given r)
  header : ∀ name, v.readHeader name = h.put r name
  readOnly : v.readOnly = h.isReadOnly r
  fits : ∀ g ∈ v.georeference, g.Fits

/-- A resource has a georeference that no caller knows, and what the history says it was given. -/
structure Kept (m : Memory α) (h : History α) (r : Address) (o : ResourceObject) : Prop where
  secret : ∀ p, o.georeference = some p → ¬ h.Knows p
  accounts : ∃ v, m.ShowsResource o v ∧ Accounts h r v

theorem Accounts.passed {h : History α} {r : Address} {v : MemoryResource α} (accounts : Accounts h r v)
    {e : Event α} (passes : e.PassesBy r) : Accounts (e :: h) r v where
  georeference := by
    rw [History.given_cons passes.gives]
    exact accounts.georeference
  header name := by
    rw [History.put_cons (passes.puts name)]
    exact accounts.header name
  readOnly := by
    rw [History.isReadOnly_cons passes.declares]
    exact accounts.readOnly
  fits := accounts.fits

/-- No georeference is with a resource and with callers; georeferences and resources are in order. -/
structure Isolated (s : Store α) (h : History α) : Prop where
  sound : s.memory.IsSound
  known : ∀ a, h.Knows a → a < s.memory.georeferences.count
  kept : ∀ r < s.resources.count, Kept s.memory h r (s.resources.object r)

/-- What a request may do to the memory: georeferences that no caller knows show what they showed, and
callers are answered with ones that they know or that are new. -/
structure Spares (m : Memory α) (h : History α) (e : Event α) (m' : Memory α) : Prop where
  sound : m'.IsSound
  count : m.georeferences.count ≤ m'.georeferences.count
  handsOut : ∀ a, e.handsOut = some a →
    a < m'.georeferences.count ∧ (h.Knows a ∨ m.georeferences.count ≤ a)
  shows : ∀ p g, ¬ h.Knows p → m.Shows p g → m'.Shows p g

section Spares

variable {m m' : Memory α} {h : History α} {e : Event α}

theorem spares_of_keeps (sound : m.IsSound) (kept : m.Keeps m') (silent : e.handsOut = none) :
    Spares m h e m' where
  sound := sound.imp fun _ ready => ready.of_keeps kept
  count := Nat.le_of_eq (congrArg Arena.count kept.georeferences).symm
  handsOut a answered := by
    rw [silent] at answered
    contradiction
  shows _ _ _ shows := shows.of_keeps kept

theorem spares_of_gains (sound : m.IsSound) {a : Option Address} {value : Option (GeoReference α)}
    (gains : m.Gains a value m') (fits : ∀ g ∈ value, g.Fits)
    (answered : ∀ b, e.handsOut = some b → a = some b) : Spares m h e m' where
  sound := gains.isSound sound fits
  count := gains.count
  handsOut b handsOut := by
    obtain ⟨rfl, inUse⟩ := gains.new (answered b handsOut)
    exact ⟨inUse, .inr (Nat.le_refl _)⟩
  shows _ _ _ shows := gains.older shows

theorem spares_of_becomes (sound : m.IsSound) {a : Address} {g : GeoReference α}
    (becomes : m.Becomes a g m') (fits : g.Fits) (subject : h.Knows a ∨ a = m.georeferences.count)
    (answered : ∀ b, e.handsOut = some b → b = a) : Spares m h e m' where
  sound := by
    obtain ⟨_, ready⟩ := sound
    obtain ⟨_, fits⟩ := fits
    exact ⟨_, ready.becomes becomes fits⟩
  count := becomes.kept.count
  handsOut b handsOut := by
    obtain rfl := answered b handsOut
    exact ⟨becomes.shows.inUse, subject.imp_right fun fresh => Nat.le_of_eq fresh.symm⟩
  shows p g unknown shows := by
    refine becomes.kept.shows ?_ shows
    rintro rfl
    rcases subject with known | fresh
    · exact unknown known
    · exact Nat.ne_of_lt shows.inUse fresh

end Spares

variable {s : Store α} {h : History α}

/-- A resource that an event passes by keeps its georeference to itself, as it was. -/
theorem Kept.passed {r : Address} {o : ResourceObject} {m m' : Memory α} (kept : Kept m h r o)
    {e : Event α} (spares : Spares m h e m') (passes : e.PassesBy r) : Kept m' (e :: h) r o := by
  obtain ⟨secret, v, shown, accounts⟩ := kept
  refine ⟨?_, v, shown.later fun p g stored => spares.shows p g (secret p stored), accounts.passed passes⟩
  intro p stored knows
  obtain ⟨g, shows⟩ := shown.exists_shows stored
  -- callers are answered with what they know or what is new, and the resource's is neither
  rcases History.knows_cons.mp knows with new | old
  · obtain ⟨_, known | fresh⟩ := spares.handsOut p new
    · exact secret p stored known
    · exact absurd shows.inUse (Nat.not_lt.mpr fresh)
  · exact secret p stored old

/-- A request leaves a store isolated, if each resource has been passed by or accounts for it. -/
theorem Isolated.step (isolated : Isolated s h) {e : Event α} {s' : Store α}
    (spares : Spares s.memory h e s'.memory)
    (resources : ∀ r < s'.resources.count,
      (r < s.resources.count ∧ s'.resources.object r = s.resources.object r ∧ e.PassesBy r) ∨
        Kept s'.memory (e :: h) r (s'.resources.object r)) : Isolated s' (e :: h) := by
  refine ⟨spares.sound, ?_, ?_⟩
  · intro a knows
    rcases History.knows_cons.mp knows with new | old
    · exact (spares.handsOut a new).1
    · exact Nat.lt_of_lt_of_le (isolated.known a old) spares.count
  · intro r inUse
    rcases resources r inUse with ⟨older, same, passes⟩ | kept
    · rw [same]
      exact (isolated.kept r older).passed spares passes
    · exact kept

/-- A request that is refused gives nothing to anybody. -/
theorem Isolated.refused (isolated : Isolated s h) {m' : Memory α} (kept : s.memory.Keeps m')
    (request : Request α) (fault : Fault) :
    Isolated ⟨m', s.resources⟩ (⟨s.memory, request, .error fault⟩ :: h) :=
  isolated.step (spares_of_keeps isolated.sound kept rfl) fun r inUse =>
    .inl ⟨inUse, rfl, Event.passesBy_of_error _ _ _ r⟩

/-- A georeference that is gained is new to callers, unless they are answered with it. -/
theorem Isolated.secret_of_gains (isolated : Isolated s h) {a : Option Address}
    {value : Option (GeoReference α)} {m' : Memory α} (gains : s.memory.Gains a value m') {e : Event α}
    (silent : e.handsOut = none) {p : Address} (stored : a = some p) : ¬ History.Knows (e :: h) p := by
  intro knows
  rcases History.knows_cons.mp knows with new | old
  · rw [silent] at new
    contradiction
  · obtain ⟨rfl, _⟩ := gains.new stored
    exact Nat.lt_irrefl _ (isolated.known _ old)

/-! ### One request more, be it carried out or refused -/

namespace Isolated

variable (isolated : Isolated s h)
include isolated

theorem call {c : Call α} (possible : (Request.call c).IsPossible h s) :
    Isolated ((Request.call c).run s).2 ((Request.call c).eventIn s :: h) := by
  have isAbout : c.isAboutOneOf s.memory := by
    cases c with
    | make => trivial
    | change a _ _ => exact isolated.known a possible
    | copy a => exact isolated.known a possible
  obtain ⟨overridden, ready⟩ := isolated.sound
  have comes := c.comes isAbout ready
  unfold Request.eventIn
  generalize ran : c.run s.memory = run at comes
  cases comes with
  | refused kept =>
    rw [Request.run_call_of_error ran]
    exact isolated.refused kept _ _
  | @carriedOut log a g m' becomes fits subject =>
    have subject : h.Knows a ∨ a = s.memory.georeferences.count := by
      refine subject.imp_left fun changes => ?_
      cases c with
      | change b _ _ =>
        obtain rfl : a = b := changes
        exact possible
      | make => contradiction
      | copy => contradiction
    obtain ⟨log, ran⟩ := Request.run_call ran
    rw [ran]
    refine isolated.step (spares_of_becomes isolated.sound becomes ⟨_, fits⟩ subject ?_) fun r inUse =>
      .inl ⟨inUse, rfl, rfl, fun _ => rfl, rfl⟩
    exact fun b answered => (Option.some.inj answered).symm

theorem makeResource {a : Option Address} {header : List (String × HeaderValue)} {readOnly : Bool}
    (possible : (Request.makeResource a header readOnly).IsPossible h s) :
    Isolated ((Request.makeResource a header readOnly).run s).2
      ((Request.makeResource a header readOnly).eventIn s :: h) := by
  obtain ⟨value, shows, fits⟩ :=
    isolated.sound.exists_shows fun b stored => isolated.known b (possible b stored)
  obtain ⟨log, o, m', ran, gains, shown⟩ := Request.run_makeResource shows fits header readOnly
  unfold Request.eventIn
  rw [ran]
  have cleared := GeoReference.fits_map_cleared fits
  refine isolated.step (spares_of_gains isolated.sound gains cleared nofun) fun r inUse => ?_
  by_cases new : r = s.resources.count
  · subst new
    right
    rw [Arena.object_add]
    refine ⟨fun p stored => isolated.secret_of_gains gains rfl stored, _, shown, ?_, ?_, ?_, cleared⟩
    · rw [History.given_cons_of_some (Event.gives_makeResource ..)]
      cases shows with
      | none => exact .none
      | some shows => exact .some ⟨_, shows, rfl⟩
    · exact fun name => (History.put_cons_of_some (Event.puts_makeResource ..)).symm
    · exact (History.isReadOnly_cons_of_some (Event.declares_makeResource ..)).symm
  · have older : r < s.resources.count := Nat.lt_of_le_of_ne (Nat.le_of_lt_succ inUse) new
    have other : s.resources.count ≠ r := Ne.symm new
    exact .inl ⟨older, if_neg new, if_neg other, fun _ => if_neg other, if_neg other⟩

theorem read {r : Address} (possible : r < s.resources.count) :
    Isolated ((Request.read r).run s).2 ((Request.read r).eventIn s :: h) := by
  obtain ⟨v, shown, accounts⟩ := (isolated.kept r possible).accounts
  obtain ⟨log, b, m', ran, gains⟩ := Request.run_read shown accounts.fits
  unfold Request.eventIn
  rw [ran]
  have fits := GeoReference.fits_map_cleared accounts.fits
  exact isolated.step (spares_of_gains isolated.sound gains fits fun _ answered => answered)
    fun i inUse => .inl ⟨inUse, rfl, rfl, fun _ => rfl, rfl⟩

theorem write {r a : Address} (possible : r < s.resources.count) (knows : h.Knows a) :
    Isolated ((Request.write r a).run s).2 ((Request.write r a).eventIn s :: h) := by
  obtain ⟨v, shown, accounts⟩ := (isolated.kept r possible).accounts
  obtain ⟨g, shows, fits⟩ := isolated.sound.exists_value (isolated.known a knows)
  unfold Request.eventIn
  cases readOnly : v.readOnly with
  | true =>
    rw [Request.run_write_of_readOnly (shown.readOnly.trans readOnly)]
    exact isolated.refused (.refl _) _ _
  | false =>
    obtain ⟨log, o, m', ran, gains, shown'⟩ := Request.run_write shown readOnly shows fits
    rw [ran]
    have cleared : ∀ g' ∈ some g.cleared, g'.Fits := by
      rintro _ ⟨⟩
      exact fits.cleared
    refine isolated.step (spares_of_gains isolated.sound gains cleared nofun) fun i inUse => ?_
    by_cases same : i = r
    · subst same
      right
      rw [Arena.object_update]
      refine ⟨fun p stored => isolated.secret_of_gains gains rfl stored, _, shown', ?_, ?_, ?_, cleared⟩
      · rw [History.given_cons_of_some (Event.gives_write ..)]
        exact .some ⟨g, shows, rfl⟩
      · intro name
        rw [History.put_cons rfl]
        exact accounts.header name
      · rw [History.isReadOnly_cons rfl]
        exact accounts.readOnly
    · exact .inl ⟨inUse, if_neg same, if_neg (Ne.symm same), fun _ => rfl, rfl⟩

theorem writeHeader {r : Address} (possible : r < s.resources.count) (name : String)
    (value : HeaderValue) :
    Isolated ((Request.writeHeader r name value).run s).2
      ((Request.writeHeader r name value).eventIn s :: h) := by
  obtain ⟨secret, v, shown, accounts⟩ := isolated.kept r possible
  unfold Request.eventIn
  cases readOnly : (s.resources.object r).readOnly with
  | true =>
    rw [Request.run_writeHeader_of_readOnly readOnly]
    exact isolated.refused (.refl _) _ _
  | false =>
    rw [Request.run_writeHeader readOnly]
    refine isolated.step (spares_of_keeps isolated.sound (.refl _) rfl) fun i inUse => ?_
    by_cases same : i = r
    · subst same
      right
      rw [Arena.object_update]
      refine ⟨?_, { v with header := MemoryResource.putHeader name (.string value.text) v.header },
        ⟨shown.georeference, ?_, shown.readOnly⟩, ?_, ?_, ?_, accounts.fits⟩
      · intro p stored knows
        exact secret p stored ((History.knows_cons.mp knows).resolve_left nofun)
      · rw [shown.header]
      · rw [History.given_cons rfl]
        exact accounts.georeference
      · intro name'
        show (MemoryResource.putHeader _ _ _).lookup name' = _
        rw [MemoryResource.lookup_putHeader]
        by_cases here : name = name'
        · subst here
          rw [if_pos rfl, History.put_cons_of_some (Event.puts_writeHeader ..)]
        · rw [if_neg here, History.put_cons (Event.puts_writeHeader_of_ne _ _ here ..)]
          exact accounts.header name'
      · rw [History.isReadOnly_cons rfl]
        exact accounts.readOnly
    · have other : ∀ name', ¬ (r = i ∧ name = name') := fun _ both => same both.1.symm
      exact .inl ⟨inUse, if_neg same, rfl, fun name' => if_neg (other name'), rfl⟩

theorem request {request : Request α} (possible : request.IsPossible h s) :
    Isolated (request.run s).2 (request.eventIn s :: h) := by
  cases request with
  | call c => exact isolated.call possible
  | makeResource a header readOnly => exact isolated.makeResource possible
  | read r => exact isolated.read possible
  | write r a => exact isolated.write possible.1 possible.2
  | readHeader r name =>
    exact isolated.step (spares_of_keeps isolated.sound (.refl _) rfl) fun i inUse =>
      .inl ⟨inUse, rfl, rfl, fun _ => rfl, rfl⟩
  | writeHeader r name value => exact isolated.writeHeader possible name value

end Isolated

theorem Leads.isolated {s' : Store α} {h' : History α} (isolated : Isolated s h)
    (led : Leads s h s' h') : Isolated s' h' := by
  induction led with
  | nowhere => exact isolated
  | on led possible ih => exact ih.request possible

theorem Arises.isolated (arises : Arises s h) : Isolated s h := by
  obtain ⟨start, vacant, empty, led⟩ := arises
  refine Leads.isolated ⟨⟨fun _ => false, ?_⟩, ?_, ?_⟩ led
  · intro a inUse
    rw [vacant] at inUse
    contradiction
  · rintro a ⟨e, member, _⟩
    contradiction
  · intro r inUse
    rw [empty] at inUse
    contradiction

/-! ### Read-only resources -/

theorem Request.count_of_work {β : Type} {request : Request α} {x : Action α β}
    {f : β → Answer × Arena ResourceObject}
    (worked : request.work s.resources = x >>= fun b => pure (f b))
    (grows : ∀ b, s.resources.count ≤ (f b).2.count) :
    s.resources.count ≤ (request.run s).2.resources.count := by
  rcases ran : x s.memory with ⟨⟨log, fault | b⟩, m'⟩
  · have refused := Action.bind_of_error ran fun b => pure (f b)
    rw [← worked] at refused
    rw [Request.run_of_error refused]
  · have done := Action.bind_pure_of_ok ran f
    rw [← worked] at done
    rw [Request.run_of_ok done]
    exact grows b

/-- Resources are never given up. -/
theorem Request.count_le (request : Request α) :
    s.resources.count ≤ (request.run s).2.resources.count := by
  cases request with
  | call c => exact count_of_work rfl fun _ => Nat.le_refl _
  | makeResource a header readOnly => exact count_of_work rfl fun _ => Nat.le_succ _
  | read r => exact count_of_work rfl fun _ => Nat.le_refl _
  | write r a => exact count_of_work rfl fun _ => Nat.le_refl _
  | readHeader r name => exact Nat.le_refl _
  | writeHeader r name value => exact count_of_work rfl fun _ => Nat.le_refl _

theorem Isolated.refuses (isolated : Isolated s h) {r : Address} (inUse : r < s.resources.count)
    (readOnly : h.isReadOnly r = true) : (s.resources.object r).readOnly = true := by
  obtain ⟨_, v, shown, accounts⟩ := isolated.kept r inUse
  exact shown.readOnly.trans (accounts.readOnly.trans readOnly)

/-- Every possible request passes by a read-only resource. -/
theorem Isolated.passesBy_of_readOnly (isolated : Isolated s h) {r : Address}
    (inUse : r < s.resources.count) (readOnly : h.isReadOnly r = true) {request : Request α}
    (possible : request.IsPossible h s) : (request.eventIn s).PassesBy r := by
  have refuses := isolated.refuses inUse readOnly
  unfold Request.eventIn
  cases request with
  | call c => exact ⟨rfl, fun _ => rfl, rfl⟩
  | makeResource a header readOnly =>
    obtain ⟨value, shows, fits⟩ :=
      isolated.sound.exists_shows fun b stored => isolated.known b (possible b stored)
    obtain ⟨log, o, m', ran, _⟩ := Request.run_makeResource shows fits header readOnly
    have other : s.resources.count ≠ r := Nat.ne_of_gt inUse
    rw [ran]
    exact ⟨if_neg other, fun _ => if_neg other, if_neg other⟩
  | read r => exact ⟨rfl, fun _ => rfl, rfl⟩
  | write r' a =>
    by_cases same : r' = r
    · subst same
      rw [Request.run_write_of_readOnly refuses]
      exact Event.passesBy_of_error _ _ _ _
    · cases ((Request.write r' a).run s).1.result with
      | error fault => exact Event.passesBy_of_error _ _ _ _
      | ok answer => exact ⟨if_neg same, fun _ => rfl, rfl⟩
  | readHeader r name => exact ⟨rfl, fun _ => rfl, rfl⟩
  | writeHeader r' name value =>
    by_cases same : r' = r
    · subst same
      rw [Request.run_writeHeader_of_readOnly refuses]
      exact Event.passesBy_of_error _ _ _ _
    · cases ((Request.writeHeader r' name value).run s).1.result with
      | error fault => exact Event.passesBy_of_error _ _ _ _
      | ok answer => exact ⟨rfl, fun _ => if_neg fun both => same both.1, rfl⟩

/-- No requests change what a read-only resource has been given. -/
theorem Leads.given_of_readOnly (isolated : Isolated s h) {r : Address}
    (inUse : r < s.resources.count) (readOnly : h.isReadOnly r = true) {s' : Store α}
    {h' : History α} (led : Leads s h s' h') :
    h'.given r = h.given r ∧ ∀ name, h'.put r name = h.put r name := by
  -- that the resource is in use and read-only has to be carried along
  have stays : r < s'.resources.count ∧ h'.isReadOnly r = true ∧ h'.given r = h.given r ∧
      ∀ name, h'.put r name = h.put r name := by
    induction led with
    | nowhere => exact ⟨inUse, readOnly, rfl, fun _ => rfl⟩
    | @on s' h' request led possible ih =>
      obtain ⟨inUse, readOnly, given, put⟩ := ih
      have passes := (led.isolated isolated).passesBy_of_readOnly inUse readOnly possible
      refine ⟨Nat.lt_of_lt_of_le inUse request.count_le, ?_, ?_, fun name => ?_⟩
      · rw [History.isReadOnly_cons passes.declares, readOnly]
      · rw [History.given_cons passes.gives, given]
      · rw [History.put_cons (passes.puts name), put name]
  exact stays.2.2

/-! ### What is given back -/

/-- A georeference is as another was in an earlier memory: its fields, those of its engine, the setup of
its provider, and all that it makes of coordinates and boxes. -/
structure Memory.SameState (m₀ : Memory α) (a : Address) (m : Memory α) (b : Address) : Prop where
  affine : (m.georeferences.object b).affine = (m₀.georeferences.object a).affine
  window : (m.georeferences.object b).window = (m₀.georeferences.object a).window
  projection : (m.engineOf b).projection = (m₀.engineOf a).projection
  datum : (m.engineOf b).datum = (m₀.engineOf a).datum
  isProjected : (m.engineOf b).isProjected = (m₀.engineOf a).isProjected
  source : (m.engineOf b).source = (m₀.engineOf a).source
  session : (m.providerOf (m.georeferences.object b).engine).session =
    (m₀.providerOf (m₀.georeferences.object a).engine).session
  converts : ∃ g g', m₀.Shows a g ∧ m.Shows b g' ∧ g.ConvertsAlike g'

theorem Memory.Shows.sameState {m₀ m : Memory α} {a b : Address} {g : GeoReference α}
    (before : m₀.Shows a g) (after : m.Shows b g.cleared) : m₀.SameState a m b where
  affine := after.affine.trans before.affine.symm
  window := after.window.trans before.window.symm
  projection := after.engine.projection.trans before.engine.projection.symm
  datum := after.engine.datum.trans before.engine.datum.symm
  isProjected := after.engine.isProjected.trans before.engine.isProjected.symm
  source := after.engine.source.trans before.engine.source.symm
  session := by
    rw [after.engine.console, before.engine.console]
    rfl
  converts := ⟨g, g.cleared, before, after, g.alike_cleared.convertsAlike⟩

theorem Isolated.run_read (isolated : Isolated s h) {r : Address} (inUse : r < s.resources.count) :
    ∃ log b m', (Request.read r).run s = (⟨log, .ok (.georeference b)⟩, ⟨m', s.resources⟩) ∧
      Option.Rel (fun b given => given.1.SameState given.2 m' b) b (h.given r) := by
  obtain ⟨_, v, shown, accounts⟩ := isolated.kept r inUse
  obtain ⟨log, b, m', ran, gains⟩ := Request.run_read shown accounts.fits
  refine ⟨log, b, m', ran, ?_⟩
  have copied := accounts.georeference
  have shows := gains.shows
  revert copied shows
  generalize v.georeference = value
  generalize h.given r = given
  intro copied shows
  cases copied with
  | none =>
    cases shows with
    | none => exact .none
  | some copied =>
    obtain ⟨g, before, rfl⟩ := copied
    cases shows with
    | some after => exact .some (before.sameState after)

theorem Isolated.run_readHeader (isolated : Isolated s h) {r : Address}
    (inUse : r < s.resources.count) (name : String) :
    (Request.readHeader r name).run s = (⟨[], .ok (.header (h.put r name))⟩, s) := by
  obtain ⟨_, v, shown, accounts⟩ := isolated.kept r inUse
  have stored : (s.resources.object r).readHeader name = h.put r name := by
    rw [← accounts.header name, ResourceObject.readHeader, shown.header]
    rfl
  rw [Request.run_readHeader, stored]

theorem Isolated.takes (isolated : Isolated s h) {r : Address} (inUse : r < s.resources.count)
    (writable : h.isReadOnly r = false) :
    (∀ a, h.Knows a → ((Request.write r a).run s).1.result = .ok .done) ∧
      ∀ name value, ((Request.writeHeader r name value).run s).1.result = .ok .done := by
  obtain ⟨_, v, shown, accounts⟩ := isolated.kept r inUse
  have takes : v.readOnly = false := accounts.readOnly.trans writable
  constructor
  · intro a knows
    obtain ⟨g, shows, fits⟩ := isolated.sound.exists_value (isolated.known a knows)
    obtain ⟨log, o, m', ran, _⟩ := Request.run_write shown takes shows fits
    rw [ran]
  · intro name value
    rw [Request.run_writeHeader (shown.readOnly.trans takes)]

/-- Whether a header value is the given text, not another value that is written as it is. -/
def isText (text : String) : HeaderValue → Bool
  | .string value => value == text
  | _ => false

theorem isText_iff {text : String} {value : HeaderValue} :
    isText text value = true ↔ value = .string text := by
  cases value <;> simp [isText]

/-- Whatever has been asked for, in any order: a resource gives back a georeference exactly if it was
given one, when it was made or later, and then one in the state of the georeference it was given
last, as that was then; and the header value it was given last under a name, or none. A resource
that is not read-only takes what callers know. One that is read-only refuses it, and nothing that
is asked for later changes what it gives back. -/
theorem resources_are_isolated (arises : Arises s h) {r : Address} (inUse : r < s.resources.count) :
    (∃ log b m', (Request.read r).run s = (⟨log, .ok (.georeference b)⟩, ⟨m', s.resources⟩) ∧
      Option.Rel (fun b given => given.1.SameState given.2 m' b) b (h.given r)) ∧
    (∀ name, (Request.readHeader r name).run s = (⟨[], .ok (.header (h.put r name))⟩, s)) ∧
    (h.isReadOnly r = false →
      (∀ a, h.Knows a → ((Request.write r a).run s).1.result = .ok .done) ∧
      ∀ name value, ((Request.writeHeader r name value).run s).1.result = .ok .done) ∧
    (h.isReadOnly r = true →
      (∀ a, ∃ fault, (Request.write r a).run s = (⟨[], .error fault⟩, s) ∧ fault.kind = .unsupported) ∧
      (∀ name value, ∃ fault, (Request.writeHeader r name value).run s = (⟨[], .error fault⟩, s) ∧
        fault.kind = .unsupported) ∧
      ∀ s' h', Leads s h s' h' → h'.given r = h.given r ∧ ∀ name, h'.put r name = h.put r name) := by
  have isolated := arises.isolated
  refine ⟨isolated.run_read inUse, isolated.run_readHeader inUse, isolated.takes inUse, ?_⟩
  intro readOnly
  have refuses := isolated.refuses inUse readOnly
  refine ⟨fun a => ?_, fun name value => ?_, fun s' h' led => ?_⟩
  · exact ⟨_, Request.run_write_of_readOnly refuses a, rfl⟩
  · exact ⟨_, Request.run_writeHeader_of_readOnly refuses name value, rfl⟩
  · exact led.given_of_readOnly isolated inUse readOnly

/-- A georeference without `+over` and with an overridden window is written to a resource. It is changed
then, and so is what is read from the resource; the first is given to a resource that is
read-only, which refuses the second. The other resource gives back what was written to it, with its
window, and the header value as text. -/
theorem overridden_window_is_given_back :
    ∃ (s : Store ℚ) (h : History ℚ), Arises s h ∧
      (s.memory.engineOf 0).projection = "+proj=utm +zone=11" ∧
      (∃ log b m', (Request.read 0).run s =
          (⟨log, .ok (.georeference (some b))⟩, ⟨m', s.resources⟩) ∧
        (m'.engineOf b).projection = "+proj=sinu +lon_0=-20" ∧
        (m'.georeferences.object b).window = .around180) ∧
      (Request.readHeader 0 "scale").run s = (⟨[], .ok (.header (some (.string "2")))⟩, s) ∧
      ∃ fault, (Request.write 1 2).run s = (⟨[], .error fault⟩, s) ∧ fault.kind = .unsupported := by
  let start : Store ℚ := ⟨Memory.vacant, ⟨0, fun _ => ⟨none, [], false⟩⟩⟩
  let requests : List (Request ℚ) :=
    [.call (.make Projection.Parabolic.provider { projection := some "+proj=sinu +lon_0=-20" }),
      .call (.change 0 Wkt.Described.catalogue (.window .around180)),
      .makeResource none [("scale", .int 1)] false,
      .write 0 0,
      .call (.change 0 Wkt.Described.catalogue (.projection "+proj=utm +zone=11")),
      .read 0,
      .call (.change 2 Wkt.Described.catalogue (.projection "+proj=moll")),
      .writeHeader 0 "scale" (.int 2),
      .makeResource (some 0) [] true]
  have runs : ((serve start [] requests).any fun (s, h) =>
      s.resources.count == 2 && (s.memory.engineOf 0).projection == "+proj=utm +zone=11" &&
        (h.given 0).any (fun (m, a) => (m.engineOf a).projection == "+proj=sinu +lon_0=-20" &&
          (m.georeferences.object a).window == .around180) &&
        (h.put 0 "scale").any (isText "2") && h.isReadOnly 1) = true := by
    decide +kernel
  obtain ⟨⟨s, h⟩, served, checked⟩ := (Option.any_eq_true _ _).mp runs
  simp only [Bool.and_eq_true, beq_iff_eq] at checked
  obtain ⟨⟨⟨⟨count, changed⟩, given⟩, header⟩, readOnly⟩ := checked
  have arises : Arises s h := ⟨start, rfl, rfl, Leads.nowhere.serve served⟩
  have first : 0 < s.resources.count := by omega
  have second : 1 < s.resources.count := by omega
  refine ⟨s, h, arises, changed, ?_, ?_, ?_⟩
  · obtain ⟨⟨m, a⟩, given, kept⟩ := (Option.any_eq_true _ _).mp given
    obtain ⟨⟨log, b, m', ran, back⟩, _⟩ := resources_are_isolated arises first
    simp only [Bool.and_eq_true, beq_iff_eq] at kept
    rw [given] at back
    cases back with
    | @some b _ same =>
      exact ⟨log, b, m', ran, same.projection.trans kept.1, same.window.trans kept.2⟩
  · obtain ⟨value, put, text⟩ := (Option.any_eq_true _ _).mp header
    obtain rfl := isText_iff.mp text
    have read := (resources_are_isolated arises first).2.1 "scale"
    rw [put] at read
    exact read
  · exact ((resources_are_isolated arises second).2.2.2 readOnly).1 2

end GeoRaster.Objects
