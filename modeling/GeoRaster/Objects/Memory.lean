import GeoRaster.GeoReference.Basic

/-! Objects in memory. Providers, engines and georeferences are objects whose fields change; an
engine knows its provider and a georeference its engine by address only. An action works on the
memory and may fail on the way; what it has written by then stays written, so that nothing
but the order of its steps keeps a failure from being seen. -/
namespace GeoRaster.Objects

open Projection (Console Provider)

abbrev Address := Nat

/-- The objects of one kind. Addresses below the count are in use; what lies at the others is
nobody's. -/
structure Arena (γ : Type) where
  count : Nat
  object : Address → γ

namespace Arena

variable {γ : Type}

/-- The arena with a new object at the first free address. -/
def add (a : Arena γ) (new : γ) : Arena γ :=
  ⟨a.count + 1, fun i => if i = a.count then new else a.object i⟩

def update (a : Arena γ) (i : Address) (f : γ → γ) : Arena γ :=
  ⟨a.count, fun j => if j = i then f (a.object j) else a.object j⟩

end Arena

structure EngineObject (α : Type) where
  source : Provider α
  provider : Address
  projection : String
  datum : Datum
  isProjected : Bool

structure GeoReferenceObject (α : Type) [Scalar α] where
  affine : AffineTransform α
  engine : Address
  window : LonWindow

structure Memory (α : Type) [Scalar α] where
  providers : Arena (Console α)
  engines : Arena (EngineObject α)
  georeferences : Arena (GeoReferenceObject α)

namespace Memory

variable {α : Type} [Scalar α]

def providerOf (m : Memory α) (e : Address) : Console α :=
  m.providers.object (m.engines.object e).provider

def engineOf (m : Memory α) (a : Address) : EngineObject α :=
  m.engines.object (m.georeferences.object a).engine

def addProvider (m : Memory α) (new : Console α) : Memory α :=
  { m with providers := m.providers.add new }

def addEngine (m : Memory α) (new : EngineObject α) : Memory α :=
  { m with engines := m.engines.add new }

def addGeoReference (m : Memory α) (new : GeoReferenceObject α) : Memory α :=
  { m with georeferences := m.georeferences.add new }

def updateProvider (m : Memory α) (p : Address) (f : Console α → Console α) : Memory α :=
  { m with providers := m.providers.update p f }

def updateEngine (m : Memory α) (e : Address) (f : EngineObject α → EngineObject α) : Memory α :=
  { m with engines := m.engines.update e f }

def updateGeoReference (m : Memory α) (a : Address)
    (f : GeoReferenceObject α → GeoReferenceObject α) : Memory α :=
  { m with georeferences := m.georeferences.update a f }

end Memory

/-- Work on the memory: a result with its log, and the memory afterwards, whether or not the
work succeeds. -/
def Action (α : Type) [Scalar α] (β : Type) : Type :=
  Memory α → Logged β × Memory α

namespace Action

variable {α β γ : Type} [Scalar α]

def ofLogged (x : Logged β) : Action α β :=
  fun m => (x, m)

/-- Goes on with the value of a successful action; a failure keeps its log and its memory. -/
def andThen (x : Action α β) (f : β → Action α γ) : Action α γ := fun m =>
  let (first, m) := x m
  match first.result with
  | .ok b =>
    let (second, m) := f b m
    (⟨first.log ++ second.log, second.result⟩, m)
  | .error e => (⟨first.log, .error e⟩, m)

instance : Monad (Action α) where
  pure b := ofLogged (pure b)
  bind := andThen

def read (f : Memory α → β) : Action α β :=
  fun m => (pure (f m), m)

def write (f : Memory α → Memory α) : Action α Unit :=
  fun m => (pure (), f m)

def new (count : Memory α → Nat) (add : Memory α → Memory α) : Action α Address :=
  fun m => (pure (count m), add m)

def attempt (x : Action α β) : Action α (Except Fault β) := fun m =>
  let (done, m) := x m
  (⟨done.log, .ok done.result⟩, m)

end Action

end GeoRaster.Objects
