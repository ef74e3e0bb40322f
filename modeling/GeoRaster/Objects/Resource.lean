import GeoRaster.Objects.Call
import GeoRaster.Resource

/-! Resources as objects. A resource in memory has a georeference of its own: it takes a copy of the one
it is given, and hands out a copy of the one it has. Callers know georeferences by the addresses
that they have been answered with, and each resource by its address. -/
namespace GeoRaster.Objects

variable {α : Type} [Scalar α]

structure ResourceObject where
  georeference : Option Address
  header : List (String × HeaderValue)
  readOnly : Bool

structure Store (α : Type) [Scalar α] where
  memory : Memory α
  resources : Arena ResourceObject

def copyIfAny : Option Address → Action α (Option Address)
  | none => return none
  | some a => do return some (← copyGeoReference a)

namespace ResourceObject

def make (georeference : Option Address) (header : List (String × HeaderValue)) (readOnly : Bool) :
    Action α ResourceObject := do
  return ⟨← copyIfAny georeference, header, readOnly⟩

def read (o : ResourceObject) : Action α (Option Address) :=
  copyIfAny o.georeference

/-- The resource with a copy of a georeference; one that is read-only takes none. -/
def write (o : ResourceObject) (a : Address) : Action α ResourceObject :=
  if o.readOnly then Action.ofLogged (Logged.ofExcept (.error .georeferenceNotWritable))
  else do return { o with georeference := some (← copyGeoReference a) }

def readHeader (o : ResourceObject) (name : String) : Option HeaderValue :=
  o.header.lookup name

/-- The resource with a header value, kept as text; one that is read-only takes none. -/
def writeHeader (o : ResourceObject) (name : String) (value : HeaderValue) :
    Except Fault ResourceObject :=
  if o.readOnly then .error .readOnlyHeader
  else .ok { o with header := MemoryResource.putHeader name (.string value.text) o.header }

end ResourceObject

/-- What callers can ask for where there are resources. -/
inductive Request (α : Type) [Scalar α] where
  | call (c : Call α)
  | makeResource (georeference : Option Address) (header : List (String × HeaderValue))
      (readOnly : Bool)
  | read (r : Address)
  | write (r a : Address)
  | readHeader (r : Address) (name : String)
  | writeHeader (r : Address) (name : String) (value : HeaderValue)

inductive Answer where
  | georeference (a : Option Address)
  | resource (r : Address)
  | header (value : Option HeaderValue)
  | done

namespace Request

/-- The work on georeferences that a request takes, with its answer and the resources after it. -/
def work (resources : Arena ResourceObject) : Request α → Action α (Answer × Arena ResourceObject)
  | .call c => do
    let a ← c.run
    return (.georeference (some a), resources)
  | .makeResource georeference header readOnly => do
    let o ← ResourceObject.make georeference header readOnly
    return (.resource resources.count, resources.add o)
  | .read r => do
    let a ← (resources.object r).read
    return (.georeference a, resources)
  | .write r a => do
    let o ← (resources.object r).write a
    return (.done, resources.update r fun _ => o)
  | .readHeader r name => return (.header ((resources.object r).readHeader name), resources)
  | .writeHeader r name value => do
    let o ← Action.ofLogged (Logged.ofExcept ((resources.object r).writeHeader name value))
    return (.done, resources.update r fun _ => o)

/-- Carries a request out. One that fails leaves every resource as it was. -/
def run (request : Request α) (s : Store α) : Logged Answer × Store α :=
  let (done, memory) := request.work s.resources s.memory
  match done.result with
  | .ok (answer, resources) => (⟨done.log, .ok answer⟩, ⟨memory, resources⟩)
  | .error fault => (⟨done.log, .error fault⟩, ⟨memory, s.resources⟩)

end Request

end GeoRaster.Objects
