import GeoRaster.GeoReference.Basic
import GeoRaster.HeaderValue

/-! Raster resources that may carry a georeference. Callers ask whether a resource can be read
from and written to. A resource in memory keeps copies of georeferences, so that nothing
is shared with its callers; others can do no more than say so. -/
namespace GeoRaster

structure MemoryResource (α : Type) [Scalar α] where
  georeference : Option (GeoReference α)
  header : List (String × HeaderValue)
  readOnly : Bool

namespace MemoryResource

variable {α : Type} [Scalar α]

def make (georeference : Option (GeoReference α)) (header : List (String × HeaderValue))
    (readOnly : Bool) : Logged (MemoryResource α) := do
  match georeference with
  | none => return ⟨none, header, readOnly⟩
  | some g => return ⟨some (← g.copy), header, readOnly⟩

def read (r : MemoryResource α) : Logged (Option (GeoReference α)) := do
  match r.georeference with
  | none => return none
  | some g => return some (← g.copy)

/-- The resource with a copy of a georeference; one that is read-only takes none. -/
def write (r : MemoryResource α) (g : GeoReference α) : Logged (MemoryResource α) := do
  if r.readOnly then Logged.ofExcept (.error .georeferenceNotWritable)
  else return { r with georeference := some (← g.copy) }

def readHeader (r : MemoryResource α) (name : String) : Option HeaderValue :=
  r.header.lookup name

def putHeader (name : String) (value : HeaderValue) :
    List (String × HeaderValue) → List (String × HeaderValue)
  | [] => [(name, value)]
  | entry :: rest => if entry.1 = name then (name, value) :: rest else entry :: putHeader name value rest

/-- The resource with a header value, kept as text; one that is read-only takes none. -/
def writeHeader (r : MemoryResource α) (name : String) (value : HeaderValue) :
    Except Fault (MemoryResource α) :=
  if r.readOnly then .error .readOnlyHeader
  else .ok { r with header := putHeader name (.string value.text) r.header }

end MemoryResource

inductive Resource (α : Type) [Scalar α] where
  | memory (contents : MemoryResource α)
  /-- A resource of the given type that carries no georeference and no header values. -/
  | bare (typeName : String)

namespace Resource

variable {α : Type} [Scalar α]

def canRead : Resource α → Bool
  | memory _ => true
  | bare _ => false

def canWrite : Resource α → Bool
  | memory r => !r.readOnly
  | bare _ => false

/-- The georeference of a resource, none if it has none or cannot be read. -/
def read : Resource α → Logged (Option (GeoReference α))
  | memory r => r.read
  | bare _ => return none

def write (g : GeoReference α) : Resource α → Logged (Resource α)
  | memory r => return memory (← r.write g)
  | bare _ => Logged.ofExcept (.error .georeferenceNotWritable)

def readHeader (name : String) : Resource α → Except Fault (Option HeaderValue)
  | memory r => .ok (r.readHeader name)
  | bare typeName => .error (.headerNotReadable typeName)

def writeHeader (name : String) (value : HeaderValue) : Resource α → Except Fault (Resource α)
  | memory r => (r.writeHeader name value).map memory
  | bare typeName => .error (.headerNotWritable typeName)

end Resource

end GeoRaster
