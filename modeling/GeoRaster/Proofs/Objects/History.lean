import GeoRaster.Proofs.Objects.Resource

/-! Histories of requests. An event is a request with what came of it; a history tells what georeference
and what header values a resource has been given last, whether it is read-only, and which
georeferences callers have been answered with. Callers ask for what is possible by the history so
far, in any order, and what fails is part of the history too. -/
namespace GeoRaster.Objects

variable {α : Type} [Scalar α]

/-- A request, what came of it, and the georeferences as they were when it was made. -/
structure Event (α : Type) [Scalar α] where
  before : Memory α
  request : Request α
  outcome : Except Fault Answer

def Request.eventIn (request : Request α) (s : Store α) : Event α :=
  ⟨s.memory, request, (request.run s).1.result⟩

namespace Event

/-- The georeference that a caller has been answered with. -/
def handsOut (e : Event α) : Option Address :=
  match e.outcome with
  | .ok (.georeference a) => a
  | _ => none

/-- The georeference that a resource has been given, if it is this that has happened; when it was made
it may have been given none. -/
def gives (e : Event α) (r : Address) : Option (Option (Memory α × Address)) :=
  match e.request, e.outcome with
  | .makeResource a _ _, .ok (.resource made) =>
    if made = r then some (a.map (e.before, ·)) else none
  | .write r' a, .ok _ => if r' = r then some (some (e.before, a)) else none
  | _, _ => none

/-- The header value that a resource has been given under a name, if it is this that has happened. -/
def puts (e : Event α) (r : Address) (name : String) : Option (Option HeaderValue) :=
  match e.request, e.outcome with
  | .makeResource _ header _, .ok (.resource made) =>
    if made = r then some (header.lookup name) else none
  | .writeHeader r' name' value, .ok _ =>
    if r' = r ∧ name' = name then some (some (.string value.text)) else none
  | _, _ => none

/-- Whether a resource has been made read-only, if it is this that has happened. -/
def declares (e : Event α) (r : Address) : Option Bool :=
  match e.request, e.outcome with
  | .makeResource _ _ readOnly, .ok (.resource made) => if made = r then some readOnly else none
  | _, _ => none

end Event

/-- Events, the latest one first. -/
abbrev History (α : Type) [Scalar α] := List (Event α)

namespace History

/-- Whether callers have been answered with a georeference. -/
def Knows (h : History α) (a : Address) : Prop :=
  ∃ e ∈ h, e.handsOut = some a

instance (h : History α) (a : Address) : Decidable (h.Knows a) :=
  inferInstanceAs (Decidable (∃ e ∈ h, e.handsOut = some a))

/-- The georeference that a resource was given last, with the memory at that time. -/
def given (h : History α) (r : Address) : Option (Memory α × Address) :=
  (h.findSome? (·.gives r)).join

/-- The header value that a resource was given last under a name. -/
def put (h : History α) (r : Address) (name : String) : Option HeaderValue :=
  (h.findSome? (·.puts r name)).join

def isReadOnly (h : History α) (r : Address) : Bool :=
  (h.findSome? (·.declares r)).getD false

end History

/-- Whether a request is about georeferences that callers have been answered with, and resources that
have been made. -/
def Request.IsPossible (h : History α) (s : Store α) : Request α → Prop
  | .call (.make _ _) => True
  | .call (.change a _ _) | .call (.copy a) => h.Knows a
  | .makeResource a _ _ => ∀ b, a = some b → h.Knows b
  | .read r | .readHeader r _ | .writeHeader r _ _ => r < s.resources.count
  | .write r a => r < s.resources.count ∧ h.Knows a

instance (h : History α) (s : Store α) : DecidablePred (Request.IsPossible h s)
  | .call (.make _ _) => .isTrue trivial
  | .call (.change a _ _) | .call (.copy a) => inferInstanceAs (Decidable (h.Knows a))
  | .makeResource a _ _ => inferInstanceAs (Decidable (∀ b ∈ a, h.Knows b))
  | .read r | .readHeader r _ | .writeHeader r _ _ =>
    inferInstanceAs (Decidable (r < s.resources.count))
  | .write r a => inferInstanceAs (Decidable (r < s.resources.count ∧ h.Knows a))

/-- Where requests lead from a store, and what has happened by then. -/
inductive Leads (s : Store α) (h : History α) : Store α → History α → Prop where
  | nowhere : Leads s h s h
  | on {s' : Store α} {h' : History α} {request : Request α} (led : Leads s h s' h')
      (possible : request.IsPossible h' s') :
      Leads s h (request.run s').2 (request.eventIn s' :: h')

/-- Carries requests out one after another, if each is possible when its turn comes. -/
def serve (s : Store α) (h : History α) : List (Request α) → Option (Store α × History α)
  | [] => some (s, h)
  | request :: rest =>
    if request.IsPossible h s then serve (request.run s).2 (request.eventIn s :: h) rest else none

theorem Leads.serve {s s₁ s₂ : Store α} {h h₁ h₂ : History α} (led : Leads s h s₁ h₁)
    {requests : List (Request α)} (served : serve s₁ h₁ requests = some (s₂, h₂)) :
    Leads s h s₂ h₂ := by
  induction requests generalizing s₁ h₁ with
  | nil =>
    cases served
    exact led
  | cons request rest ih =>
    unfold Objects.serve at served
    by_cases possible : request.IsPossible h₁ s₁
    · rw [if_pos possible] at served
      exact ih (led.on possible) served
    · rw [if_neg possible] at served
      contradiction

/-- The stores that requests lead to from one without georeferences and resources. -/
def Arises (s : Store α) (h : History α) : Prop :=
  ∃ start : Store α, start.memory.georeferences.count = 0 ∧ start.resources.count = 0 ∧
    Leads start [] s h

/-- An event that gives a resource nothing. -/
structure Event.PassesBy (e : Event α) (r : Address) : Prop where
  gives : e.gives r = none
  puts : ∀ name, e.puts r name = none
  declares : e.declares r = none

namespace History

variable {e : Event α} {h : History α} {r : Address}

theorem knows_cons {a : Address} : Knows (e :: h) a ↔ e.handsOut = some a ∨ h.Knows a := by
  simp [Knows]

theorem given_cons (passes : e.gives r = none) : given (e :: h) r = h.given r := by
  simp [given, passes]

theorem given_cons_of_some {g : Option (Memory α × Address)} (gives : e.gives r = some g) :
    given (e :: h) r = g := by
  simp [given, gives]

theorem put_cons {name : String} (passes : e.puts r name = none) :
    put (e :: h) r name = h.put r name := by
  simp [put, passes]

theorem put_cons_of_some {name : String} {value : Option HeaderValue}
    (puts : e.puts r name = some value) : put (e :: h) r name = value := by
  simp [put, puts]

theorem isReadOnly_cons (passes : e.declares r = none) : isReadOnly (e :: h) r = h.isReadOnly r := by
  simp [isReadOnly, passes]

theorem isReadOnly_cons_of_some {readOnly : Bool} (declares : e.declares r = some readOnly) :
    isReadOnly (e :: h) r = readOnly := by
  simp [isReadOnly, declares]

end History

namespace Event

theorem passesBy_of_error (m : Memory α) (request : Request α) (fault : Fault) (r : Address) :
    PassesBy ⟨m, request, .error fault⟩ r := by
  cases request <;> exact ⟨rfl, fun _ => rfl, rfl⟩

section Gifts

variable (m : Memory α) (r : Address) (header : List (String × HeaderValue)) (readOnly : Bool)

theorem gives_makeResource (a : Option Address) :
    gives ⟨m, .makeResource a header readOnly, .ok (.resource r)⟩ r = some (a.map (m, ·)) :=
  if_pos rfl

theorem puts_makeResource (a : Option Address) (name : String) :
    puts ⟨m, .makeResource a header readOnly, .ok (.resource r)⟩ r name = some (header.lookup name) :=
  if_pos rfl

theorem declares_makeResource (a : Option Address) :
    declares ⟨m, .makeResource a header readOnly, .ok (.resource r)⟩ r = some readOnly :=
  if_pos rfl

theorem gives_write (a : Address) (answer : Answer) :
    gives ⟨m, .write r a, .ok answer⟩ r = some (some (m, a)) :=
  if_pos rfl

theorem puts_writeHeader (name : String) (value : HeaderValue) (answer : Answer) :
    puts ⟨m, .writeHeader r name value, .ok answer⟩ r name = some (some (.string value.text)) :=
  if_pos ⟨rfl, rfl⟩

theorem puts_writeHeader_of_ne {name name' : String} (other : name ≠ name') (value : HeaderValue)
    (answer : Answer) : puts ⟨m, .writeHeader r name value, .ok answer⟩ r name' = none :=
  if_neg fun both => other both.2

end Gifts

end Event

end GeoRaster.Objects
