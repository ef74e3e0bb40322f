import GeoRaster.Logged
import GeoRaster.Point

/-! Providers evaluate map projections. A provider is set up from a projection string, which
it may refuse, and then answers for single coordinates, each with a value or with the
reason why there is none. Angles are in radians on both sides. What a provider answers
depends on the string it was set up from and on nothing else. -/
namespace GeoRaster.Projection

/-- The answer to one evaluation: a point, or the reason why there is none. -/
abbrev Evaluation (α : Type) := Except String (Point α)

structure Evaluator (α : Type) where
  /-- The projected point of a longitude and latitude in radians. -/
  forward : Point α → Evaluation α
  /-- The longitude and latitude in radians of a projected point. -/
  inverse : Point α → Evaluation α

/-- A projection with the string it was set up from. -/
structure Session (α : Type) where
  configuration : String
  evaluator : Evaluator α

structure Provider (α : Type) where
  /-- Sets a projection up from its string, and keeps the string. -/
  configure : String → Logged (Session α)

/-- A provider in the hands of a caller, who may evaluate and set it up anew at any time. -/
structure Console (α : Type) where
  provider : Provider α
  session : Option (Session α)
  /-- Why the last evaluation failed, if it did. -/
  lastError : Option String

namespace Console

variable {α : Type}

def idle (provider : Provider α) : Console α :=
  ⟨provider, none, none⟩

def reconfigure (c : Console α) (configuration : String) : Logged (Console α) := do
  let session ← c.provider.configure configuration
  return ⟨c.provider, some session, none⟩

def afterwards (c : Console α) : Evaluation α → Console α
  | .ok _ => { c with lastError := none }
  | .error reason => { c with lastError := some reason }

def evaluate (c : Console α) (direction : Evaluator α → Point α → Evaluation α)
    (p : Point α) : Except Fault (Evaluation α × Console α) :=
  match c.session with
  | none => .error .unconfigured
  | some session =>
    let answer := direction session.evaluator p
    .ok (answer, c.afterwards answer)

/-- The string that the provider is set up from, if it is. -/
def configuration (c : Console α) : Option String :=
  c.session.map (·.configuration)

end Console

end GeoRaster.Projection
