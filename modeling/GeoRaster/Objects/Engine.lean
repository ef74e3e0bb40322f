import GeoRaster.Objects.Memory

/-! Engines as objects. An engine is set up by a provider of its own, which is made and
configured before the engine's fields are written one after another. -/
namespace GeoRaster.Objects

open Projection (Console Provider Engine overallString removeToken overToken isGeographic)

variable {α : Type} [Scalar α]

def newProvider (source : Provider α) : Action α Address :=
  .new (·.providers.count) (·.addProvider (.idle source))

/-- Sets a provider up from a string; if the string is refused, its old setup stays. -/
def configureProvider (p : Address) (configuration : String) : Action α Unit := do
  let console ← Action.read fun m => m.providers.object p
  let console ← Action.ofLogged (console.reconfigure configuration)
  Action.write (·.updateProvider p fun _ => console)

def install (e : Address) (projection : String) (datum : Datum) : Action α Unit := do
  let engine ← Action.read fun m => m.engines.object e
  let provider ← newProvider engine.source
  configureProvider provider (overallString projection datum)
  Action.write (·.updateEngine e fun o => { o with provider })
  Action.write (·.updateEngine e fun o => { o with projection })
  Action.write (·.updateEngine e fun o => { o with datum })
  Action.write (·.updateEngine e fun o => { o with isProjected := !isGeographic projection })

def newInstalled (source : Provider α) (projection : String) (datum : Datum) :
    Action α Address := do
  let provider ← newProvider source
  configureProvider provider (overallString projection datum)
  let isProjected := !isGeographic projection
  .new (·.engines.count) (·.addEngine ⟨source, provider, projection, datum, isProjected⟩)

def newEngine (source : Provider α) (projection : String) (datum : Datum) : Action α Address := do
  let projection ← Action.ofLogged (Logged.ofExcept (Engine.prepared projection))
  newInstalled source projection datum

def reconfigure (e : Address) (projection : String) (datum : Datum) : Action α Unit := do
  let projection ← Action.ofLogged (Logged.ofExcept (Engine.prepared projection))
  install e projection datum

/-- Takes `+over` from an engine's projection; whether that changed the projection string. -/
def clearOver (e : Address) : Action α Bool := do
  let engine ← Action.read fun m => m.engines.object e
  let stripped := removeToken engine.projection overToken
  if stripped = engine.projection then return false
  else
    install e stripped engine.datum
    Action.ofLogged (Logged.debug ("Removed +over from projection: " ++ stripped))
    return true

def copyEngine (e : Address) : Action α Address := do
  let engine ← Action.read fun m => m.engines.object e
  newInstalled engine.source engine.projection engine.datum

/-- The longitude and latitude of a projected point; the engine's provider remembers how the
evaluation went. -/
def inverse (e : Address) (point : Point α) : Action α (Point α) := do
  let engine ← Action.read fun m => m.engines.object e
  if engine.isProjected then
    let console ← Action.read fun m => m.providers.object engine.provider
    let (answer, console) ← Action.ofLogged (Logged.ofExcept (console.evaluate (·.inverse) point))
    Action.write (·.updateProvider engine.provider fun _ => console)
    Action.ofLogged (Logged.ofExcept (Engine.inverseAnswer point answer))
  else return point

end GeoRaster.Objects
