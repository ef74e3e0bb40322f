import GeoRaster.Proofs.Datum
import GeoRaster.Proofs.GeoReference.Change

/-! What holds of every georeference. Building decides everything but the window, which callers may
override afterwards; copying sets the provider up from the string it was set up from already. -/
namespace GeoRaster.GeoReference

open Projection
open Mapping (WindowChoice)

variable {α : Type} [Scalar α]

/-- The parts of a georeference fit together. The window and `+over` go together as long as nobody
overrides the window. -/
structure Sound (overridden : Bool) (g : GeoReference α) : Prop where
  configured : (g.engine.provider.configure g.engine.overall).result = .ok g.engine.session
  trimmed : Text.trimmed g.projection = g.projection
  named : (projectionName g.projection).isSome = true
  utm : isUTM g.projection = true → g.window = .aroundZero ∧ hasToken g.projection overToken = false
  placement : overridden = false →
    (hasToken g.projection overToken = true ↔ g.window = .around180)
  complete : g.datum.lacksDatumName = false

theorem Builds.sound {provider : Provider α} {affine : AffineTransform α} {projection : String}
    {datum : Datum} {g : GeoReference α} (built : Builds provider affine projection datum g)
    (complete : datum.lacksDatumName = false) : Sound false g := by
  have utm := fun isUTM => built.of_utm isUTM
  obtain @⟨q, session, final, choice, prepared, configured, chosen, stays⟩ := built
  have ready := Engine.prepared_ok prepared
  have named : (projectionName (choice.kept q)).isSome = true := by
    rw [projectionName_congr (choice.tokensButOver_kept q)]
    exact ready.named
  refine ⟨stays, ?_, named, utm, fun _ => ?_, complete⟩
  · show Text.trimmed (choice.kept q) = choice.kept q
    unfold WindowChoice.kept
    split
    · exact trimmed_removeToken q overToken
    · exact ready.trimmed
  · show hasToken (choice.kept q) overToken = true ↔ choice.window = .around180
    cases window : choice.window with
    | aroundZero =>
      have clears : choice.clearsOver = true := by
        rw [WindowChoice.clearsOver, window]
        rfl
      simp [WindowChoice.kept, clears, hasToken_removeToken]
    | around180 =>
      -- the string has been prepared with `+over`, since zones never come here
      have stays : choice.clearsOver = false := by
        rw [WindowChoice.clearsOver, window]
        rfl
      have notUTM := WindowChoice.notUTM_of_stays chosen stays
      rw [isUTM_congr ready.tokens] at notUTM
      simp [WindowChoice.kept, stays, ready.placement, notUTM]

theorem Sound.setWindow {overridden : Bool} {g : GeoReference α} (sound : Sound overridden g)
    (window : LonWindow) : Sound true (g.setWindow window) := by
  obtain ⟨configured, trimmed, named, utm, _, complete⟩ := sound
  unfold GeoReference.setWindow
  split
  · exact ⟨configured, trimmed, named, utm, nofun, complete⟩
  · rename_i notUTM
    exact ⟨configured, trimmed, named, fun isUTM => absurd isUTM notUTM, nofun, complete⟩

/-- A datum that a change derives is complete, if the one in force was. -/
theorem Change.Derives.complete {catalogue : Wkt.Catalogue} {g : GeoReference α} {c : Change α}
    {affine : AffineTransform α} {projection : String} {datum : Datum}
    (derived : c.Derives catalogue g affine projection datum)
    (complete : g.datum.lacksDatumName = false) : datum.lacksDatumName = false := by
  cases derived with
  | transform => exact complete
  | interpretation => exact complete
  | datum completed => exact lacksDatumName_of_named completed
  | wellKnownDatum _ completed => exact lacksDatumName_of_named completed
  | projection => exact complete
  | named => exact complete
  | wkt _ completed => exact lacksDatumName_of_named completed

theorem Sound.change {overridden : Bool} {g h : GeoReference α} (sound : Sound overridden g)
    {catalogue : Wkt.Catalogue} {c : Change α} (changed : (g.change catalogue c).result = .ok h) :
    Sound c.choosesWindow h := by
  rcases change_ok_iff.mp changed with ⟨window, rfl, rfl⟩ | ⟨_, _, _, derived, built⟩
  · exact sound.setWindow window
  · rw [derived.choosesWindow]
    exact built.sound (derived.complete sound.complete)

theorem make_sound {provider : Provider α} {spec : GeoReferenceSpec α} {g : GeoReference α}
    (made : (make provider spec).result = .ok g) : Sound false g := by
  obtain ⟨affine, _, datum, completed, built⟩ := make_ok_iff.mp made
  exact built.sound (lacksDatumName_of_named completed)

/-- A provider that was set up from a string once is set up alike from it again. -/
theorem Sound.copy {overridden : Bool} {g h : GeoReference α} (sound : Sound overridden g)
    (copied : g.copy.result = .ok h) : Sound overridden h := by
  obtain ⟨engine, installed, copied⟩ := Logged.result_bind_eq_ok.mp copied
  obtain rfl := Except.ok.inj copied
  obtain ⟨session, configured, rfl⟩ := Engine.install_ok_iff.mp installed
  exact ⟨configured, sound.trimmed, sound.named, sound.utm, sound.placement, sound.complete⟩

/-- Georeferences as they come about: made from parts, changed, windows overridden, and copied. -/
inductive Reachable : GeoReference α → Prop
  | made {provider : Provider α} {spec : GeoReferenceSpec α} {g : GeoReference α} :
    (make provider spec).result = .ok g → Reachable g
  | changed {g h : GeoReference α} {catalogue : Wkt.Catalogue} {c : Change α} :
    Reachable g → (g.change catalogue c).result = .ok h → Reachable h
  | copied {g h : GeoReference α} : Reachable g → g.copy.result = .ok h → Reachable h

theorem Reachable.sound {g : GeoReference α} (reachable : Reachable g) :
    ∃ overridden, Sound overridden g := by
  induction reachable with
  | made ok => exact ⟨_, make_sound ok⟩
  | changed _ ok ih =>
    obtain ⟨_, sound⟩ := ih
    exact ⟨_, sound.change ok⟩
  | copied _ ok ih =>
    obtain ⟨_, sound⟩ := ih
    exact ⟨_, sound.copy ok⟩

end GeoRaster.GeoReference
