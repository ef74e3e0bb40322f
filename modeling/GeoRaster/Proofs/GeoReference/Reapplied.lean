import GeoRaster.Proofs.Affine
import GeoRaster.Proofs.GeoReference.Respelling
import GeoRaster.Proofs.GeoReference.Sound
import GeoRaster.Wkt.Described

/-! Own values, given back. What a georeference says of itself builds it once more: its matrix has the
inverses it had, its datum lacks nothing, and its projection string, trimmed, given `+over` where it has
none, and freed of it where the window does without, comes out as the text it was. Only an
overridden window is lost. -/
namespace GeoRaster

namespace AffineTransform

variable {α : Type} [Scalar α] {array : Option (Nested α)} {interpretation : GivenInterpretation}
  {t : AffineTransform α}

/-- A transform that can be made from its own matrix and interpretation. -/
def ComesOfItself (t : AffineTransform α) : Prop :=
  ofMatrix t.transform (.known t.interpretation) = .ok t

theorem comesOfItself_of_ofMatrix {m : Matrix3 α} (ok : ofMatrix m interpretation = .ok t) :
    t.ComesOfItself := by
  obtain ⟨transform, given⟩ := ofMatrix_ok ok
  rw [ComesOfItself, transform, ← given, ok]

theorem comesOfItself_of_make (ok : make array interpretation = .ok t) : t.ComesOfItself := by
  obtain ⟨m, _, ok⟩ := bind_eq_ok.mp (make_eq array interpretation ▸ ok)
  exact comesOfItself_of_ofMatrix ok

end AffineTransform

namespace GeoReference

open Projection
open Mapping (WindowChoice)

variable {α : Type} [Scalar α]

/-! ### The text that stays -/

/-- What stays of a prepared string stays of it again when it is prepared and the same window is chosen
once more. -/
theorem kept_again {s q q' : String} (prepared : Engine.prepared s = .ok q) {xScale : α}
    {start : Unit → Except Fault α} {choice : WindowChoice}
    (chosen : WindowChoice.choose q xScale start = .ok choice)
    (again : Engine.prepared (choice.kept q) = .ok q') : choice.kept q' = choice.kept q := by
  have first := Engine.prepared_ok prepared
  have second := Engine.prepared_ok again
  cases clears : choice.clearsOver with
  | true =>
    -- whatever `+over` was appended goes, and the other tokens have been kept
    have tokens : tokensButOver q' = tokensButOver q :=
      second.tokens.trans (choice.tokensButOver_kept q)
    simp only [WindowChoice.kept, clears, if_true, removeToken_congr tokens]
  | false =>
    have kept : choice.kept q = q := by
      rw [WindowChoice.kept, clears]
      rfl
    have notUTM := WindowChoice.notUTM_of_stays chosen clears
    rw [isUTM_congr first.tokens] at notUTM
    have placed : hasToken q overToken = true := by
      rw [first.placement, notUTM, Bool.not_false, Bool.or_true]
    have same := Engine.prepared_of_complete first.named (by rw [placed, Bool.true_or])
    rw [first.trimmed] at same
    rw [kept, same] at again
    rw [Except.ok.inj again]

variable {provider : Provider α} {affine : AffineTransform α} {s : String} {datum : Datum}
  {g h : GeoReference α}

/-- What is built is built from its own projection string as well. -/
theorem Builds.again (ignores : provider.IgnoresOverPlacement)
    (built : Builds provider affine s datum g) : Builds provider affine g.projection datum g := by
  have tokens := built.tokens
  -- zones have lost `+over`, so the provider is not asked about it again
  obtain ⟨fresh, rebuilt⟩ := built.exists_respelled ignores tokens.symm fun utm placed =>
    absurd ((built.of_utm utm).2.symm.trans placed) (by decide)
  have same : fresh = g := by
    obtain @⟨q, session, final, choice, prepared, configured, chosen, stays⟩ := built
    obtain @⟨q', session', final', choice', prepared', configured', chosen', stays'⟩ := rebuilt
    have chose := choose_respelled affine ignores tokens.symm prepared prepared' configured configured'
    obtain rfl := Except.ok.inj (chosen.symm.trans (chose.trans chosen'))
    have text := kept_again prepared chosen prepared'
    rw [text] at stays' ⊢
    obtain rfl := Except.ok.inj (stays.symm.trans stays')
    rfl
  rwa [same] at rebuilt

/-! ### Georeferences in use -/

/-- The georeference with a provider that has no failed evaluation to report. -/
def rested (g : GeoReference α) : GeoReference α :=
  { g with engine := { g.engine with lastError := none } }

theorem Builds.rested_eq (built : Builds provider affine s datum g) : g.rested = g := by
  obtain ⟨_, _, _, _⟩ := built
  rfl

/-- The georeference after a conversion by its engine, which its provider remembers if it failed. -/
def afterConversion (g : GeoReference α) (direction : Engine.Direction) (coordinate : List α) :
    GeoReference α :=
  { g with engine := g.engine.after direction coordinate }

theorem rested_afterConversion (g : GeoReference α) (direction : Engine.Direction)
    (coordinate : List α) : (g.afterConversion direction coordinate).rested = g.rested := by
  have remembers : ∀ answer : Evaluation α,
      ({ g with engine := g.engine.withConsole (g.engine.console.afterwards answer) } :
        GeoReference α).rested = g.rested := by
    intro answer
    cases answer <;> rfl
  unfold afterConversion Engine.after
  cases g.engine.question? direction coordinate with
  | none => rfl
  | some p => exact remembers _

/-- Georeferences in use, with the provider they were made with, and whether their windows were overridden
since they were last made or changed otherwise. Changes that are refused leave what was there. -/
inductive InUse (provider : Provider α) : Bool → GeoReference α → Prop
  | made {spec : GeoReferenceSpec α} {g : GeoReference α}
      (made : (make provider spec).result = .ok g) : InUse provider false g
  | changed {overridden : Bool} {g h : GeoReference α} {catalogue : Wkt.Catalogue} {c : Change α}
      (inUse : InUse provider overridden g) (changed : (g.change catalogue c).result = .ok h) :
      InUse provider c.choosesWindow h
  | copied {overridden : Bool} {g h : GeoReference α} (inUse : InUse provider overridden g)
      (copied : g.copy.result = .ok h) : InUse provider overridden h
  | converted {overridden : Bool} {g : GeoReference α} (inUse : InUse provider overridden g)
      (direction : Engine.Direction) (coordinate : List α) :
      InUse provider overridden (g.afterConversion direction coordinate)

/-- A georeference that its own parts stand for, the window apart if that is overridden. -/
structure ComesOfItself (provider : Provider α) (overridden : Bool) (g : GeoReference α) : Prop where
  source : g.engine.provider = provider
  affine : g.affine.ComesOfItself
  complete : g.datum.lacksDatumName = false
  built : overridden = false → ∃ spelling, Builds provider g.affine spelling g.datum g.rested

theorem Builds.comesOfItself (built : Builds provider affine s datum g)
    (transformed : affine.ComesOfItself) (complete : datum.lacksDatumName = false) :
    ComesOfItself provider false g := by
  obtain rfl := built.affine_eq
  obtain rfl := built.datum_eq
  exact ⟨built.provider_eq, transformed, complete, fun _ => ⟨s, built.rested_eq.symm ▸ built⟩⟩

theorem Change.Derives.comesOfItself {catalogue : Wkt.Catalogue} {c : Change α}
    (derived : c.Derives catalogue g affine s datum) (transformed : g.affine.ComesOfItself) :
    affine.ComesOfItself := by
  cases derived with
  | transform made => exact AffineTransform.comesOfItself_of_make made
  | interpretation made => exact AffineTransform.comesOfItself_of_ofMatrix made
  | datum => exact transformed
  | wellKnownDatum => exact transformed
  | projection => exact transformed
  | named => exact transformed
  | wkt => exact transformed

namespace ComesOfItself

variable {overridden : Bool}

/-- What is the same but for a failed evaluation comes of itself alike. -/
theorem of_rested (own : ComesOfItself provider overridden g) (same : h.rested = g.rested) :
    ComesOfItself provider overridden h := by
  have affine : h.affine = g.affine := congrArg (·.affine) same
  have datum : h.datum = g.datum := congrArg (·.datum) same
  have source : h.engine.provider = g.engine.provider := congrArg (·.engine.provider) same
  constructor
  · rw [source, own.source]
  · rw [affine]
    exact own.affine
  · rw [datum]
    exact own.complete
  · rw [same, affine, datum]
    exact own.built

theorem change {catalogue : Wkt.Catalogue} {c : Change α}
    (own : ComesOfItself provider overridden g) (changed : (g.change catalogue c).result = .ok h) :
    ComesOfItself provider c.choosesWindow h := by
  obtain ⟨source, transformed, complete, _⟩ := own
  rcases change_ok_iff.mp changed with ⟨window, rfl, rfl⟩ | ⟨_, _, _, derived, built⟩
  · unfold setWindow
    split
    · exact ⟨source, transformed, complete, nofun⟩
    · exact ⟨source, transformed, complete, nofun⟩
  · rw [source] at built
    rw [derived.choosesWindow]
    exact built.comesOfItself (derived.comesOfItself transformed) (derived.complete complete)

/-- A copy is set up from the string that the georeference was set up from. -/
theorem copy (own : ComesOfItself provider overridden g) (copied : g.copy.result = .ok h) :
    ComesOfItself provider overridden h := by
  obtain ⟨engine, installed, copied⟩ := Logged.result_bind_eq_ok.mp copied
  obtain rfl := Except.ok.inj copied
  obtain ⟨session, configured, rfl⟩ := Engine.install_ok_iff.mp installed
  refine ⟨own.source, own.affine, own.complete, fun followed => ?_⟩
  obtain ⟨spelling, built⟩ := own.built followed
  have again := (built.sound own.complete).configured
  obtain rfl := Except.ok.inj (again.symm.trans configured)
  exact ⟨spelling, built⟩

end ComesOfItself

theorem InUse.comesOfItself {overridden : Bool} (inUse : InUse provider overridden g) :
    ComesOfItself provider overridden g := by
  induction inUse with
  | made made =>
    obtain ⟨affine, transformed, datum, completed, built⟩ := make_ok_iff.mp made
    exact built.comesOfItself (AffineTransform.comesOfItself_of_make transformed)
      (lacksDatumName_of_named completed)
  | changed _ changed own => exact own.change changed
  | copied _ copied own => exact own.copy copied
  | converted _ direction coordinate own =>
    exact own.of_rested (rested_afterConversion _ direction coordinate)

/-- Giving a georeference back its own transform, interpretation, datum or projection string succeeds and
changes nothing, down to the text of the projection, unless its window has been overridden. Its
provider is set up anew, and has no failure to report. -/
theorem InUse.reapplied (ignores : provider.IgnoresOverPlacement) (inUse : InUse provider false g) :
    (g.setTransform (some g.affine.transform.array)).result = .ok g.rested ∧
      (g.setInterpretation (.known g.affine.interpretation)).result = .ok g.rested ∧
      (g.setDatum g.datum).result = .ok g.rested ∧
      (g.setProjection g.projection).result = .ok g.rested ∧
      g.rested.projection = g.projection ∧ g.rested.engine.overall = g.engine.overall := by
  obtain ⟨source, transformed, complete, built⟩ := inUse.comesOfItself
  obtain ⟨spelling, built⟩ := built rfl
  have rebuilt : (g.rebuilt g.affine g.projection g.datum).result = .ok g.rested := by
    apply rebuilt_ok_iff.mpr
    rw [source]
    exact built.again ignores
  have completed : (named g.datum).result = .ok g.datum := by
    rw [named_of_complete complete]
    rfl
  refine ⟨?_, ?_, ?_, rebuilt, rfl, rfl⟩
  · exact Logged.result_bind_eq_ok.mpr ⟨g.affine, transformed, rebuilt⟩
  · exact Logged.result_bind_eq_ok.mpr ⟨g.affine, transformed, rebuilt⟩
  · exact Logged.result_bind_eq_ok.mpr ⟨g.datum, completed, rebuilt⟩

/-- An oddly spaced string with `+over` twice: a georeference that keeps both, with a conversion that has
failed since, and one whose rows run westwards and that has lost them. -/
theorem reapplied_oddly_spaced :
    ∃ first second : GeoReference ℚ,
      InUse Parabolic.provider false first ∧
      first.projection = "+over  +proj=sinu   +disk=2 +over" ∧
      first.engine.lastError = some "fake: outside disk" ∧
      (first.setProjection first.projection).result = .ok first.rested ∧
      InUse Parabolic.provider false second ∧ second.projection = "+proj=sinu +disk=2" ∧
      (second.setProjection second.projection).result = .ok second.rested := by
  let westwards : Nested ℚ := .ofRows [[-1, 0, 0], [0, 1, 0], [0, 0, 1]]
  have runs : ((make (α := ℚ) Parabolic.provider
      { projection := some " +over  +proj=sinu   +disk=2 +over " }).result.toOption.any fun made =>
        let first := made.afterConversion .inverse [9, 9]
        decide (first.projection = "+over  +proj=sinu   +disk=2 +over") &&
          decide (first.engine.lastError = some "fake: outside disk") &&
          (first.setTransform (some westwards)).result.toOption.any fun second =>
            decide (second.projection = "+proj=sinu +disk=2")) = true := by
    decide +kernel
  obtain ⟨made, ok, checked⟩ := exists_of_toOption_any runs
  simp only [Bool.and_eq_true, decide_eq_true_eq] at checked
  obtain ⟨⟨text, failed⟩, runs⟩ := checked
  obtain ⟨second, turned, stripped⟩ := exists_of_toOption_any runs
  have inUse : InUse Parabolic.provider false (made.afterConversion .inverse [9, 9]) :=
    (InUse.made ok).converted _ _
  have changed : ((made.afterConversion .inverse [9, 9]).change Wkt.Described.catalogue
      (.transform (some westwards))).result = .ok second := turned
  have inUse' : InUse Parabolic.provider false second := inUse.changed changed
  obtain ⟨_, _, _, first', _⟩ := inUse.reapplied Parabolic.provider_ignoresOverPlacement
  obtain ⟨_, _, _, second', _⟩ := inUse'.reapplied Parabolic.provider_ignoresOverPlacement
  exact ⟨_, second, inUse, text, failed, first', inUse', of_decide_eq_true stripped, second'⟩

end GeoReference

end GeoRaster
