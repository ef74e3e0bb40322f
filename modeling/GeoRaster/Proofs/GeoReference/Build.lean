import GeoRaster.GeoReference.Basic
import GeoRaster.Proofs.Projection.Setup

/-! Everything that making or changing a georeference can lead to. The relation says which
georeferences come of a transform, a projection string and a datum; the library makes
exactly those, and every fact about reachable georeferences is read off the relation. -/
namespace GeoRaster

open Projection

/-- What stays of a projection string in the chosen window. -/
def Mapping.WindowChoice.kept (choice : WindowChoice) (projection : String) : String :=
  if choice.clearsOver then removeToken projection overToken else projection

theorem Mapping.WindowChoice.tokensButOver_kept (choice : WindowChoice) (projection : String) :
    tokensButOver (choice.kept projection) = tokensButOver projection := by
  unfold kept
  split
  · exact tokensButOver_removeToken projection
  · rfl

theorem Mapping.WindowChoice.choose_utm {α : Type} [Scalar α] {projection : String}
    (utm : isUTM projection = true) (xScale : α) (start : Unit → Except Fault α) :
    choose projection xScale start = .ok ⟨.aroundZero, "UTM"⟩ := by
  simp only [choose, utm, if_true]

/-- Where `+over` stays, the projection is no zone of the universal transverse Mercator system. -/
theorem Mapping.WindowChoice.notUTM_of_stays {α : Type} [Scalar α] {projection : String} {xScale : α}
    {start : Unit → Except Fault α} {choice : WindowChoice}
    (chosen : choose projection xScale start = .ok choice) (stays : choice.clearsOver = false) :
    isUTM projection = false := by
  cases utm : isUTM projection with
  | false => rfl
  | true =>
    rw [choose_utm utm] at chosen
    obtain rfl := Except.ok.inj chosen
    contradiction

namespace GeoReferenceSpec

variable {α : Type}

/-- The datum that is asked for. -/
def givenDatum (spec : GeoReferenceSpec α) : Datum :=
  spec.datum.getD WellKnownDatum.wgs1984.datum

/-- The projection string that is asked for. -/
def givenProjection (spec : GeoReferenceSpec α) : String :=
  spec.projection.getD Named.geographic.string

end GeoReferenceSpec

namespace GeoReference

open Mapping (WindowChoice)

variable {α : Type} [Scalar α]

/-- Georeferences that come of a transform, a projection string and a datum: the string is
prepared and set up, the window is chosen with it, and what stays of the string is set up. -/
inductive Builds (provider : Provider α) (affine : AffineTransform α) (projection : String)
    (datum : Datum) : GeoReference α → Prop where
  | intro {q : String} {session final : Session α} {choice : WindowChoice}
      (prepared : Engine.prepared projection = .ok q)
      (configured : (provider.configure (overallString q datum)).result = .ok session)
      (chosen : WindowChoice.choose q affine.xScale
        (fun _ => startLongitude affine ⟨provider, session, none, q, datum⟩) = .ok choice)
      (stays : (provider.configure (overallString (choice.kept q) datum)).result = .ok final) :
      Builds provider affine projection datum
        ⟨affine, ⟨provider, final, none, choice.kept q, datum⟩, choice.window⟩

namespace Builds

variable {provider : Provider α} {affine : AffineTransform α} {projection : String} {datum : Datum}
  {g : GeoReference α} (built : Builds provider affine projection datum g)
include built

theorem provider_eq : g.engine.provider = provider := by
  obtain ⟨_, _, _, _⟩ := built
  rfl

theorem affine_eq : g.affine = affine := by
  obtain ⟨_, _, _, _⟩ := built
  rfl

theorem datum_eq : g.datum = datum := by
  obtain ⟨_, _, _, _⟩ := built
  rfl

theorem tokens : tokensButOver g.projection = tokensButOver projection := by
  obtain ⟨prepared, _, _, _⟩ := built
  exact (WindowChoice.tokensButOver_kept _ _).trans (Engine.prepared_ok prepared).tokens

/-- Zones of the universal transverse Mercator system lie around the prime meridian, and do
without `+over`. -/
theorem of_utm (utm : isUTM g.projection = true) :
    g.window = .aroundZero ∧ hasToken g.projection overToken = false := by
  obtain @⟨q, _, _, choice, _, _, chosen, _⟩ := built
  have same : isUTM (choice.kept q) = isUTM q :=
    isUTM_congr (WindowChoice.tokensButOver_kept choice q)
  rw [WindowChoice.choose_utm (same.symm.trans utm)] at chosen
  obtain rfl := Except.ok.inj chosen
  exact ⟨rfl, hasToken_removeToken q overToken⟩

end Builds

theorem commit_ok_iff {provider : Provider α} {affine : AffineTransform α} {session : Session α}
    {q : String} {datum : Datum} {g : GeoReference α}
    (configured : (provider.configure (overallString q datum)).result = .ok session) :
    (commit affine ⟨provider, session, none, q, datum⟩).result = .ok g ↔
      ∃ choice : WindowChoice, WindowChoice.choose q affine.xScale
          (fun _ => startLongitude affine ⟨provider, session, none, q, datum⟩) = .ok choice ∧
        ∃ final, (provider.configure (overallString (choice.kept q) datum)).result = .ok final ∧
          g = ⟨affine, ⟨provider, final, none, choice.kept q, datum⟩, choice.window⟩ := by
  simp only [commit, Logged.result_bind_eq_ok, Logged.result_ofExcept, WindowChoice.note,
    Logged.result_debug, exists_const, true_and]
  refine exists_congr fun choice => and_congr_right fun _ => ?_
  cases clears : choice.clearsOver with
  | false => simp [WindowChoice.kept, clears, configured, eq_comm]
  | true =>
    simp only [WindowChoice.kept, clears, if_true, Logged.result_bind_eq_ok, Logged.result_pure,
      Except.ok.injEq, Prod.exists, Engine.clearOver_ok_iff configured]
    constructor
    · rintro ⟨e, changed, ⟨_, final, stripped, rfl⟩, rfl⟩
      exact ⟨final, stripped, rfl⟩
    · rintro ⟨final, stripped, rfl⟩
      exact ⟨_, _, ⟨rfl, final, stripped, rfl⟩, rfl⟩

/-- Making an engine and committing to it leads to exactly the georeferences of the relation. -/
theorem build_ok_iff {provider : Provider α} {affine : AffineTransform α} {projection : String}
    {datum : Datum} {g : GeoReference α} :
    (Engine.make provider projection datum >>= commit affine).result = .ok g ↔
      Builds provider affine projection datum g := by
  simp only [Logged.result_bind_eq_ok, Engine.make_ok_iff]
  constructor
  · rintro ⟨e, ⟨q, prepared, session, configured, rfl⟩, committed⟩
    obtain ⟨choice, chosen, final, stays, rfl⟩ := (commit_ok_iff configured).mp committed
    exact .intro prepared configured chosen stays
  · rintro ⟨prepared, configured, chosen, stays⟩
    exact ⟨_, ⟨_, prepared, _, configured, rfl⟩,
      (commit_ok_iff configured).mpr ⟨_, chosen, _, stays, rfl⟩⟩

theorem rebuilt_ok_iff {g g' : GeoReference α} {affine : AffineTransform α} {projection : String}
    {datum : Datum} :
    (g.rebuilt affine projection datum).result = .ok g' ↔
      Builds g.engine.provider affine projection datum g' :=
  build_ok_iff

theorem make_ok_iff {provider : Provider α} {spec : GeoReferenceSpec α} {g : GeoReference α} :
    (make provider spec).result = .ok g ↔
      ∃ affine, AffineTransform.make spec.transform spec.interpretation = .ok affine ∧
        ∃ datum, (named spec.givenDatum).result = .ok datum ∧
          Builds provider affine spec.givenProjection datum g := by
  simp only [make, Logged.result_bind_eq_ok, Logged.result_ofExcept, ← build_ok_iff,
    GeoReferenceSpec.givenDatum, GeoReferenceSpec.givenProjection]

end GeoReference

end GeoRaster
