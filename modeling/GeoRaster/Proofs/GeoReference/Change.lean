import GeoRaster.Proofs.GeoReference.Build

/-! What a change can lead to. Every change but that of the window derives a transform, a projection
string and a datum from those in force, and builds the georeference anew from them. -/
namespace GeoRaster.GeoReference

variable {α : Type}

/-- Whether a change chooses the window. -/
def Change.choosesWindow : Change α → Bool
  | .window _ => true
  | _ => false

variable [Scalar α]

/-- The transform, the projection string and the datum that a change derives. A datum that comes from
outside is completed; one that is in force was. -/
inductive Change.Derives (catalogue : Wkt.Catalogue) (g : GeoReference α) :
    Change α → AffineTransform α → String → Datum → Prop where
  | transform {array : Option (Nested α)} {affine : AffineTransform α}
      (made : g.affine.withTransform array = .ok affine) :
      Derives catalogue g (.transform array) affine g.projection g.datum
  | interpretation {interpretation : GivenInterpretation} {affine : AffineTransform α}
      (made : g.affine.withInterpretation interpretation = .ok affine) :
      Derives catalogue g (.interpretation interpretation) affine g.projection g.datum
  | datum {given datum : Datum} (completed : (GeoReference.named given).result = .ok datum) :
      Derives catalogue g (.datum given) g.affine g.projection datum
  | wellKnownDatum {name : String} {known datum : Datum} (found : Datum.wellKnown name = .ok known)
      (completed : (GeoReference.named known).result = .ok datum) :
      Derives catalogue g (.wellKnownDatum name) g.affine g.projection datum
  | projection (projection : String) :
      Derives catalogue g (.projection projection) g.affine projection g.datum
  | named (projection : Projection.Named) :
      Derives catalogue g (.named projection) g.affine projection.string g.datum
  | wkt {text projection : String} {given datum : Datum}
      (imported : (Wkt.importText catalogue text).result = .ok (given, projection))
      (completed : (GeoReference.named given).result = .ok datum) :
      Derives catalogue g (.wkt text) g.affine projection datum

variable {catalogue : Wkt.Catalogue} {g h : GeoReference α} {c : Change α}

theorem change_ok_of_derives {affine : AffineTransform α} {projection : String} {datum : Datum}
    (derived : c.Derives catalogue g affine projection datum)
    (built : Builds g.engine.provider affine projection datum h) :
    (g.change catalogue c).result = .ok h := by
  have rebuilt := rebuilt_ok_iff.mpr built
  cases derived with
  | transform made => exact Logged.result_bind_eq_ok.mpr ⟨affine, made, rebuilt⟩
  | interpretation made => exact Logged.result_bind_eq_ok.mpr ⟨affine, made, rebuilt⟩
  | datum completed => exact Logged.result_bind_eq_ok.mpr ⟨datum, completed, rebuilt⟩
  | @wellKnownDatum _ known _ found completed =>
    exact Logged.result_bind_eq_ok.mpr ⟨known, found,
      Logged.result_bind_eq_ok.mpr ⟨datum, completed, rebuilt⟩⟩
  | projection projection => exact rebuilt
  | named projection => exact rebuilt
  | @wkt _ _ given _ imported completed =>
    exact Logged.result_bind_eq_ok.mpr ⟨(given, projection), imported,
      Logged.result_bind_eq_ok.mpr ⟨datum, completed, rebuilt⟩⟩

/-- A change succeeds with the other window, or with what is built from what it derives. -/
theorem change_ok_iff : (g.change catalogue c).result = .ok h ↔
    (∃ window, c = .window window ∧ h = g.setWindow window) ∨
      ∃ affine projection datum, c.Derives catalogue g affine projection datum ∧
        Builds g.engine.provider affine projection datum h := by
  constructor
  · intro changed
    cases c with
    | transform array =>
      obtain ⟨affine, made, rebuilt⟩ := Logged.result_bind_eq_ok.mp changed
      exact .inr ⟨affine, _, _, .transform made, rebuilt_ok_iff.mp rebuilt⟩
    | interpretation interpretation =>
      obtain ⟨affine, made, rebuilt⟩ := Logged.result_bind_eq_ok.mp changed
      exact .inr ⟨affine, _, _, .interpretation made, rebuilt_ok_iff.mp rebuilt⟩
    | datum given =>
      obtain ⟨datum, completed, rebuilt⟩ := Logged.result_bind_eq_ok.mp changed
      exact .inr ⟨_, _, datum, .datum completed, rebuilt_ok_iff.mp rebuilt⟩
    | wellKnownDatum name =>
      obtain ⟨known, found, changed⟩ := Logged.result_bind_eq_ok.mp changed
      obtain ⟨datum, completed, rebuilt⟩ := Logged.result_bind_eq_ok.mp changed
      exact .inr ⟨_, _, datum, .wellKnownDatum found completed, rebuilt_ok_iff.mp rebuilt⟩
    | projection projection =>
      exact .inr ⟨_, projection, _, .projection projection, rebuilt_ok_iff.mp changed⟩
    | named projection =>
      exact .inr ⟨_, projection.string, _, .named projection, rebuilt_ok_iff.mp changed⟩
    | wkt text =>
      obtain ⟨⟨given, projection⟩, imported, changed⟩ := Logged.result_bind_eq_ok.mp changed
      obtain ⟨datum, completed, rebuilt⟩ := Logged.result_bind_eq_ok.mp changed
      exact .inr ⟨_, projection, datum, .wkt imported completed, rebuilt_ok_iff.mp rebuilt⟩
    | window window => exact .inl ⟨window, rfl, (Except.ok.inj changed).symm⟩
  · rintro (⟨window, rfl, rfl⟩ | ⟨affine, projection, datum, derived, built⟩)
    · rfl
    · exact change_ok_of_derives derived built

theorem Change.Derives.choosesWindow {affine : AffineTransform α} {projection : String} {datum : Datum}
    (derived : c.Derives catalogue g affine projection datum) : c.choosesWindow = false := by
  cases derived <;> rfl

end GeoRaster.GeoReference
