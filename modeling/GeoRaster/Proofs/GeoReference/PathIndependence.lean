import GeoRaster.Proofs.Affine
import GeoRaster.Proofs.GeoReference.Change
import GeoRaster.Proofs.GeoReference.Respelling
import GeoRaster.Wkt.Described

/-! Georeferences forget how they came about. After any changes, refused ones among them, a
georeference is what making it from the parts accepted last would give; only the window can then
be overridden. The string of its projection may have lost `+over` or its spacing on the way, so
what is carried along the changes is not the string but its tokens. What is refused can still depend on the
way: a zone shows its `+over` to the provider when it is made, and not after later changes. -/
namespace GeoRaster

open Projection

namespace GeoReferenceSpec

variable {α : Type}

/-- The parts with those replaced that a change brings, if it is accepted. A datum is kept as the
caller gave it. -/
def accept (spec : GeoReferenceSpec α) (catalogue : Wkt.Catalogue) :
    GeoReference.Change α → GeoReferenceSpec α
  | .transform array => { spec with transform := array }
  | .interpretation interpretation => { spec with interpretation }
  | .datum datum => { spec with datum := some datum }
  | .wellKnownDatum name => { spec with datum := (Datum.wellKnown name).toOption }
  | .projection projection => { spec with projection := some projection }
  | .named projection => { spec with projection := some projection.string }
  | .wkt text =>
    match (Wkt.importText catalogue text).result with
    | .ok (datum, projection) => { spec with datum := some datum, projection := some projection }
    | .error _ => spec
  | .window _ => spec

end GeoReferenceSpec

namespace GeoReference

variable {α : Type} [Scalar α]

/-- The georeference after some changes; those that fail leave it as it is. -/
def afterChanges (g : GeoReference α) (catalogue : Wkt.Catalogue) (changes : List (Change α)) :
    GeoReference α :=
  changes.foldl (fun g c => g.afterChange catalogue c) g

/-- The parts accepted last, after some changes. -/
def acceptedAfter (g : GeoReference α) (spec : GeoReferenceSpec α) (catalogue : Wkt.Catalogue) :
    List (Change α) → GeoReferenceSpec α
  | [] => spec
  | c :: changes =>
    match (g.change catalogue c).result with
    | .ok changed => changed.acceptedAfter (spec.accept catalogue c) catalogue changes
    | .error _ => g.acceptedAfter spec catalogue changes

/-- A georeference built from some parts, or from another spelling of their projection. -/
inductive BuiltFor (provider : Provider α) (spec : GeoReferenceSpec α) (g : GeoReference α) : Prop where
  | intro {affine : AffineTransform α} {spelling : String} {datum : Datum}
      (transformed : AffineTransform.make spec.transform spec.interpretation = .ok affine)
      (completed : (named spec.givenDatum).result = .ok datum)
      (spelled : tokensButOver spelling = tokensButOver spec.givenProjection)
      (built : Builds provider affine spelling datum g)

/-- A georeference that stands for some parts, whatever its window. -/
structure Stands (provider : Provider α) (spec : GeoReferenceSpec α) (g : GeoReference α) : Prop where
  provider : g.engine.provider = provider
  transformed : AffineTransform.make spec.transform spec.interpretation = .ok g.affine
  completed : (named spec.givenDatum).result = .ok g.datum
  spelled : tokensButOver g.projection = tokensButOver spec.givenProjection

variable {provider : Provider α} {catalogue : Wkt.Catalogue} {spec : GeoReferenceSpec α}
  {g h : GeoReference α}

theorem make_builtFor (made : (make provider spec).result = .ok g) : BuiltFor provider spec g := by
  obtain ⟨affine, transformed, datum, completed, built⟩ := make_ok_iff.mp made
  exact ⟨transformed, completed, rfl, built⟩

theorem BuiltFor.stands (builtFor : BuiltFor provider spec g) : Stands provider spec g := by
  obtain ⟨transformed, completed, spelled, built⟩ := builtFor
  refine ⟨built.provider_eq, ?_, ?_, built.tokens.trans spelled⟩
  · rw [built.affine_eq, transformed]
  · rw [built.datum_eq, completed]

/-- Only the window differs after a change of the window. -/
theorem Stands.setWindow (stands : Stands provider spec g) (window : LonWindow) :
    Stands provider spec (g.setWindow window) := by
  unfold GeoReference.setWindow
  split
  · exact stands
  · exact ⟨stands.provider, stands.transformed, stands.completed, stands.spelled⟩

/-- What a change derives from a georeference that stands for some parts is what those parts come to
with the ones that the change brings. -/
theorem Stands.derives (stands : Stands provider spec g) {c : Change α} {affine : AffineTransform α}
    {projection : String} {datum : Datum}
    (derived : c.Derives catalogue g affine projection datum)
    (built : Builds provider affine projection datum h) :
    BuiltFor provider (spec.accept catalogue c) h := by
  obtain ⟨_, transformed, completed, spelled⟩ := stands
  cases derived with
  | transform made =>
    rw [AffineTransform.withTransform_of_make transformed] at made
    exact ⟨made, completed, spelled, built⟩
  | interpretation made =>
    rw [AffineTransform.withInterpretation_of_make transformed] at made
    exact ⟨made, completed, spelled, built⟩
  | datum completed => exact ⟨transformed, completed, spelled, built⟩
  | @wellKnownDatum name known _ found completed =>
    have accepted : spec.accept catalogue (.wellKnownDatum name) =
        { spec with datum := some known } := by
      simp only [GeoReferenceSpec.accept, found, Except.toOption]
    rw [accepted]
    exact ⟨transformed, completed, spelled, built⟩
  | projection projection => exact ⟨transformed, completed, rfl, built⟩
  | named projection => exact ⟨transformed, completed, rfl, built⟩
  | wkt imported completed =>
    simp only [GeoReferenceSpec.accept, imported]
    exact ⟨transformed, completed, rfl, built⟩

/-- A georeference that stands for some parts is built anew by every change but that of the window,
for the parts that the change leaves and brings. -/
theorem Stands.change (stands : Stands provider spec g) {c : Change α}
    (settles : c.choosesWindow = false) (changed : (g.change catalogue c).result = .ok h) :
    BuiltFor provider (spec.accept catalogue c) h := by
  rcases change_ok_iff.mp changed with ⟨window, rfl, _⟩ | ⟨_, _, _, derived, built⟩
  · contradiction
  · rw [stands.provider] at built
    exact stands.derives derived built

theorem Stands.afterChanges (stands : Stands provider spec g) (changes : List (Change α)) :
    Stands provider (g.acceptedAfter spec catalogue changes) (g.afterChanges catalogue changes) := by
  induction changes generalizing g spec with
  | nil => exact stands
  | cons c changes ih =>
    have head : g.afterChanges catalogue (c :: changes) =
        (g.afterChange catalogue c).afterChanges catalogue changes := rfl
    rw [head]
    unfold acceptedAfter afterChange
    -- what stands is the tokens: the spelling in force is any change's starting point
    cases changed : (g.change catalogue c).result with
    | error e => exact ih stands
    | ok h =>
      refine ih ?_
      rcases change_ok_iff.mp changed with ⟨window, rfl, rfl⟩ | ⟨_, _, _, derived, _⟩
      · exact stands.setWindow window
      · exact (stands.change derived.choosesWindow changed).stands

/-- What was built for the same parts is in the same state and converts alike. -/
theorem BuiltFor.same (ignores : provider.IgnoresOverPlacement)
    (first : BuiltFor provider spec g) (second : BuiltFor provider spec h) :
    SameState g h ∧ ConvertsAlike g h := by
  obtain ⟨transformed, completed, spelled, built⟩ := first
  obtain ⟨transformed', completed', spelled', built'⟩ := second
  obtain rfl := Except.ok.inj (transformed.symm.trans transformed')
  obtain rfl := Except.ok.inj (completed.symm.trans completed')
  obtain ⟨state, alike⟩ := built.respelled ignores (spelled.trans spelled'.symm) built'
  exact ⟨state, alike.convertsAlike⟩

/-- From the parts a georeference was built for, one can be made again; only a zone of the universal
transverse Mercator system that is asked for with `+over` is shown to the provider with it
first. -/
theorem BuiltFor.exists_make_iff (ignores : provider.IgnoresOverPlacement)
    (builtFor : BuiltFor provider spec g) :
    (∃ fresh, (make provider spec).result = .ok fresh) ↔
      (isUTM spec.givenProjection = true → hasToken spec.givenProjection overToken = true →
        ∃ session, (provider.configure
          (overallString (Text.trimmed spec.givenProjection) g.datum)).result = .ok session) := by
  obtain ⟨transformed, completed, spelled, built⟩ := builtFor
  rw [built.datum_eq]
  constructor
  · rintro ⟨fresh, made⟩ utm placed
    obtain ⟨affine', _, datum', completed', built'⟩ := make_ok_iff.mp made
    obtain rfl := Except.ok.inj (completed.symm.trans completed')
    obtain ⟨prepared, configured, _, _⟩ := built'
    have trimmed := Engine.prepared_of_complete (Engine.named_of_prepared prepared)
      (by rw [utm, Bool.or_true])
    obtain rfl := Except.ok.inj (trimmed.symm.trans prepared)
    exact ⟨_, configured⟩
  · intro taken
    obtain ⟨fresh, built'⟩ := built.exists_respelled ignores spelled taken
    exact ⟨fresh, make_ok_iff.mpr ⟨_, transformed, _, completed, built'⟩⟩

/-- A georeference right after it was made or after a change that succeeded, with the parts
accepted by then. -/
inductive Settled (provider : Provider α) (catalogue : Wkt.Catalogue) :
    GeoReferenceSpec α → GeoReference α → Prop where
  | made {spec : GeoReferenceSpec α} {g : GeoReference α}
      (made : (make provider spec).result = .ok g) : Settled provider catalogue spec g
  | changed {spec : GeoReferenceSpec α} {first g : GeoReference α} {c : Change α}
      (made : (make provider spec).result = .ok first) (changes : List (Change α))
      (settles : c.choosesWindow = false)
      (changed : ((first.afterChanges catalogue changes).change catalogue c).result = .ok g) :
      Settled provider catalogue
        ((first.acceptedAfter spec catalogue changes).accept catalogue c) g

theorem Settled.builtFor (settled : Settled provider catalogue spec g) :
    BuiltFor provider spec g := by
  cases settled with
  | made made => exact make_builtFor made
  | changed made changes settles changed =>
    exact ((make_builtFor made).stands.afterChanges changes).change settles changed

/-- Asking for windows changes the window alone, and nothing for zones of the universal transverse
Mercator system. -/
theorem afterChanges_window (g : GeoReference α) (catalogue : Wkt.Catalogue)
    (windows : List LonWindow) :
    g.afterChanges catalogue (windows.map .window) =
      if isUTM g.projection then g else { g with window := windows.getLast?.getD g.window } := by
  induction windows generalizing g with
  | nil => cases utm : isUTM g.projection <;> rfl
  | cons window windows ih =>
    show (g.setWindow window).afterChanges catalogue (windows.map .window) = _
    rw [ih]
    unfold GeoReference.setWindow
    cases utm : isUTM g.projection with
    | true => simp [utm]
    | false =>
      have same : isUTM (GeoReference.projection { g with window }) = false := utm
      simp only [same, Bool.false_eq_true, if_false, List.getLast?_cons, Option.getD_some]

/-- Path independence. Right after any successful change but that of the window, a georeference is in
the state of every georeference with the same parts accepted, one made from them included, and
converts alike. One can be made from them, but for zones of the universal transverse Mercator
system whose `+over` the provider refuses to see; and one can always be made from the projection
string that is left. Asking for windows then changes the window alone. -/
theorem Settled.path_independent (ignores : provider.IgnoresOverPlacement)
    (settled : Settled provider catalogue spec g) :
    (∀ fresh, (make provider spec).result = .ok fresh → SameState g fresh ∧ ConvertsAlike g fresh) ∧
    (∀ other h, Settled provider other spec h → SameState g h ∧ ConvertsAlike g h) ∧
    ((∃ fresh, (make provider spec).result = .ok fresh) ↔
      (isUTM spec.givenProjection = true → hasToken spec.givenProjection overToken = true →
        ∃ session, (provider.configure
          (overallString (Text.trimmed spec.givenProjection) g.datum)).result = .ok session)) ∧
    (∃ fresh, (make provider { spec with projection := some g.projection }).result = .ok fresh ∧
      SameState g fresh ∧ ConvertsAlike g fresh) ∧
    ∀ windows : List LonWindow, g.afterChanges catalogue (windows.map .window) =
      if isUTM g.projection then g else { g with window := windows.getLast?.getD g.window } := by
  have builtFor := settled.builtFor
  refine ⟨fun fresh made => builtFor.same ignores (make_builtFor made),
    fun other h settled' => builtFor.same ignores settled'.builtFor,
    builtFor.exists_make_iff ignores, ?_, g.afterChanges_window catalogue⟩
  have respelled : BuiltFor provider { spec with projection := some g.projection } g := by
    obtain ⟨transformed, completed, _, built⟩ := builtFor
    exact ⟨transformed, completed, built.tokens.symm, built⟩
  -- zones have lost `+over`, so the provider is not asked about it again
  obtain ⟨fresh, made⟩ := (respelled.exists_make_iff ignores).mpr fun utm placed => by
    obtain ⟨_, _, _, built⟩ := builtFor
    have without := (built.of_utm utm).2
    exact absurd (without.symm.trans placed) (by decide)
  exact ⟨fresh, made, respelled.same ignores (make_builtFor made)⟩

/-- One change on the way is refused, and the last one brings `+over` with it. -/
theorem path_independent_past_refusal :
    ∃ first g fresh : GeoReference ℚ,
      (make Parabolic.provider { projection := some "+proj=sinu" }).result = .ok first ∧
      ((first.afterChanges Wkt.Described.catalogue
        [.projection " ", .interpretation (.known .point)]).change
          Wkt.Described.catalogue (.projection "+proj=merc  +over")).result = .ok g ∧
      (make Parabolic.provider
        { interpretation := .known .point, projection := some "+proj=merc  +over" }).result =
          .ok fresh ∧
      SameState g fresh ∧ ConvertsAlike g fresh := by
  have runs : ((make (α := ℚ) Parabolic.provider { projection := some "+proj=sinu" }).result.toOption.any
      fun first => (first.setInterpretation (.known .point)).result.toOption.any fun second =>
        (second.setProjection "+proj=merc  +over").result.toOption.any fun _ => true) = true := by
    decide +kernel
  obtain ⟨first, made, runs⟩ := exists_of_toOption_any runs
  obtain ⟨second, changed, runs⟩ := exists_of_toOption_any runs
  obtain ⟨g, last, _⟩ := exists_of_toOption_any runs
  have refused : (first.setProjection " ").result = .error .emptyProjection := rfl
  have ran : first.afterChanges Wkt.Described.catalogue
      [.projection " ", .interpretation (.known .point)] = second := by
    simp only [afterChanges, List.foldl, afterChange, change, refused, changed]
  have last : ((first.afterChanges Wkt.Described.catalogue
      [.projection " ", .interpretation (.known .point)]).change
        Wkt.Described.catalogue (.projection "+proj=merc  +over")).result = .ok g := by
    rw [ran]
    exact last
  have settled : Settled Parabolic.provider Wkt.Described.catalogue _ g :=
    .changed made [.projection " ", .interpretation (.known .point)] rfl last
  simp only [acceptedAfter, change, refused, changed] at settled
  obtain ⟨same, _, remade, _, _⟩ :=
    settled.path_independent Parabolic.provider_ignoresOverPlacement
  obtain ⟨fresh, made'⟩ := remade.mpr fun utm => absurd utm (by decide +kernel)
  exact ⟨first, g, fresh, made, last, made', same fresh made'⟩

/-- What is refused can show the path. A zone that was set up with `+over` has lost it by the time its datum is
changed. A provider that refuses `+over` on the new datum takes the change then, but sets up no georeference
that is made from the zone and the new datum at once. -/
theorem zone_refused_afresh :
    (Parabolic.guarded (α := ℚ)).IgnoresOverPlacement ∧
    ∃ first g : GeoReference ℚ,
      (make Parabolic.guarded { projection := some "+proj=utm +zone=11 +over" }).result = .ok first ∧
      (first.change Wkt.Described.catalogue (.wellKnownDatum "NAD83")).result = .ok g ∧
      Settled Parabolic.guarded Wkt.Described.catalogue
        { datum := some WellKnownDatum.nad83.datum, projection := some "+proj=utm +zone=11 +over" } g ∧
      ¬ ∃ fresh : GeoReference ℚ, (make Parabolic.guarded
        { datum := some WellKnownDatum.nad83.datum,
          projection := some "+proj=utm +zone=11 +over" }).result = .ok fresh := by
  have runs : ((make (α := ℚ) Parabolic.guarded
      { projection := some "+proj=utm +zone=11 +over" }).result.toOption.any fun first =>
        (first.setWellKnownDatum "NAD83").result.toOption.any fun _ => true) = true := by
    decide +kernel
  have refused : (make (α := ℚ) Parabolic.guarded
      { datum := some WellKnownDatum.nad83.datum,
        projection := some "+proj=utm +zone=11 +over" }).result.toOption.isNone = true := by
    decide +kernel
  obtain ⟨first, made, runs⟩ := exists_of_toOption_any runs
  obtain ⟨g, changed, _⟩ := exists_of_toOption_any runs
  have settled : Settled Parabolic.guarded Wkt.Described.catalogue _ g :=
    .changed made [] (c := .wellKnownDatum "NAD83") rfl changed
  refine ⟨Parabolic.guarded_ignoresOverPlacement, first, g, made, changed, settled, ?_⟩
  rintro ⟨fresh, afresh⟩
  rw [afresh] at refused
  contradiction

end GeoReference

end GeoRaster
