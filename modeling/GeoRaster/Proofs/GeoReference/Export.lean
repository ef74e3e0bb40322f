import GeoRaster.Proofs.GeoReference.PathIndependence

/-! What is handed over for export. The string that a georeference keeps depends on its window, which may
have cost it `+over` and its spacing, and the window depends on the transform. The string that a
catalogue is asked to write a text for does not: it comes of the datum and the projection that
were accepted last, whatever happened before, in between and since. -/
namespace GeoRaster

open Projection

theorem Wkt.exportedString_congr {s t : String} (same : tokensButOver s = tokensButOver t) (datum : Datum) :
    Wkt.exportedString datum s = Wkt.exportedString datum t := by
  rw [exportedString, exportedString, removeToken_congr same]

namespace GeoReference

variable {α : Type} [Scalar α]

/-- The string that a catalogue is asked to write a text for. -/
def exported (g : GeoReference α) : String :=
  Wkt.exportedString g.datum g.projection

theorem wkt_eq (g : GeoReference α) (library : Wkt.Catalogue) :
    g.wkt library = (library.write g.exported).mapError (.noReferenceSystem g.exported) :=
  rfl

variable {provider provider' : Provider α} {catalogue catalogue' : Wkt.Catalogue}
  {spec spec' : GeoReferenceSpec α} {g h : GeoReference α}

/-- The parts that a georeference stands for are exported, their datum completed. -/
theorem Stands.exists_exported (stands : Stands provider spec g) :
    ∃ datum, (named spec.givenDatum).result = .ok datum ∧
      g.exported = Wkt.exportedString datum spec.givenProjection :=
  ⟨g.datum, stands.completed, Wkt.exportedString_congr stands.spelled g.datum⟩

/-- Whatever two georeferences stand for besides, they export the same string if they stand for the same
datum and, but for `+over`, for the same tokens of a projection. -/
theorem Stands.exported_eq (stands : Stands provider spec g) (stands' : Stands provider' spec' h)
    (sameDatum : spec.givenDatum = spec'.givenDatum)
    (sameTokens : tokensButOver spec.givenProjection = tokensButOver spec'.givenProjection) :
    g.exported = h.exported := by
  obtain ⟨datum, completed, exports⟩ := stands.exists_exported
  obtain ⟨datum', completed', exports'⟩ := stands'.exists_exported
  rw [← sameDatum] at completed'
  obtain rfl := Except.ok.inj (completed.symm.trans completed')
  rw [exports, exports', Wkt.exportedString_congr sameTokens]

/-- Two histories that differ in anything but the datum and the projection accepted last, in the transform,
the interpretation of pixels, the windows and the providers among the rest, lead to georeferences that
hand the same string to a catalogue, and so get the same text of it or are refused alike. -/
theorem wkt_independent_of_history {first first' : GeoReference α}
    (made : (make provider spec).result = .ok first) (made' : (make provider' spec').result = .ok first')
    (changes changes' : List (Change α))
    (sameDatum : (first.acceptedAfter spec catalogue changes).givenDatum =
      (first'.acceptedAfter spec' catalogue' changes').givenDatum)
    (sameTokens : tokensButOver (first.acceptedAfter spec catalogue changes).givenProjection =
      tokensButOver (first'.acceptedAfter spec' catalogue' changes').givenProjection) :
    (first.afterChanges catalogue changes).exported = (first'.afterChanges catalogue' changes').exported ∧
      ∀ library, (first.afterChanges catalogue changes).wkt library =
        (first'.afterChanges catalogue' changes').wkt library := by
  have stands : Stands provider (first.acceptedAfter spec catalogue changes)
      (first.afterChanges catalogue changes) := (make_builtFor made).stands.afterChanges changes
  have stands' : Stands provider' (first'.acceptedAfter spec' catalogue' changes')
      (first'.afterChanges catalogue' changes') := (make_builtFor made').stands.afterChanges changes'
  have same := stands.exported_eq stands' sameDatum sameTokens
  refine ⟨same, fun library => ?_⟩
  rw [wkt_eq, wkt_eq, same]

/-- One georeference keeps `+over`; the other has come by another projection, has lost `+over` to a
transform that runs west, and is shown in the first one's window all the same. -/
theorem wkt_same_without_over :
    ∃ first second g : GeoReference ℚ,
      (make Parabolic.provider { projection := some "+proj=sinu" }).result = .ok first ∧
      (make (α := ℚ) Parabolic.provider
        { transform := some (.ofRows [[-1, 0, 0], [0, 1, 0], [0, 0, 1]]),
          projection := some "+proj=merc" }).result = .ok second ∧
      second.afterChanges Wkt.Described.catalogue
        [.projection "+proj=sinu", .interpretation (.known .point), .window .around180] = g ∧
      first.projection ≠ g.projection ∧ first.exported = g.exported ∧
      ∀ library, first.wkt library = g.wkt library := by
  have runs : ((make (α := ℚ) Parabolic.provider { projection := some "+proj=sinu" }).result.toOption.any
      fun first => decide (first.projection = "+proj=sinu +over")) = true := by
    decide +kernel
  obtain ⟨first, made, kept⟩ := exists_of_toOption_any runs
  have runs : ((make (α := ℚ) Parabolic.provider
      { transform := some (.ofRows [[-1, 0, 0], [0, 1, 0], [0, 0, 1]]),
        projection := some "+proj=merc" }).result.toOption.any fun second =>
          (second.setProjection "+proj=sinu").result.toOption.any fun third =>
            (third.setInterpretation (.known .point)).result.toOption.any fun fourth =>
              decide ((fourth.setWindow .around180).projection = "+proj=sinu")) = true := by
    decide +kernel
  obtain ⟨second, made', runs⟩ := exists_of_toOption_any runs
  obtain ⟨third, projected, runs⟩ := exists_of_toOption_any runs
  obtain ⟨fourth, interpreted, lost⟩ := exists_of_toOption_any runs
  have ran : second.afterChanges Wkt.Described.catalogue
      [.projection "+proj=sinu", .interpretation (.known .point), .window .around180] =
        fourth.setWindow .around180 := by
    simp only [afterChanges, List.foldl, afterChange, change, projected, interpreted, Logged.result_pure]
  obtain ⟨same, texts⟩ := @wkt_independent_of_history ℚ _ Parabolic.provider Parabolic.provider
    Wkt.Described.catalogue Wkt.Described.catalogue _ _ _ _ made made' []
    [.projection "+proj=sinu", .interpretation (.known .point), .window .around180]
    (by simp only [acceptedAfter, change, projected, interpreted, Logged.result_pure]; rfl)
    (by simp only [acceptedAfter, change, projected, interpreted, Logged.result_pure]; rfl)
  refine ⟨first, second, _, made, made', rfl, ?_, same, texts⟩
  rw [ran, of_decide_eq_true kept, of_decide_eq_true lost]
  decide

end GeoReference

end GeoRaster
