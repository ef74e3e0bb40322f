import GeoRaster.Proofs.Affine
import GeoRaster.Proofs.Determinant
import GeoRaster.Proofs.GeoReference.Alike
import GeoRaster.Proofs.GeoReference.Build
import GeoRaster.Proofs.Mapping.Footprint
import GeoRaster.Projection.Parabolic

/-! Matrices up to a factor. A matrix and its multiples map pixels to the same points, and so do their
inverses. The window, though, is chosen by the sign of one entry where the first pixel lies in both
windows; a negative factor turns that sign, and with it the window, while the rows grow in the same
direction as before. -/
namespace GeoRaster

variable {α : Type} [ExactScalar α]

namespace AffineTransform

/-- The transform whose matrices are multiples of those of a given one. -/
def scale (t : AffineTransform α) {k : α} (nonzero : k ≠ 0) : AffineTransform α where
  transform := t.transform.scale k
  inverse := t.inverse.scale k⁻¹
  inverseShifted := t.inverseShifted.scale k⁻¹
  interpretation := t.interpretation
  inverse_eq := Matrix3.inverse?_scale nonzero t.inverse_eq
  inverseShifted_eq := by
    rw [Matrix3.halfShift_scale]
    exact Matrix3.inverse?_scale nonzero t.inverseShifted_eq

variable (t : AffineTransform α) {k : α} (nonzero : k ≠ 0)

theorem xScale_scale : (t.scale nonzero).xScale = k * t.xScale :=
  rfl

theorem native_scale : (t.scale nonzero).native = t.native.scale k := by
  obtain ⟨transform, _, _, interpretation, _, _⟩ := t
  cases interpretation with
  | area => exact Matrix3.halfShift_scale k transform
  | point => rfl

theorem nativeInverse_scale : (t.scale nonzero).nativeInverse = t.nativeInverse.scale k⁻¹ := by
  obtain ⟨_, _, _, interpretation, _, _⟩ := t
  cases interpretation <;> rfl

theorem pixelToPoint_scale : (t.scale nonzero).pixelToPoint = t.pixelToPoint := by
  funext pixel
  unfold pixelToPoint
  rw [native_scale, Matrix3.apply_scale nonzero]

theorem pointToPixel_scale : (t.scale nonzero).pointToPixel = t.pointToPixel := by
  funext point
  unfold pointToPixel
  rw [nativeInverse_scale, Matrix3.apply_scale (inv_ne_zero nonzero)]

/-- A multiple of a matrix that makes a transform makes the transform of multiples. -/
theorem make_scale {m : Matrix3 α} {interpretation : GivenInterpretation} {t : AffineTransform α}
    (accepted : make (some m.array) interpretation = .ok t) :
    make (some (m.scale k).array) interpretation = .ok (t.scale nonzero) := by
  rw [make_array] at accepted ⊢
  obtain ⟨rfl, rfl⟩ := ofMatrix_ok accepted
  exact ofMatrix_of_found (t.scale nonzero).inverse_eq (t.scale nonzero).inverseShifted_eq
    t.interpretation

end AffineTransform

namespace GeoReference

open Projection

variable {provider : Provider α} {t u : AffineTransform α}

theorem startLongitude_of_maps (maps : u.pixelToPoint = t.pixelToPoint) (engine : Engine α) :
    startLongitude u engine = startLongitude t engine := by
  unfold startLongitude
  rw [maps]

/-- Committing to another transform that maps pixels to the same points changes the transform alone, if
the window is not decided by the direction of the rows, or their x-scales agree on that. -/
theorem commit_of_maps (maps : u.pixelToPoint = t.pixelToPoint) (engine : Engine α)
    (alike : (0 < u.xScale ↔ 0 < t.xScale) ∨
      ¬ Mapping.DirectionDecides engine.projection (startLongitude t engine)) :
    commit u engine = (fun g => { g with affine := u }) <$> commit t engine := by
  unfold commit
  rw [startLongitude_of_maps maps, Mapping.choose_congr_direction alike, map_bind]
  refine bind_congr fun choice => ?_
  rw [map_bind]
  refine bind_congr fun _ => ?_
  split
  · simp only [map_bind, map_pure]
  · simp only [map_pure]

/-- Whether the direction of the rows decides on the window of what is made from some parts. -/
def DirectionDecides (provider : Provider α) (spec : GeoReferenceSpec α) (t : AffineTransform α) :
    Prop :=
  ∃ datum engine, (named spec.givenDatum).result = .ok datum ∧
    (Engine.make provider spec.givenProjection datum).result = .ok engine ∧
    Mapping.DirectionDecides engine.projection (startLongitude t engine)

/-- What is made with another transform that maps pixels to the same points. -/
theorem make_of_maps {spec : GeoReferenceSpec α} {array array' : Option (Nested α)}
    (made : AffineTransform.make array spec.interpretation = .ok t)
    (made' : AffineTransform.make array' spec.interpretation = .ok u)
    (maps : u.pixelToPoint = t.pixelToPoint)
    (alike : (0 < u.xScale ↔ 0 < t.xScale) ∨ ¬ DirectionDecides provider spec t) :
    make provider { spec with transform := array' } =
      (fun g => { g with affine := u }) <$> make provider { spec with transform := array } := by
  unfold make
  rw [made, made', Logged.ofExcept_ok, Logged.ofExcept_ok, pure_bind, pure_bind, map_bind]
  refine Logged.bind_congr_of_ok fun datum completed => ?_
  rw [map_bind]
  refine Logged.bind_congr_of_ok fun engine installed => ?_
  refine commit_of_maps maps engine (alike.imp_right fun undecided decides => undecided ?_)
  exact ⟨datum, engine, completed, installed, decides⟩

theorem affine_of_make {spec : GeoReferenceSpec α} {array : Option (Nested α)}
    (made : AffineTransform.make array spec.interpretation = .ok t) {g : GeoReference α}
    (ok : (make provider { spec with transform := array }).result = .ok g) : g.affine = t := by
  obtain ⟨affine, transformed, _, _, built⟩ := make_ok_iff.mp ok
  exact built.affine_eq.trans (Except.ok.inj (transformed.symm.trans made))

theorem actsAlike_withAffine {g : GeoReference α} (maps : u.pixelToPoint = g.affine.pixelToPoint)
    (back : u.pointToPixel = g.affine.pointToPixel) : ActsAlike g { g with affine := u } :=
  ⟨maps.symm, back.symm, rfl, rfl, rfl⟩

/-- The window of what is made where the direction decides. -/
theorem window_of_directionDecides {spec : GeoReferenceSpec α} {array : Option (Nested α)}
    (made : AffineTransform.make array spec.interpretation = .ok t)
    (decides : DirectionDecides provider spec t) {g : GeoReference α}
    (ok : (make provider { spec with transform := array }).result = .ok g) :
    g.window = if 0 < t.xScale then .around180 else .aroundZero := by
  obtain ⟨affine, transformed, datum, completed, built⟩ := make_ok_iff.mp ok
  obtain rfl := Except.ok.inj (made.symm.trans transformed)
  obtain ⟨datum', engine, completed', installed, decides⟩ := decides
  obtain rfl := Except.ok.inj (completed.symm.trans completed')
  obtain ⟨q', prepared', session', configured', rfl⟩ := Engine.make_ok_iff.mp installed
  obtain @⟨q, session, _, choice, prepared, configured, chosen, _⟩ := built
  obtain rfl := Except.ok.inj (prepared.symm.trans prepared')
  obtain rfl := Except.ok.inj (configured.symm.trans configured')
  obtain ⟨choice', chosen', window⟩ := Mapping.window_of_directionDecides t.xScale
    (fun _ => startLongitude t ⟨provider, session, none, q, datum⟩) decides
  obtain rfl := Except.ok.inj (chosen.symm.trans chosen')
  exact window

theorem DirectionDecides.of_maps {spec : GeoReferenceSpec α}
    (decides : DirectionDecides provider spec t) (maps : u.pixelToPoint = t.pixelToPoint) :
    DirectionDecides provider spec u := by
  obtain ⟨datum, engine, completed, installed, decides⟩ := decides
  rw [← startLongitude_of_maps maps] at decides
  exact ⟨datum, engine, completed, installed, decides⟩

section Scaled

variable {spec : GeoReferenceSpec α} {m : Matrix3 α} {k : α} (nonzero : k ≠ 0)
  (accepted : AffineTransform.make (some m.array) spec.interpretation = .ok t)
include nonzero accepted

/-- What is made with a multiple of a matrix, where the windows agree. -/
theorem make_scaled (provider : Provider α)
    (agree : 0 < k ∨ t.xScale = 0 ∨ ¬ DirectionDecides provider spec t) :
    make provider { spec with transform := some (m.scale k).array } =
      (fun g => { g with affine := t.scale nonzero }) <$>
        make provider { spec with transform := some m.array } := by
  refine make_of_maps accepted (AffineTransform.make_scale nonzero accepted)
    (t.pixelToPoint_scale nonzero) ?_
  rw [t.xScale_scale]
  rcases agree with positive | zero | undecided
  · exact .inl (mul_pos_iff_of_pos_left positive)
  · exact .inl (by rw [zero, mul_zero])
  · exact .inr undecided

/-- Where the direction decides, a negative factor turns the window. -/
theorem window_ne_of_negative (negative : k < 0) (grows : t.xScale ≠ 0)
    (decides : DirectionDecides provider spec t) {g h : GeoReference α}
    (ok : (make provider { spec with transform := some m.array }).result = .ok g)
    (ok' : (make provider { spec with transform := some (m.scale k).array }).result = .ok h) :
    g.window ≠ h.window := by
  have first := window_of_directionDecides accepted decides ok
  have second := window_of_directionDecides (AffineTransform.make_scale nonzero accepted)
    (decides.of_maps (t.pixelToPoint_scale nonzero)) ok'
  rw [t.xScale_scale] at second
  rcases lt_or_gt_of_ne grows with west | east
  · rw [if_neg west.not_gt] at first
    rw [if_pos (mul_pos_of_neg_of_neg negative west)] at second
    rw [first, second]
    decide
  · rw [if_pos east] at first
    rw [if_neg (mul_neg_of_neg_of_pos negative east).not_gt] at second
    rw [first, second]
    decide

theorem window_eq_iff {g h : GeoReference α}
    (ok : (make provider { spec with transform := some m.array }).result = .ok g)
    (ok' : (make provider { spec with transform := some (m.scale k).array }).result = .ok h) :
    g.window = h.window ↔ 0 < k ∨ t.xScale = 0 ∨ ¬ DirectionDecides provider spec t := by
  constructor
  · intro windows
    by_contra apart
    push Not at apart
    obtain ⟨notPositive, grows, decides⟩ := apart
    exact window_ne_of_negative nonzero accepted (lt_of_le_of_ne notPositive nonzero) grows decides
      ok ok' windows
  · intro agree
    rw [make_scaled nonzero accepted provider agree, Logged.result_map, ok] at ok'
    obtain rfl := Except.ok.inj ok'
    rfl

end Scaled

/-- Matrices up to a factor. A multiple of a matrix is accepted with it, and maps pixels and points alike.
What is made with both is made or refused alike, and converts alike, if the factor is positive, the
x-scale is zero, or the direction of the rows does not decide on the window. In all other cases the
two windows differ. -/
theorem scaled_matrices_agree_iff (provider : Provider α) (spec : GeoReferenceSpec α) (m : Matrix3 α)
    {k : α} (nonzero : k ≠ 0) {t : AffineTransform α}
    (accepted : AffineTransform.make (some m.array) spec.interpretation = .ok t) :
    (∃ u, AffineTransform.make (some (m.scale k).array) spec.interpretation = .ok u ∧
      u.pixelToPoint = t.pixelToPoint ∧ u.pointToPixel = t.pointToPixel) ∧
    (0 < k ∨ t.xScale = 0 ∨ ¬ DirectionDecides provider spec t →
      (∀ fault, (make provider { spec with transform := some m.array }).result = .error fault ↔
        (make provider { spec with transform := some (m.scale k).array }).result = .error fault) ∧
      ∀ g, (make provider { spec with transform := some m.array }).result = .ok g →
        ∃ h, (make provider { spec with transform := some (m.scale k).array }).result = .ok h ∧
          h.engine = g.engine ∧ h.window = g.window ∧ ConvertsAlike g h) ∧
    ∀ g h, (make provider { spec with transform := some m.array }).result = .ok g →
      (make provider { spec with transform := some (m.scale k).array }).result = .ok h →
      g.pixelToPoint = h.pixelToPoint ∧ g.pointToPixel = h.pointToPixel ∧
        (g.window = h.window ↔ 0 < k ∨ t.xScale = 0 ∨ ¬ DirectionDecides provider spec t) := by
  have scaled := AffineTransform.make_scale nonzero accepted
  have maps := t.pixelToPoint_scale nonzero
  have back := t.pointToPixel_scale nonzero
  refine ⟨⟨_, scaled, maps, back⟩, ?_, ?_⟩
  · intro agree
    rw [make_scaled nonzero accepted provider agree, Logged.result_map]
    constructor
    · intro fault
      cases (make provider { spec with transform := some m.array }).result <;> simp [Except.map]
    · intro g ok
      obtain rfl := affine_of_make accepted ok
      rw [ok]
      exact ⟨_, rfl, rfl, rfl, (actsAlike_withAffine maps back).convertsAlike⟩
  · intro g h ok ok'
    have windows := window_eq_iff nonzero accepted ok ok'
    obtain rfl := affine_of_make accepted ok
    have affine := affine_of_make scaled ok'
    refine ⟨?_, ?_, windows⟩
    · unfold pixelToPoint
      rw [affine, maps]
    · unfold pointToPixel
      rw [affine, back]

/-- Half of a perspective converts as the whole of it. For the identity the direction decides, so its
negative is reported in another window. -/
theorem half_perspective_agrees :
    let perspective : Matrix3 ℚ := ⟨⟨1, 0, 0⟩, ⟨0, 1, 0⟩, ⟨3, 0, 1⟩⟩
    (∃ g h : GeoReference ℚ,
      (make Parabolic.provider { transform := some perspective.array }).result = .ok g ∧
      (make Parabolic.provider { transform := some (perspective.scale (1 / 2)).array }).result =
        .ok h ∧
      h.window = g.window ∧ ConvertsAlike g h) ∧
    ∃ t : AffineTransform ℚ,
      AffineTransform.make (some Matrix3.identity.array) (.known .area) = .ok t ∧
      DirectionDecides Parabolic.provider {} t := by
  intro perspective
  constructor
  · have transforms : ((AffineTransform.make (some perspective.array)
        (.known .area)).toOption.any fun _ => true) = true := by
      decide +kernel
    have runs : ((make Parabolic.provider
        { transform := some perspective.array }).result.toOption.any fun _ => true) = true := by
      decide +kernel
    obtain ⟨t, accepted, _⟩ := exists_of_toOption_any transforms
    obtain ⟨g, made, _⟩ := exists_of_toOption_any runs
    have halved : (1 / 2 : ℚ) ≠ 0 := by norm_num
    obtain ⟨_, agree, _⟩ :=
      scaled_matrices_agree_iff Parabolic.provider {} perspective halved accepted
    obtain ⟨h, made', _, window, converts⟩ := (agree (.inl (by norm_num))).2 g made
    exact ⟨g, h, made, made', window, converts⟩
  · let windowOf (m : Matrix3 ℚ) (window : LonWindow) : Bool :=
      (make Parabolic.provider { transform := some m.array }).result.toOption.any fun g =>
        decide (g.window = window)
    have transforms : ((AffineTransform.make (α := ℚ) (some Matrix3.identity.array)
        (.known .area)).toOption.any fun _ => true) = true := by
      decide +kernel
    have east : windowOf Matrix3.identity .around180 = true := by decide +kernel
    have west : windowOf (Matrix3.identity.scale (-1)) .aroundZero = true := by decide +kernel
    obtain ⟨t, accepted, _⟩ := exists_of_toOption_any transforms
    obtain ⟨g, made, window⟩ := exists_of_toOption_any east
    obtain ⟨h, made', window'⟩ := exists_of_toOption_any west
    refine ⟨t, accepted, ?_⟩
    by_contra undecided
    have negated : (-1 : ℚ) ≠ 0 := by norm_num
    obtain ⟨_, _, differ⟩ :=
      scaled_matrices_agree_iff Parabolic.provider {} Matrix3.identity negated accepted
    have same := (differ g h made made').2.2.mpr (.inr (.inr undecided))
    rw [of_decide_eq_true window, of_decide_eq_true window'] at same
    contradiction

/-- The identity and its negative map pixels to the same points, but the longitudes of these points are
reported in different windows. -/
theorem negated_identity_turns_window :
    ∃ g h : GeoReference ℚ,
      (make (α := ℚ) Parabolic.provider { transform := some Matrix3.identity.array }).result = .ok g ∧
      (make (α := ℚ) Parabolic.provider
        { transform := some (Matrix3.identity.scale (-1)).array }).result = .ok h ∧
      g.pixelToPoint ⟨200, 0⟩ = h.pixelToPoint ⟨200, 0⟩ ∧
      g.window = .around180 ∧ h.window = .aroundZero ∧
      g.pixelToLonLat ⟨200, 0⟩ = .ok ⟨401 / 2, 1 / 2⟩ ∧
      h.pixelToLonLat ⟨200, 0⟩ = .ok ⟨-319 / 2, 1 / 2⟩ := by
  let reports (g : GeoReference ℚ) (lonLat : Point ℚ) : Bool :=
    decide (g.pixelToPoint ⟨200, 0⟩ = ⟨401 / 2, 1 / 2⟩) &&
      (g.pixelToLonLat ⟨200, 0⟩).toOption.any fun found => decide (found = lonLat)
  have first : ((make (α := ℚ) Parabolic.provider
      { transform := some Matrix3.identity.array }).result.toOption.any fun g =>
        decide (g.window = .around180) && reports g ⟨401 / 2, 1 / 2⟩) = true := by
    decide +kernel
  have second : ((make (α := ℚ) Parabolic.provider
      { transform := some (Matrix3.identity.scale (-1)).array }).result.toOption.any fun h =>
        decide (h.window = .aroundZero) && reports h ⟨-319 / 2, 1 / 2⟩) = true := by
    decide +kernel
  obtain ⟨g, made, checked⟩ := exists_of_toOption_any first
  obtain ⟨h, made', checked'⟩ := exists_of_toOption_any second
  simp only [reports, Bool.and_eq_true, decide_eq_true_eq] at checked checked'
  obtain ⟨window, point, converts⟩ := checked
  obtain ⟨window', point', converts'⟩ := checked'
  obtain ⟨lonLat, converted, same⟩ := exists_of_toOption_any converts
  obtain ⟨lonLat', converted', same'⟩ := exists_of_toOption_any converts'
  rw [of_decide_eq_true same] at converted
  rw [of_decide_eq_true same'] at converted'
  exact ⟨g, h, made, made', point.trans point'.symm, window, window', converted, converted'⟩

end GeoReference

end GeoRaster
