import GeoRaster.Proofs.Projection.Named
import GeoRaster.Wkt.Basic

/-! How tokens are told apart when a text comes back. A token is sorted by how it starts, so whatever number
or name follows makes no difference: the tokens of named projections are tokens of a projection, except
for the hemisphere of a zone, and no token of a datum or of an ellipsoid is one. -/
namespace GeoRaster.Wkt

open Projection

/-! ### Starts -/

theorem startsWithAny_iff {starts : List String} {token : String} :
    startsWithAny starts token = true ↔ ∃ start ∈ starts, start.toList <+: token.toList := by
  simp only [startsWithAny, List.any_eq_true, List.isPrefixOf_iff_prefix]

theorem toList_prefix_append (s t : String) : s.toList <+: (s ++ t).toList := by
  rw [String.toList_append]
  exact List.prefix_append _ _

/-- A text that starts right does so whatever follows. -/
theorem startsWithAny_append {starts : List String} {s : String} (found : startsWithAny starts s = true)
    (t : String) : startsWithAny starts (s ++ t) = true := by
  obtain ⟨start, member, begins⟩ := startsWithAny_iff.mp found
  exact startsWithAny_iff.mpr ⟨start, member, begins.trans (toList_prefix_append s t)⟩

/-- Whether a text has already parted from each of some starts. -/
def hasParted (starts : List String) (s : String) : Bool :=
  starts.all fun start => !start.toList.isPrefixOf s.toList && !s.toList.isPrefixOf start.toList

/-- A text that has parted from some starts has none of them, whatever follows. -/
theorem not_startsWithAny_of_hasParted {starts : List String} {s : String} (parted : hasParted starts s = true)
    {token : String} (begins : s.toList <+: token.toList) : startsWithAny starts token = false := by
  rw [← Bool.not_eq_true, startsWithAny_iff]
  rintro ⟨start, member, starts⟩
  have apart := List.all_eq_true.mp parted start member
  simp only [Bool.and_eq_true, Bool.not_eq_true', ← Bool.not_eq_true, List.isPrefixOf_iff_prefix] at apart
  rcases List.prefix_or_prefix_of_prefix starts begins with first | second
  · exact apart.1 first
  · exact apart.2 second

/-! ### Named projections -/

theorem starts_of_mem_tokens {p : Named} {token : String} (member : token ∈ p.tokens) :
    startsWithAny projectionStarts token = true ∨
      token = "+south" ∧ ∃ zone, p = .utm zone false := by
  have byKey : ∀ key ∈ Named.keys, startsWithAny projectionStarts ("+" ++ key ++ "=") = true := by
    decide
  rcases Named.mem_tokens member with
    rfl | rfl | ⟨entry, found, rfl⟩ | ⟨zone, north, rfl, rfl | ⟨rfl, rfl⟩⟩
  · exact .inl (startsWithAny_append (by decide) p.name)
  · exact .inl (by decide)
  · exact .inl (startsWithAny_append (byKey _ (Named.key_mem_keys found)) _)
  · exact .inl (startsWithAny_append (by decide) _)
  · exact .inr ⟨rfl, zone, rfl⟩

/-- Only a scale of zero is written as the token of a scale of zero. -/
theorem ne_zeroScale_of_mem_tokens {p : Named} (scaled : ∀ k, ("k", k) ∈ p.parameters → (k == 0.0) = false)
    {token : String} (member : token ∈ p.tokens) : token ≠ zeroScale := by
  have apart : ∀ {s token : String}, ¬ s.toList <+: zeroScale.toList → s.toList <+: token.toList →
      token ≠ zeroScale := by
    rintro s token apart begins rfl
    exact apart begins
  have byKey : ∀ key ∈ Named.keys, key ≠ "k" → ¬ ("+" ++ key ++ "=").toList <+: zeroScale.toList := by
    decide
  rcases Named.mem_tokens member with
    rfl | rfl | ⟨⟨key, k⟩, found, rfl⟩ | ⟨zone, north, rfl, rfl | ⟨rfl, rfl⟩⟩
  · exact apart (by decide) (toList_prefix_append "+proj=" p.name)
  · decide
  · by_cases scale : key = "k"
    · subst scale
      intro zero
      have text : "+k=".toList ++ (Named.numberText k).toList = "+k=".toList ++ "0".toList := by
        rw [← String.toList_append, ← String.toList_append]
        exact congrArg String.toList zero
      have isZero := Named.eq_zero_of_numberText (String.toList_inj.mp (List.append_cancel_left text))
      exact absurd ((scaled k found).symm.trans isZero) (by decide)
    · exact apart (byKey key (Named.key_mem_keys found) scale) (toList_prefix_append _ _)
  · exact apart (by decide) (toList_prefix_append "+zone=" _)
  · decide

theorem isDatumToken_of_mem_tokens {p : Named} {token : String} (member : token ∈ p.tokens) :
    isDatumToken token = false := by
  rcases starts_of_mem_tokens member with starts | ⟨rfl, _⟩
  · simp only [isDatumToken, starts, Bool.not_true, Bool.and_false, Bool.false_and]
  · decide

/-- No token of a named projection is lost, but that of the southern hemisphere. -/
theorem filter_isProjectionToken {p : Named} (scaled : ∀ k, ("k", k) ∈ p.parameters → (k == 0.0) = false)
    (northern : ∀ zone, p ≠ .utm zone false) : p.tokens.filter isProjectionToken = p.tokens := by
  refine List.filter_eq_self.mpr fun token member => ?_
  rcases starts_of_mem_tokens member with starts | ⟨_, zone, southern⟩
  · simp [isProjectionToken, starts, ne_zeroScale_of_mem_tokens scaled member]
  · exact absurd southern (northern zone)

/-! ### Datums -/

/-- Datum tokens are not taken for tokens of a projection. -/
theorem sorted_of_datumStarts {token : String} (starts : startsWithAny datumStarts token = true) :
    isProjectionToken token = false ∧ isDatumToken token = true ∧ token ≠ "+south" := by
  have parted : ∀ start ∈ datumStarts, hasParted projectionStarts start = true ∧
      ¬ start.toList <+: zeroScale.toList ∧ ¬ start.toList <+: "+south".toList := by
    decide
  obtain ⟨start, member, begins⟩ := startsWithAny_iff.mp starts
  obtain ⟨parted, notScale, notSouth⟩ := parted start member
  have other := not_startsWithAny_of_hasParted parted begins
  have scale : token ≠ zeroScale := by
    rintro rfl
    exact notScale begins
  have south : token ≠ "+south" := by
    rintro rfl
    exact notSouth begins
  simp [isProjectionToken, isDatumToken, starts, other, scale, south]

/-- The tokens of two axes. -/
def axes (a b : Float) : List String :=
  ["+a=" ++ Decimal.floatText a, "+b=" ++ Decimal.floatText b]

theorem axisTokens_eq (a b : Float) : Datum.axisTokens a b = ofTokens (axes a b) := by
  rw [← String.toList_inj]
  simp [Datum.axisTokens, axes, ofTokens, Text.unwords]

theorem isToken_of_mem_axes {a b : Float} : ∀ token ∈ axes a b, IsToken token := by
  refine List.forall_mem_cons.mpr ⟨?_, List.forall_mem_singleton.mpr ?_⟩
  · exact isToken_append (by decide) fun _ => Decimal.isNumeric_of_mem_floatText
  · exact isToken_append (by decide) fun _ => Decimal.isNumeric_of_mem_floatText

theorem tokenize_axisTokens (a b : Float) : tokenize (Datum.axisTokens a b) = axes a b := by
  rw [axisTokens_eq, tokenize_ofTokens isToken_of_mem_axes]

/-- Tokens of axes are not sorted anywhere. -/
theorem unsorted_of_mem_axes {a b : Float} {token : String} (member : token ∈ axes a b) :
    isProjectionToken token = false ∧ isDatumToken token = false ∧ token ≠ "+south" := by
  have parted : ∀ start ∈ ["+a=", "+b="], hasParted projectionStarts start = true ∧
      hasParted datumStarts start = true ∧ ¬ start.toList <+: "+south".toList := by
    decide
  have begins : ∃ start ∈ ["+a=", "+b="], start.toList <+: token.toList := by
    rcases List.mem_cons.mp member with rfl | member
    · exact ⟨"+a=", by decide, toList_prefix_append _ _⟩
    · rw [List.mem_singleton.mp member]
      exact ⟨"+b=", by decide, toList_prefix_append _ _⟩
  obtain ⟨start, axis, begins⟩ := begins
  obtain ⟨projection, datum, notSouth⟩ := parted start axis
  have south : token ≠ "+south" := by
    rintro rfl
    exact notSouth begins
  simp [isProjectionToken, isDatumToken, not_startsWithAny_of_hasParted projection begins,
    not_startsWithAny_of_hasParted datum begins, south]

/-! ### Sorting -/

theorem result_splitTokens (projection : String) :
    (splitTokens projection).result =
      .ok ((tokenize projection).filter isProjectionToken, (tokenize projection).filter isDatumToken) := by
  have warned : ∀ tokens : List String, (tokens.forM fun _ =>
      Logged.warning "Input contained an illegal scale_factor of zero. Ignored.").result = .ok () := by
    intro tokens
    induction tokens with
    | nil => rfl
    | cons token tokens ih =>
      show (Logged.warning _ >>= fun _ => tokens.forM fun _ => Logged.warning _).result = .ok ()
      rw [Logged.result_bind, Logged.result_warning]
      exact ih
  simp only [splitTokens, Logged.result_bind, warned, Except.bind, Logged.result_pure]

end GeoRaster.Wkt
