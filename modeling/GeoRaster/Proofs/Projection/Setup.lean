import GeoRaster.Projection.Engine
import GeoRaster.Proofs.Projection.Tokens

/-! How engines are set up. Preparation succeeds exactly for strings that name a projection, keeps
every token, and sees to `+over`; what a provider makes of the prepared string is then all
that an engine holds. -/
namespace GeoRaster.Projection

open Text (trimmed)

theorem ne_empty_of_named {projection : String} (named : (projectionName projection).isSome = true) :
    projection ≠ "" := by
  rintro rfl
  exact absurd named (by decide)

theorem projectionName_trimmed (projection : String) :
    projectionName (trimmed projection) = projectionName projection :=
  projectionName_congr (tokensButOver_trimmed projection)

theorem isUTM_trimmed (projection : String) : isUTM (trimmed projection) = isUTM projection :=
  isUTM_congr (tokensButOver_trimmed projection)

namespace Engine

/-- What a prepared projection string has to do with the given one. -/
structure Prepared (given prepared : String) : Prop where
  trimmed : trimmed prepared = prepared
  named : (projectionName prepared).isSome = true
  tokens : tokensButOver prepared = tokensButOver given
  placement : hasToken prepared overToken = (hasToken given overToken || !isUTM given)

/-- Where `+over` stands already, or has no place, preparation only trims. -/
theorem prepared_of_complete {given : String} (named : (projectionName given).isSome = true)
    (complete : (hasToken given overToken || isUTM given) = true) :
    prepared given = .ok (Text.trimmed given) := by
  have trimmedNamed : (projectionName (Text.trimmed given)).isSome = true := by
    rwa [projectionName_trimmed]
  have nonempty := ne_empty_of_named trimmedNamed
  have unchanged : (!hasToken given overToken && !isUTM given) = false := by
    rw [← Bool.not_or, complete]
    rfl
  have unnamed : (projectionName (Text.trimmed given)).isNone = false := by
    simpa using trimmedNamed
  simp [prepared, nonempty, unnamed, hasToken_trimmed, isUTM_trimmed, unchanged]

theorem prepared_of_incomplete {given : String} (named : (projectionName given).isSome = true)
    (incomplete : (hasToken given overToken || isUTM given) = false) :
    prepared given = .ok (appendToken (Text.trimmed given) overToken) := by
  have trimmedNamed : (projectionName (Text.trimmed given)).isSome = true := by
    rwa [projectionName_trimmed]
  have nonempty := ne_empty_of_named trimmedNamed
  have changed : (!hasToken given overToken && !isUTM given) = true := by
    rw [← Bool.not_or, incomplete]
    rfl
  have unnamed : (projectionName (Text.trimmed given)).isNone = false := by
    simpa using trimmedNamed
  simp [prepared, nonempty, unnamed, hasToken_trimmed, isUTM_trimmed, changed]

theorem named_of_prepared {given q : String} (ok : prepared given = .ok q) :
    (projectionName given).isSome = true := by
  rw [← projectionName_trimmed]
  cases name : projectionName (Text.trimmed given) with
  | some _ => rfl
  | none =>
    simp only [prepared, name] at ok
    split at ok <;> simp at ok

theorem prepared_ok {given q : String} (ok : prepared given = .ok q) : Prepared given q := by
  have named := named_of_prepared ok
  cases complete : hasToken given overToken || isUTM given with
  | true =>
    rw [prepared_of_complete named complete, Except.ok.injEq] at ok
    subst ok
    have trimmedNamed := named
    rw [← projectionName_trimmed] at trimmedNamed
    refine ⟨Text.trimmed_trimmed given, trimmedNamed, tokensButOver_trimmed given, ?_⟩
    rw [hasToken_trimmed]
    cases placed : hasToken given overToken with
    | true => rfl
    | false =>
      rw [placed, Bool.false_or] at complete
      simp [complete]
  | false =>
    rw [prepared_of_incomplete named complete, Except.ok.injEq] at ok
    subst ok
    have tokens : tokensButOver (appendToken (Text.trimmed given) overToken) =
        tokensButOver given := by
      rw [tokensButOver_appendToken, tokensButOver_trimmed]
    have appendedNamed := named
    rw [← projectionName_congr tokens] at appendedNamed
    refine ⟨trimmed_appendToken _ _, appendedNamed, tokens, ?_⟩
    rw [hasToken_appendToken _ overToken_isToken]
    simp only [Bool.or_eq_false_iff] at complete
    simp [complete]

/-- Preparation fails for strings without a projection only. -/
theorem exists_prepared_iff (given : String) :
    (∃ q, prepared given = .ok q) ↔ (projectionName given).isSome = true := by
  constructor
  · rintro ⟨q, ok⟩
    exact named_of_prepared ok
  · intro named
    cases complete : hasToken given overToken || isUTM given with
    | true => exact ⟨_, prepared_of_complete named complete⟩
    | false => exact ⟨_, prepared_of_incomplete named complete⟩

/-- Strings with the same tokens but for `+over` are prepared into spellings of one projection;
a zone of the universal transverse Mercator system keeps the `+over` it was given. -/
theorem Prepared.sameButOver {s t s' t' : String} (first : Prepared s s') (second : Prepared t t')
    (same : tokensButOver s = tokensButOver t)
    (placement : isUTM s = true → hasToken s overToken = hasToken t overToken) :
    SameButOver s' t' := by
  refine ⟨first.tokens.trans (same.trans second.tokens.symm), ?_⟩
  rw [first.placement, second.placement, ← isUTM_congr same]
  cases utm : isUTM s with
  | true => rw [placement utm]
  | false => simp

/-! ### Engines that are set up -/

variable {α : Type}

theorem install_ok_iff {provider : Provider α} {projection : String} {datum : Datum}
    {e : Engine α} :
    (install provider projection datum).result = .ok e ↔
      ∃ session, (provider.configure (overallString projection datum)).result = .ok session ∧
        e = ⟨provider, session, none, projection, datum⟩ := by
  simp only [install, Logged.result_bind_eq_ok, Logged.result_pure, Except.ok.injEq]
  constructor
  · rintro ⟨session, configured, rfl⟩
    exact ⟨session, configured, rfl⟩
  · rintro ⟨session, configured, rfl⟩
    exact ⟨session, configured, rfl⟩

theorem make_ok_iff {provider : Provider α} {projection : String} {datum : Datum}
    {e : Engine α} :
    (make provider projection datum).result = .ok e ↔
      ∃ q, prepared projection = .ok q ∧ ∃ session,
        (provider.configure (overallString q datum)).result = .ok session ∧
          e = ⟨provider, session, none, q, datum⟩ := by
  simp only [make, Logged.result_bind_eq_ok, Logged.result_ofExcept, install_ok_iff]

/-- Taking `+over` away gives an engine that is set up for the string without it, also where
nothing was to be taken away. -/
theorem clearOver_ok_iff {provider : Provider α} {session : Session α} {q : String}
    {datum : Datum} {e : Engine α} {changed : Bool}
    (configured : (provider.configure (overallString q datum)).result = .ok session) :
    (clearOver ⟨provider, session, none, q, datum⟩).result = .ok (e, changed) ↔
      changed = decide (removeToken q overToken ≠ q) ∧ ∃ final,
        (provider.configure (overallString (removeToken q overToken) datum)).result = .ok final ∧
          e = ⟨provider, final, none, removeToken q overToken, datum⟩ := by
  by_cases same : removeToken q overToken = q
  · simp only [clearOver, same, if_true, Logged.result_pure, Except.ok.injEq, Prod.mk.injEq,
      configured, not_true_eq_false, decide_false, ne_eq]
    constructor
    · rintro ⟨rfl, rfl⟩
      exact ⟨rfl, session, rfl, rfl⟩
    · rintro ⟨rfl, final, rfl, rfl⟩
      exact ⟨rfl, rfl⟩
  · simp only [clearOver, same, if_false, Logged.result_bind_eq_ok, install_ok_iff,
      Logged.result_debug, Logged.result_pure, Except.ok.injEq, Prod.mk.injEq, ne_eq,
      not_false_eq_true, decide_true]
    constructor
    · rintro ⟨e, ⟨final, stripped, rfl⟩, _, _, rfl, rfl⟩
      exact ⟨rfl, final, stripped, rfl⟩
    · rintro ⟨rfl, final, stripped, rfl⟩
      exact ⟨_, ⟨final, stripped, rfl⟩, (), trivial, rfl, rfl⟩

end Engine

end GeoRaster.Projection
