import GeoRaster.Proofs.Projection.Setup
import GeoRaster.Proofs.Objects.AllOrNothing

/-! Edits of projection strings, and of engines by them. An edit acts on the list of tokens, whatever
blanks stand between them, and what it leaves is spaced so plainly that the same edit changes nothing
more. So an engine that has been freed of `+over` is left alone when it is freed again. -/
namespace GeoRaster.Objects

open Projection (Engine IsToken ReadAlike tokenize removeToken appendToken joinStrings overToken)

variable {α : Type} [Scalar α] {m : Memory α} {e : Address}

theorem clearOver_of_clear
    (clear : removeToken (m.engines.object e).projection overToken = (m.engines.object e).projection) :
    clearOver e m = (pure false, m) := by
  unfold clearOver
  rw [Action.read_bind, if_pos clear]
  rfl

/-- An engine that has been set up has the projection it has been set up for. -/
theorem projection_of_install (projection : String) (datum : Datum)
    (installed : (install e projection datum m).1.result = .ok ()) :
    ((install e projection datum m).2.engines.object e).projection = projection := by
  have tracked := install_tracks (.refl m) (e := e) rfl projection datum
  generalize computed : Engine.install (m.engines.object e).source projection datum = y at tracked
  generalize install e projection datum m = run at tracked installed
  cases tracked with
  | error kept => contradiction
  | ok reached =>
    obtain ⟨rfl, _⟩ := reached
    obtain ⟨session, _, rfl⟩ := Engine.install_ok_iff.mp (congrArg Logged.result computed)
    simp [Memory.withEngine, Memory.updateEngine]

/-- Taking `+over` away leaves none to be taken away. -/
theorem clear_of_clearOver {changed : Bool} (cleared : (clearOver e m).1.result = .ok changed) :
    removeToken ((clearOver e m).2.engines.object e).projection overToken =
      ((clearOver e m).2.engines.object e).projection := by
  by_cases clear : removeToken (m.engines.object e).projection overToken =
      (m.engines.object e).projection
  · rw [clearOver_of_clear clear, clear]
  · have steps : clearOver e m = Action.andThen (install e
          (removeToken (m.engines.object e).projection overToken) (m.engines.object e).datum)
        (fun _ => Action.ofLogged (Logged.debug ("Removed +over from projection: " ++
            removeToken (m.engines.object e).projection overToken)) >>= fun _ => pure true) m := by
      unfold clearOver
      rw [Action.read_bind, if_neg clear]
      rfl
    rw [steps] at cleared ⊢
    have written := projection_of_install (m := m) (e := e)
      (removeToken (m.engines.object e).projection overToken) (m.engines.object e).datum
    unfold Action.andThen at cleared ⊢
    generalize install e (removeToken (m.engines.object e).projection overToken)
      (m.engines.object e).datum m = run at cleared written ⊢
    rcases run with ⟨⟨log, result⟩, m'⟩
    cases result with
    | error fault => contradiction
    | ok =>
      show removeToken (m'.engines.object e).projection overToken = (m'.engines.object e).projection
      rw [written rfl, Projection.removeToken_removeToken]

/-- Edits act on tokens as filtering, adding at the end and concatenation do, and they can be repeated
or taken back. The token `+over` can come and go without anything being read differently, and an engine
that has been freed of it stays as it is when it is freed again, which it reports. -/
theorem edits_act_on_tokens {token : String} (proper : IsToken token) :
    (∀ s, tokenize (removeToken s token) = (tokenize s).filter (· ≠ token)) ∧
      (∀ s, tokenize (appendToken s token) = tokenize s ++ [token]) ∧
      (∀ parts, tokenize (joinStrings parts) = parts.flatMap tokenize) ∧
      (∀ s, removeToken (removeToken s token) token = removeToken s token) ∧
      (∀ s, removeToken (appendToken s token) token = removeToken s token) ∧
      (∀ s, ReadAlike (appendToken s overToken) s ∧ ReadAlike (removeToken s overToken) s) ∧
      ∀ (α : Type) [Scalar α] (m : Memory α) (e : Address) (changed : Bool),
        (clearOver e m).1.result = .ok changed →
          clearOver e (clearOver e m).2 = (pure false, (clearOver e m).2) := by
  refine ⟨?_, ?_, Projection.tokenize_joinStrings, ?_, ?_, ?_, ?_⟩
  · exact fun s => Projection.tokenize_removeToken s token
  · exact fun s => Projection.tokenize_appendToken s proper
  · exact fun s => Projection.removeToken_removeToken s token
  · exact fun s => Projection.removeToken_appendToken s proper
  · intro s
    exact ⟨Projection.readAlike_of_tokensButOver (Projection.tokensButOver_appendToken s),
      Projection.readAlike_of_tokensButOver (Projection.tokensButOver_removeToken s)⟩
  · intro α _ m e changed cleared
    exact clearOver_of_clear (clear_of_clearOver cleared)

/-- `+over` stands twice between blanks of several kinds, and an engine is freed of it. -/
theorem edits_act_on_over :
    IsToken overToken ∧
      tokenize (removeToken "\t+over\u00a0+proj=sinu\n +over\u2003+lon_0=-20 " overToken) =
        ["+proj=sinu", "+lon_0=-20"] ∧
      ∃ m : Memory ℚ, (clearOver 0 m).1.result = .ok true ∧
        clearOver 0 (clearOver 0 m).2 = (pure false, (clearOver 0 m).2) := by
  obtain ⟨removed, _, _, _, _, _, again⟩ := edits_act_on_tokens Projection.overToken_isToken
  have filtered : (tokenize "\t+over\u00a0+proj=sinu\n +over\u2003+lon_0=-20 ").filter (· ≠ overToken) =
      ["+proj=sinu", "+lon_0=-20"] := by
    decide +kernel
  let m : Memory ℚ :=
    (newEngine Projection.Parabolic.provider "+proj=sinu" WellKnownDatum.wgs1984.datum .vacant).2
  have cleared : (clearOver 0 m).1.result = .ok true := by
    decide +kernel
  exact ⟨Projection.overToken_isToken, (removed _).trans filtered, m, cleared,
    again ℚ m 0 true cleared⟩

end GeoRaster.Objects
