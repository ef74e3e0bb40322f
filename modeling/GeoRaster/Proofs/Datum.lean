import GeoRaster.GeoReference.Basic
import GeoRaster.Proofs.Projection.Tokens

/-! Datums with the WGS 84 spheroid. Whatever datum comes in, the completed one has a name and a datum
token if its spheroid is that of WGS 84, so completing it once more changes nothing. -/
namespace GeoRaster

open Projection (tokenize hasToken appendToken)

namespace Datum

theorem containsText_iff {part s : List Char} : containsText part s = true ↔ part <:+: s := by
  induction s with
  | nil => simp [containsText]
  | cons c s ih =>
    simp only [containsText, Bool.or_eq_true, ih, List.isPrefixOf_iff_prefix, List.infix_cons_iff]

/-- A token stands in the text. -/
theorem containsText_of_hasToken {projection token : String}
    (found : hasToken projection token = true) {part : List Char} (starts : part <+: token.toList) :
    containsText part projection.toList = true := by
  obtain ⟨w, member, rfl⟩ := List.mem_map.mp (Projection.hasToken_iff.mp found)
  rw [String.toList_ofList] at starts
  exact containsText_iff.mpr (starts.isInfix.trans (Text.infix_of_mem_words member))

/-- A datum that has the WGS 84 spheroid has a datum token and a name as well. -/
theorem lacksDatumName_eq_false_iff {d : Datum} : d.lacksDatumName = false ↔
    (d.spheroidName ∈ wgs84SpheroidNames →
      containsText "+datum=".toList d.tokens.toList = true ∧ d.name ≠ "unknown") := by
  unfold lacksDatumName
  by_cases spheroid : d.spheroidName ∈ wgs84SpheroidNames
  · simp [spheroid]
  · simp [spheroid]

theorem wgs84Token_isToken : Projection.IsToken wgs84Token := by
  decide

theorem hasToken_asWGS84 (d : Datum) : hasToken d.asWGS84.tokens wgs84Token = true := by
  unfold asWGS84
  dsimp only
  split
  · rw [Projection.hasToken_trimmed]
    assumption
  · exact Projection.hasToken_appendToken _ wgs84Token_isToken

theorem lacksDatumName_asWGS84 (d : Datum) : d.asWGS84.lacksDatumName = false := by
  rw [lacksDatumName_eq_false_iff]
  intro _
  have renamed : "WGS_1984" ≠ "unknown" := by decide
  exact ⟨containsText_of_hasToken d.hasToken_asWGS84 (by decide), renamed⟩

end Datum

namespace GeoReference

/-- A datum that lacks nothing is completed to itself, without a warning. -/
theorem named_of_complete {d : Datum} (complete : d.lacksDatumName = false) : named d = pure d := by
  unfold named
  rw [complete]
  rfl

theorem lacksDatumName_of_named {d completed : Datum} (ok : (named d).result = .ok completed) :
    completed.lacksDatumName = false := by
  cases lacks : d.lacksDatumName with
  | true =>
    have patched : (named d).result = .ok d.asWGS84 := by
      unfold named
      rw [lacks]
      rfl
    obtain rfl := Except.ok.inj (patched.symm.trans ok)
    exact d.lacksDatumName_asWGS84
  | false =>
    rw [named_of_complete lacks] at ok
    obtain rfl := Except.ok.inj ok
    exact lacks

end GeoReference

end GeoRaster
