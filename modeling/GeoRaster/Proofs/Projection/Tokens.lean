import GeoRaster.Projection.Tokens
import GeoRaster.Proofs.Text.Words

/-! The tokens of edited projection strings. Removing, appending and joining act on the tokens
as filtering, adding at the end and concatenation do; and `+over`, which gives no key a
value, can come and go without any value being read differently. -/
namespace GeoRaster.Projection

open Text (trimmed)

/-- A text that is one token by itself. -/
def IsToken (token : String) : Prop :=
  token.toList ≠ [] ∧ ∀ c ∈ token.toList, Text.isBlank c = false

theorem isToken_of_mem_tokenize {projection token : String} (member : token ∈ tokenize projection) :
    IsToken token := by
  obtain ⟨w, found, rfl⟩ := List.mem_map.mp member
  simpa only [IsToken, String.toList_ofList] using Text.mem_words found

instance (token : String) : Decidable (IsToken token) :=
  decidable_of_iff (token.toList ≠ [] ∧ (token.toList.all fun c => !Text.isBlank c) = true)
    (by simp [IsToken])

theorem overToken_isToken : IsToken overToken := by
  decide

theorem tokenize_ofTokens {tokens : List String} (proper : ∀ t ∈ tokens, IsToken t) :
    tokenize (ofTokens tokens) = tokens := by
  have words : Text.words (Text.unwords (tokens.map String.toList)) = tokens.map String.toList :=
    Text.words_unwords (List.forall_mem_map.mpr proper)
  simp [tokenize, ofTokens, words]

theorem tokenize_trimmed (projection : String) :
    tokenize (trimmed projection) = tokenize projection := by
  simp only [tokenize, trimmed, String.toList_ofList, Text.words_trim]

theorem tokenize_removeToken (projection token : String) :
    tokenize (removeToken projection token) = (tokenize projection).filter (· ≠ token) :=
  tokenize_ofTokens fun _ member => isToken_of_mem_tokenize (List.mem_filter.mp member).1

theorem tokenize_appendToken (projection : String) {token : String} (proper : IsToken token) :
    tokenize (appendToken projection token) = tokenize projection ++ [token] := by
  have words : Text.words (Text.trim projection.toList ++ ' ' :: token.toList) =
      Text.words projection.toList ++ [token.toList] := by
    rw [Text.words_append_blank (by decide), Text.words_trim, Text.words_of_word proper.1 proper.2]
  simp [tokenize, appendToken, Text.words_trim, words]

theorem tokenize_joinStrings (parts : List String) :
    tokenize (joinStrings parts) = parts.flatMap tokenize := by
  rw [tokenize, joinStrings, String.toList_ofList, Text.words_unwords_flatMap,
    Text.flatMap_words_filter, List.flatMap_map, List.map_flatMap]
  simp only [Text.words_trim]
  rfl

theorem trimmed_ofTokens {tokens : List String} (proper : ∀ t ∈ tokens, IsToken t) :
    trimmed (ofTokens tokens) = ofTokens tokens := by
  have words := Text.trim_unwords (List.forall_mem_map.mpr proper)
  simp only [trimmed, ofTokens, String.toList_ofList, words]

theorem trimmed_removeToken (projection token : String) :
    trimmed (removeToken projection token) = removeToken projection token :=
  trimmed_ofTokens fun _ member => isToken_of_mem_tokenize (List.mem_filter.mp member).1

theorem trimmed_appendToken (projection token : String) :
    trimmed (appendToken projection token) = appendToken projection token := by
  simp only [trimmed, appendToken, String.toList_ofList, Text.trim_trim]

/-- A token that has been removed is not found again. -/
theorem removeToken_removeToken (projection token : String) :
    removeToken (removeToken projection token) token = removeToken projection token := by
  have found : (tokenize (removeToken projection token)).filter (· ≠ token) =
      (tokenize projection).filter (· ≠ token) := by
    rw [tokenize_removeToken, List.filter_filter]
    simp
  exact congrArg ofTokens found

theorem removeToken_appendToken (projection : String) {token : String} (proper : IsToken token) :
    removeToken (appendToken projection token) token = removeToken projection token := by
  have found : (tokenize (appendToken projection token)).filter (· ≠ token) =
      (tokenize projection).filter (· ≠ token) := by
    rw [tokenize_appendToken projection proper, List.filter_append]
    simp
  exact congrArg ofTokens found

/-! ### Values of keys -/

theorem append_of_after? {beginning text rest : List Char}
    (found : after? beginning text = some rest) : beginning ++ rest = text := by
  induction beginning generalizing text with
  | nil => simpa [after?] using found.symm
  | cons b beginning ih =>
    cases text with
    | nil => simp [after?] at found
    | cons c text =>
      simp only [after?] at found
      split at found
      · rename_i same
        rw [List.cons_append, ih found, same]
      · contradiction

theorem equals_mem_keyStart (key : String) : '=' ∈ keyStart key := by
  unfold keyStart
  split <;> simp

/-- The token `+over` gives no key a value. -/
theorem after?_overToken (key : String) : after? (keyStart key) overToken.toList = none := by
  cases found : after? (keyStart key) overToken.toList with
  | none => rfl
  | some rest =>
    have member : '=' ∈ overToken.toList := by
      rw [← append_of_after? found]
      exact List.mem_append_left _ (equals_mem_keyStart key)
    exact absurd member (by decide)

/-- The tokens of a projection string other than `+over`. -/
def tokensButOver (projection : String) : List String :=
  (tokenize projection).filter (· ≠ overToken)

theorem findValue_eq_findSome?_tokensButOver (projection key : String) :
    findValue projection key = (tokensButOver projection).findSome? fun token =>
      (after? (keyStart key) token.toList).map String.ofList := by
  unfold findValue tokensButOver
  induction tokenize projection with
  | nil => rfl
  | cons token tokens ih =>
    by_cases isOver : token = overToken
    · subst isOver
      simpa [after?_overToken] using ih
    · rw [List.filter_cons_of_pos (by simpa using isOver), List.findSome?_cons,
        List.findSome?_cons, ih]

/-- Two strings in which every key has the same value, and the same number, and which so denote the same
kind of projection. -/
structure ReadAlike (s t : String) : Prop where
  value : ∀ key, findValue s key = findValue t key
  number : ∀ (α : Type) [Scalar α] (key : String), extractValue (α := α) s key = extractValue t key
  name : projectionName s = projectionName t
  utm : isUTM s = isUTM t
  orthographic : isOrthographic s = isOrthographic t
  geographic : isGeographic s = isGeographic t

section Spelling

variable {s t : String} (same : tokensButOver s = tokensButOver t)
include same

theorem findValue_congr (key : String) : findValue s key = findValue t key := by
  simp only [findValue_eq_findSome?_tokensButOver, same]

theorem projectionName_congr : projectionName s = projectionName t :=
  findValue_congr same "proj"

theorem isUTM_congr : isUTM s = isUTM t := by
  simp only [isUTM, projectionName_congr same]

theorem isOrthographic_congr : isOrthographic s = isOrthographic t := by
  simp only [isOrthographic, projectionName_congr same]

theorem isGeographic_congr : isGeographic s = isGeographic t := by
  simp only [isGeographic, projectionName_congr same]

theorem extractValue_congr {α : Type} [Scalar α] (key : String) :
    extractValue (α := α) s key = extractValue t key := by
  simp only [extractValue, findValue_congr same]

theorem removeToken_congr : removeToken s overToken = removeToken t overToken :=
  congrArg ofTokens same

theorem hasToken_congr {token : String} (other : token ≠ overToken) :
    hasToken s token = hasToken t token := by
  have filtered : ∀ u, hasToken u token = (tokensButOver u).contains token := by
    intro u
    simp [hasToken, tokensButOver, other]
  rw [filtered, filtered, same]

theorem readAlike_of_tokensButOver : ReadAlike s t where
  value := findValue_congr same
  number _ _ := extractValue_congr same
  name := projectionName_congr same
  utm := isUTM_congr same
  orthographic := isOrthographic_congr same
  geographic := isGeographic_congr same

end Spelling

/-! ### The token `+over` -/

theorem hasToken_iff {projection token : String} :
    hasToken projection token = true ↔ token ∈ tokenize projection := by
  simp [hasToken]

theorem hasToken_eq_false_iff {projection token : String} :
    hasToken projection token = false ↔ token ∉ tokenize projection := by
  rw [← Bool.not_eq_true, hasToken_iff]

theorem tokensButOver_removeToken (projection : String) :
    tokensButOver (removeToken projection overToken) = tokensButOver projection := by
  simp [tokensButOver, tokenize_removeToken]

theorem hasToken_removeToken (projection token : String) :
    hasToken (removeToken projection token) token = false := by
  rw [hasToken_eq_false_iff, tokenize_removeToken]
  simp

theorem tokensButOver_appendToken (projection : String) :
    tokensButOver (appendToken projection overToken) = tokensButOver projection := by
  simp [tokensButOver, tokenize_appendToken projection overToken_isToken]

theorem hasToken_appendToken (projection : String) {token : String} (proper : IsToken token) :
    hasToken (appendToken projection token) token = true := by
  rw [hasToken_iff, tokenize_appendToken projection proper]
  simp

theorem tokensButOver_trimmed (projection : String) :
    tokensButOver (trimmed projection) = tokensButOver projection := by
  simp only [tokensButOver, tokenize_trimmed]

theorem hasToken_trimmed (projection token : String) :
    hasToken (trimmed projection) token = hasToken projection token := by
  simp only [hasToken, tokenize_trimmed]

/-- Two spellings of one projection: the same tokens in the same order, except that `+over` may
stand elsewhere and any number of times, if it stands in both. -/
structure SameButOver (s t : String) : Prop where
  tokens : tokensButOver s = tokensButOver t
  placement : hasToken s overToken = hasToken t overToken

theorem SameButOver.refl (s : String) : SameButOver s s :=
  ⟨rfl, rfl⟩

theorem SameButOver.symm {s t : String} (same : SameButOver s t) : SameButOver t s :=
  ⟨same.tokens.symm, same.placement.symm⟩

theorem SameButOver.trans {s t u : String} (first : SameButOver s t) (second : SameButOver t u) :
    SameButOver s u :=
  ⟨first.tokens.trans second.tokens, first.placement.trans second.placement⟩

/-- Other strings joined behind two spellings of one projection keep them so. -/
theorem SameButOver.joinStrings {s t : String} (same : SameButOver s t) (others : List String) :
    SameButOver (joinStrings (s :: others)) (joinStrings (t :: others)) := by
  refine ⟨?_, ?_⟩
  · simpa only [tokensButOver, tokenize_joinStrings, List.flatMap_cons, List.filter_append,
      List.append_cancel_right_eq] using same.tokens
  · have placement := same.placement
    simp only [hasToken, List.contains_eq_mem] at placement
    simp only [hasToken, tokenize_joinStrings, List.flatMap_cons, List.contains_eq_mem,
      List.mem_append, Bool.decide_or, placement]

end GeoRaster.Projection
