import GeoRaster.Proofs.Decimal.Notation
import GeoRaster.Proofs.Projection.Tokens
import GeoRaster.Projection.Named

/-! The strings of named projections. Every part of such a string is one token, whatever its number: the
tokens can be read off the string again, the first of them gives the name, and none is `+over`. Only a
scale of zero is written `+k=0`. -/
namespace GeoRaster.Projection

open Decimal (isNumeric intText)

theorem isToken_append {token number : String} (proper : IsToken token)
    (numeric : ∀ c ∈ number.toList, isNumeric c = true) : IsToken (token ++ number) := by
  obtain ⟨some, letters⟩ := proper
  rw [IsToken, String.toList_append]
  refine ⟨List.append_ne_nil_of_left_ne_nil some _, List.forall_mem_append.mpr ⟨letters, ?_⟩⟩
  exact fun c member => Decimal.isBlank_of_isNumeric (numeric c member)

/-! ### Values of keys -/

theorem after?_append (beginning rest : List Char) : after? beginning (beginning ++ rest) = some rest := by
  induction beginning with
  | nil => rfl
  | cons b beginning ih => simpa only [List.cons_append, after?, if_true] using ih

/-- The first token of a key gives it the value. -/
theorem findValue_of_tokens {s key value token : String} {before rest : List String}
    (tokens : tokenize s = before ++ token :: rest)
    (others : ∀ t ∈ before, after? (keyStart key) t.toList = none)
    (starts : token.toList = keyStart key ++ value.toList) : findValue s key = some value := by
  have skipped : (before.findSome? fun t => (after? (keyStart key) t.toList).map String.ofList) = none :=
    List.findSome?_eq_none_iff.mpr fun t member => by rw [others t member, Option.map_none]
  rw [findValue, tokens, List.findSome?_append, skipped, Option.none_or, List.findSome?_cons, starts,
    after?_append, Option.map_some, String.ofList_toList]

namespace Named

/-! ### Numbers -/

theorem isNumeric_of_mem_numberText {x : Float} : ∀ c ∈ (numberText x).toList, isNumeric c = true := by
  unfold numberText
  split
  · exact fun _ => Decimal.isNumeric_of_mem_intText
  · exact fun _ => Decimal.isNumeric_of_mem_floatText

theorem eq_zero_of_numberText {x : Float} (zero : numberText x = "0") : (x == 0.0) = true := by
  have text : "0" = intText 0 := by decide
  rw [text] at zero
  unfold numberText at zero
  split at zero
  · refine Decimal.eq_zero_of_isWhole ‹_› ?_
    have same := Decimal.readInteger?_intText (Decimal.floorInt x)
    rw [zero, Decimal.readInteger?_intText, Option.some.injEq] at same
    exact same.symm
  · exact absurd zero (Decimal.floatText_ne_intText x 0)

/-! ### Tokens -/

def names : List String :=
  ["longlat", "eqc", "sinu", "merc", "tmerc", "ortho", "stere", "sterea", "gnom", "laea", "lcc", "utm"]

def keys : List String :=
  ["lon_0", "lat_0", "lat_ts", "lat_1", "lat_2", "k", "x_0", "y_0"]

theorem name_mem_names (p : Named) : p.name ∈ names := by
  cases p <;> simp [name, names]

theorem key_mem_keys {p : Named} {entry : String × Float} (member : entry ∈ p.parameters) :
    entry.1 ∈ keys := by
  have inKeys : p.parameters.all fun entry => keys.contains entry.1 := by
    cases p <;> rfl
  exact List.contains_iff_mem.mp (List.all_eq_true.mp inKeys entry member)

/-- What the tokens of a named projection are. -/
theorem mem_tokens {p : Named} {token : String} (member : token ∈ p.tokens) :
    token = "+proj=" ++ p.name ∨ token = "+units=m" ∨
      (∃ entry ∈ p.parameters, token = parameterToken entry) ∨
      ∃ zone north, p = .utm zone north ∧
        (token = "+zone=" ++ intText zone ∨ token = "+south" ∧ north = false) := by
  cases p with
  | geographic => exact .inl (List.mem_singleton.mp member)
  | utm zone north =>
    rcases List.mem_cons.mp member with first | member
    · exact .inl first
    · rcases List.mem_append.mp member with zoned | units
      · refine .inr (.inr (.inr ⟨zone, north, rfl, ?_⟩))
        rcases List.mem_cons.mp zoned with zoned | southern
        · exact .inl zoned
        · cases north with
          | true => contradiction
          | false => exact .inr ⟨List.mem_singleton.mp southern, rfl⟩
      · exact .inr (.inl (List.mem_singleton.mp units))
  | _ =>
    rcases List.mem_cons.mp member with first | member
    · exact .inl first
    · rcases List.mem_append.mp member with parameter | units
      · obtain ⟨entry, found, rfl⟩ := List.mem_map.mp parameter
        exact .inr (.inr (.inl ⟨entry, found, rfl⟩))
      · exact .inr (.inl (List.mem_singleton.mp units))

theorem isToken_of_mem_tokens {p : Named} {token : String} (member : token ∈ p.tokens) :
    IsToken token := by
  have byName : ∀ name ∈ names, IsToken ("+proj=" ++ name) := by
    decide
  have byKey : ∀ key ∈ keys, IsToken ("+" ++ key ++ "=") := by
    decide
  rcases mem_tokens member with rfl | rfl | ⟨entry, found, rfl⟩ | ⟨zone, north, rfl, rfl | ⟨rfl, _⟩⟩
  · exact byName p.name p.name_mem_names
  · decide
  · exact isToken_append (byKey entry.1 (key_mem_keys found)) isNumeric_of_mem_numberText
  · exact isToken_append (by decide) fun _ => Decimal.isNumeric_of_mem_intText
  · decide

/-- The tokens of a named projection can be read off its string again. -/
theorem tokenize_string (p : Named) : tokenize p.string = p.tokens :=
  tokenize_ofTokens fun _ => isToken_of_mem_tokens

/-- All tokens of a named projection give a key a value, but that of the southern hemisphere. -/
theorem equals_mem_of_mem_tokens {p : Named} {token : String} (member : token ∈ p.tokens)
    (other : token ≠ "+south") : '=' ∈ token.toList := by
  rcases mem_tokens member with rfl | rfl | ⟨entry, _, rfl⟩ | ⟨zone, north, _, rfl | ⟨south, _⟩⟩
  · simp
  · decide
  · simp [parameterToken]
  · simp
  · exact absurd south other

/-- Named projections are written without `+over`. -/
theorem tokensButOver_string (p : Named) : tokensButOver p.string = p.tokens := by
  rw [tokensButOver, p.tokenize_string]
  refine List.filter_eq_self.mpr fun token member => ?_
  rw [decide_eq_true_eq]
  rintro rfl
  exact absurd (equals_mem_of_mem_tokens member (by decide)) (by decide)

theorem exists_tokens_eq (p : Named) : ∃ rest, p.tokens = ("+proj=" ++ p.name) :: rest := by
  cases p <;> exact ⟨_, rfl⟩

/-- The first token of a named projection gives its name. -/
theorem projectionName_of_tokens {p : Named} {s : String} {rest : List String}
    (tokens : tokenize s = p.tokens ++ rest) : projectionName s = some p.name := by
  obtain ⟨others, first⟩ := p.exists_tokens_eq
  rw [first] at tokens
  have starts : ("+proj=" ++ p.name).toList = keyStart "proj" ++ p.name.toList := by
    rw [String.toList_append]
    rfl
  exact findValue_of_tokens (tokens.trans (List.nil_append _).symm) (by simp) starts

end Named

end GeoRaster.Projection
