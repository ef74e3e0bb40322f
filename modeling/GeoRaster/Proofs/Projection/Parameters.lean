import GeoRaster.Proofs.Decimal.Layout
import GeoRaster.Proofs.Lawful
import GeoRaster.Proofs.Projection.Named
import GeoRaster.Proofs.Projection.Setup

/-! Parameters of named projections, read off their strings. In a string that starts with the tokens of a
named projection every key of it has the value that it was written with, whatever follows: the keys
are apart, and the first token of a key counts. So an engine's string and its overall string give the
parameters back. -/
namespace GeoRaster.Projection

open Decimal (ReadsBack intText)

/-! ### Keys apart -/

/-- Texts that start with different keys differ before the values. -/
theorem after?_of_ne {key key' rest : List Char} (plain : '=' ∉ key) (plain' : '=' ∉ key')
    (other : key ≠ key') : after? (key ++ ['=']) (key' ++ '=' :: rest) = none := by
  cases found : after? (key ++ ['=']) (key' ++ '=' :: rest) with
  | none => rfl
  | some value =>
    have same := congrArg (List.takeWhile (· ≠ '=')) (append_of_after? found)
    have start {k r : List Char} (plain : '=' ∉ k) : (k ++ '=' :: r).takeWhile (· ≠ '=') = k := by
      have inside : ∀ c ∈ k, decide (c ≠ '=') = true := by
        intro c member
        exact decide_eq_true (ne_of_mem_of_not_mem member plain)
      rw [List.takeWhile_append_of_pos inside]
      simp
    rw [List.append_assoc, List.singleton_append, start plain, start plain'] at same
    exact absurd same other

/-- What follows a string does not change the values that it gives. -/
theorem findValue_of_append {s t key value : String} {rest : List String}
    (tokens : tokenize s = tokenize t ++ rest) (found : findValue t key = some value) :
    findValue s key = some value := by
  unfold findValue at found ⊢
  rw [tokens, List.findSome?_append, found, Option.some_or]

namespace Named

variable {p : Named} {s : String} {rest : List String} {zone : Int} {north : Bool}

/-! ### Values of a named projection -/

theorem keys_nodup (p : Named) : (p.parameters.map Prod.fst).Nodup := by
  have apart : ∀ taken ∈ [[], ["lon_0", "lat_0", "lat_ts", "x_0", "y_0"], ["lon_0", "x_0", "y_0"],
      ["lon_0", "lat_0", "k", "x_0", "y_0"], ["lon_0", "lat_0", "x_0", "y_0"],
      ["lat_1", "lat_2", "lon_0", "lat_0", "x_0", "y_0"]], List.Nodup taken := by
    decide
  refine apart _ ?_
  cases p <;> simp [parameters, Center.entries, FalseOrigin.entries]

theorem tokens_of_parameter {entry : String × Float} (member : entry ∈ p.parameters) :
    p.tokens = ("+proj=" ++ p.name) :: p.parameters.map parameterToken ++ ["+units=m"] := by
  cases p with
  | geographic | utm => exact absurd member List.not_mem_nil
  | _ => rfl

/-- The token of one key gives no other key a value. -/
theorem after?_of_key {key key' : String} (known : key ∈ "proj" :: keys) (known' : key' ∈ "proj" :: keys)
    (other : key ≠ key') (value : String) :
    after? (keyStart key) ("+" ++ key' ++ "=" ++ value).toList = none := by
  have start : ∀ key ∈ "proj" :: keys, keyStart key = '+' :: key.toList ++ ['='] := by decide
  have plain : ∀ key ∈ "proj" :: keys, '=' ∉ '+' :: key.toList := by decide
  have written : ("+" ++ key' ++ "=" ++ value).toList = ('+' :: key'.toList) ++ '=' :: value.toList := by
    simp
  rw [start key known, written]
  refine after?_of_ne (plain key known) (plain key' known') ?_
  exact fun same => other (String.toList_inj.mp (List.cons.inj same).2)

/-- The value of a parameter is its number, as it is written. -/
theorem findValue_parameter (tokens : tokenize s = p.tokens ++ rest) {entry : String × Float}
    (member : entry ∈ p.parameters) : findValue s entry.1 = some (numberText entry.2) := by
  obtain ⟨before, after, parts⟩ := List.mem_iff_append.mp member
  have known {entry : String × Float} (member : entry ∈ p.parameters) : entry.1 ∈ "proj" :: keys :=
    List.mem_cons_of_mem _ (key_mem_keys member)
  have apart := keys_nodup p
  rw [parts, List.map_append, List.map_cons] at apart
  have fresh : entry.1 ∉ before.map Prod.fst := fun taken =>
    (List.nodup_append.mp apart).2.2 _ taken _ List.mem_cons_self rfl
  have split : p.tokens ++ rest = (("+proj=" ++ p.name) :: before.map parameterToken) ++
      parameterToken entry :: (after.map parameterToken ++ ["+units=m"] ++ rest) := by
    rw [tokens_of_parameter member, parts]
    simp
  refine findValue_of_tokens (tokens.trans split) ?_ ?_
  · intro t among
    rcases List.mem_cons.mp among with rfl | among
    · have name : ("+proj=" : String) = "+" ++ "proj" ++ "=" := by decide
      rw [name]
      refine after?_of_key (known member) List.mem_cons_self ?_ p.name
      exact ne_of_mem_of_not_mem (key_mem_keys member) (by decide)
    · obtain ⟨entry', earlier, rfl⟩ := List.mem_map.mp among
      refine after?_of_key (known member) (known (parts ▸ List.mem_append_left _ earlier)) ?_ _
      exact fun same => fresh (List.mem_map.mpr ⟨entry', earlier, same.symm⟩)
  · have start : ∀ key ∈ keys, ("+" ++ key ++ "=").toList = keyStart key := by decide
    rw [parameterToken, String.toList_append, start entry.1 (key_mem_keys member)]

theorem findValue_zone (tokens : tokenize s = (utm zone north).tokens ++ rest) :
    findValue s "zone" = some (intText zone) := by
  have others : ∀ t ∈ ["+proj=utm"], after? (keyStart "zone") t.toList = none := by decide
  refine findValue_of_tokens tokens others ?_
  rw [String.toList_append]
  rfl

/-- A parameter reads back as it was written, as an integer or with a point. -/
theorem readsBack_numberText {x : Float} (finite : x.isFinite = true) : ReadsBack (numberText x) x := by
  unfold numberText
  split
  · exact Decimal.readsBack_of_isWhole ‹_›
  · exact Decimal.readsBack_floatText finite

/-- The tokens of a zone hold that of the southern hemisphere or do not. -/
theorem hasToken_south (tokens : tokenize s = (utm zone north).tokens ++ rest) :
    hasToken s "+south" = (!north || rest.contains "+south") := by
  have zoned : "+south" ≠ "+zone=" ++ intText zone := by
    intro same
    have marked : '=' ∈ ("+south" : String).toList := same ▸ by simp
    exact absurd marked (by decide)
  rw [hasToken, tokens]
  cases north <;> simp [Named.tokens, name, zoned]

end Named

/-! ### Strings that start with a named projection -/

/-- What is read off a string for a named projection: its name, its parameters, and in general every value
of its own string. -/
structure GivesBack (p : Named) (s : String) : Prop where
  name : projectionName s = some p.name
  parameters : ∀ entry ∈ p.parameters,
    ∃ y : Float, extractValue s entry.1 = some y ∧ (y == entry.2) = true
  unshadowed : ∀ key value, findValue p.string key = some value → findValue s key = some value

theorem extractValue_of_readsBack {s key text : String} {x : Float} (found : findValue s key = some text)
    (reads : ReadsBack text x) : ∃ y : Float, extractValue s key = some y ∧ (y == x) = true := by
  obtain ⟨y, read, same⟩ := reads
  exact ⟨y, by rw [extractValue, found, Option.bind_some, read], same⟩

variable {p : Named} {s : String} {rest : List String}

theorem givesBack_of_tokens (tokens : tokenize s = p.tokens ++ rest)
    (finite : ∀ entry ∈ p.parameters, entry.2.isFinite = true) : GivesBack p s where
  name := Named.projectionName_of_tokens tokens
  parameters entry member := extractValue_of_readsBack (Named.findValue_parameter tokens member)
    (Named.readsBack_numberText (finite entry member))
  unshadowed _ _ := findValue_of_append (by rw [tokens, p.tokenize_string])

/-! ### Engines -/

/-- Engines for a named projection and a datum: as they are set up, and after `+over` has been taken
away. -/
inductive SetUpFor {α : Type} (p : Named) (datum : Datum) : Engine α → Prop where
  | made {provider : Provider α} {e : Engine α} (made : (Engine.make provider p.string datum).result = .ok e) :
      SetUpFor p datum e
  | cleared {e f : Engine α} {changed : Bool} (setUp : SetUpFor p datum e)
      (cleared : e.clearOver.result = .ok (f, changed)) : SetUpFor p datum f

theorem clearOver_keeps {α : Type} {e f : Engine α} {changed : Bool}
    (cleared : e.clearOver.result = .ok (f, changed)) :
    f.projection = removeToken e.projection overToken ∧ f.datum = e.datum := by
  unfold Engine.clearOver at cleared
  dsimp only at cleared
  split at cleared
  · rename_i same
    obtain ⟨rfl, _⟩ := Prod.mk.inj (Except.ok.inj cleared)
    exact ⟨same.symm, rfl⟩
  · obtain ⟨f', installed, rest⟩ := Logged.result_bind_eq_ok.mp cleared
    obtain ⟨_, _, rest⟩ := Logged.result_bind_eq_ok.mp rest
    obtain ⟨rfl, _⟩ := Prod.mk.inj (Except.ok.inj rest)
    obtain ⟨_, _, rfl⟩ := Engine.install_ok_iff.mp installed
    exact ⟨rfl, rfl⟩

theorem exists_prepared (p : Named) : ∃ q, Engine.prepared p.string = .ok q := by
  rw [Engine.exists_prepared_iff, Named.projectionName_of_tokens (p.tokenize_string.trans (List.append_nil _).symm)]
  rfl

/-- An engine's string is that of the named projection, with `+over` behind it or without. -/
theorem SetUpFor.tokens {α : Type} {datum : Datum} {e : Engine α} (setUp : SetUpFor p datum e) :
    e.datum = datum ∧ ∃ behind, tokenize e.projection = p.tokens ++ behind ∧ ∀ token ∈ behind, token = overToken := by
  induction setUp with
  | made made =>
    obtain ⟨q, prepared, session, configured, rfl⟩ := Engine.make_ok_iff.mp made
    refine ⟨rfl, ?_⟩
    have named := Engine.named_of_prepared prepared
    cases complete : hasToken p.string overToken || isUTM p.string with
    | true =>
      rw [Engine.prepared_of_complete named complete, Except.ok.injEq] at prepared
      refine ⟨[], ?_, by simp⟩
      rw [← prepared, tokenize_trimmed, p.tokenize_string, List.append_nil]
    | false =>
      rw [Engine.prepared_of_incomplete named complete, Except.ok.injEq] at prepared
      refine ⟨[overToken], ?_, by simp⟩
      rw [← prepared, tokenize_appendToken _ overToken_isToken, tokenize_trimmed, p.tokenize_string]
  | cleared _ cleared ih =>
    obtain ⟨same, behind, tokens, onlyOver⟩ := ih
    obtain ⟨projection, datum⟩ := clearOver_keeps cleared
    refine ⟨datum.trans same, [], ?_, by simp⟩
    have none : behind.filter (· ≠ overToken) = [] := by
      simpa using onlyOver
    have all := p.tokensButOver_string
    rw [tokensButOver, p.tokenize_string] at all
    rw [projection, tokenize_removeToken, tokens, List.filter_append, none, all]

theorem tokenize_overallString (s : String) (datum : Datum) :
    tokenize (overallString s datum) = tokenize s ++ (tokenize datum.tokens ++ ["+no_defs"]) := by
  have last : tokenize "+no_defs" = ["+no_defs"] := by decide
  simp only [overallString, tokenize_joinStrings, List.flatMap_cons, List.flatMap_nil, last, List.append_nil]

/-- The three strings in which a named projection is found all start with its tokens. -/
theorem SetUpFor.strings {α : Type} {datum : Datum} {e : Engine α} (setUp : SetUpFor p datum e) :
    ∀ s ∈ [p.string, e.projection, e.overall], ∃ rest, tokenize s = p.tokens ++ rest := by
  obtain ⟨rfl, behind, tokens, _⟩ := setUp.tokens
  simp only [List.forall_mem_cons, List.not_mem_nil, false_imp_iff, implies_true, and_true]
  refine ⟨⟨[], ?_⟩, ⟨behind, tokens⟩, behind ++ (tokenize e.datum.tokens ++ ["+no_defs"]), ?_⟩
  · rw [p.tokenize_string, List.append_nil]
  · rw [Engine.overall, tokenize_overallString, tokens, List.append_assoc]

/-- A finite double can be truncated to a zone, and the integer it is truncated to is a double. -/
theorem exists_zone {zone : Float} (finite : zone.isFinite = true) :
    ∃ n, Box.wholePart zone = .ok n ∧ Double.Fits n.natAbs := by
  have parts : ∃ n, Scalar.truncate? zone = .ok n ∧ Double.Fits n.natAbs := by
    unfold Scalar.truncate?
    split
    · refine ⟨_, Double.ceil?_of_isFinite finite, ?_⟩
      rw [Int.natAbs_neg]
      exact Double.fits_floorInt (Double.isFinite_neg finite)
    · exact ⟨_, Double.floor?_of_isFinite finite, Double.fits_floorInt finite⟩
  obtain ⟨n, truncated, fits⟩ := parts
  exact ⟨n, congrArg (·.mapError Box.wholeFault) truncated, fits⟩

theorem extractValue_zone {n : Int} {north : Bool} (fits : Double.Fits n.natAbs)
    (tokens : tokenize s = (Named.utm n north).tokens ++ rest) :
    ∃ y : Float, extractValue s "zone" = some y ∧ Scalar.floor? y = .ok n ∧ (Scalar.ofInt n == y) = true := by
  refine ⟨Scalar.ofInt n, ?_, (Double.isInteger_of_fits fits).floor, ?_⟩
  · rw [extractValue, Named.findValue_zone tokens, Option.bind_some]
    exact Decimal.reads_intText fits
  · have number : (Scalar.ofInt n : Float) ≤ Scalar.ofInt n :=
      Scalar.Lawful.le_refl_of_isFinite (Double.ofInt_spec fits).1
    exact Scalar.Lawful.beq_iff.mpr ⟨number, number⟩

/-- The parameters of a named projection can be read off its string, an engine's string and the overall
string, and so can its name and, of a zone, the number and the hemisphere, if the datum says nothing of
hemispheres. -/
theorem parameters_survive :
    (∀ p : Named, (∀ entry ∈ p.parameters, entry.2.isFinite = true) →
      (∃ q, Engine.prepared p.string = .ok q) ∧
        ∀ {α : Type} (datum : Datum) (e : Engine α), SetUpFor p datum e →
          ∀ s ∈ [p.string, e.projection, e.overall], GivesBack p s) ∧
    ∀ (zone : Float) (north : Bool), zone.isFinite = true →
      ∃ n, Box.wholePart zone = .ok n ∧ Named.ofZone zone north = .ok (.utm n north) ∧
        ∀ {α : Type} (datum : Datum) (e : Engine α), SetUpFor (.utm n north) datum e →
          (∀ s ∈ [(Named.utm n north).string, e.projection, e.overall],
            ∃ y : Float, extractValue s "zone" = some y ∧ Scalar.floor? y = .ok n ∧ (Scalar.ofInt n == y) = true) ∧
          hasToken (Named.utm n north).string "+south" = !north ∧ hasToken e.projection "+south" = !north ∧
          hasToken e.overall "+south" = (!north || hasToken datum.tokens "+south") := by
  refine ⟨?_, ?_⟩
  · intro p finite
    refine ⟨exists_prepared p, ?_⟩
    intro α datum e setUp s member
    obtain ⟨rest, tokens⟩ := setUp.strings s member
    exact givesBack_of_tokens tokens finite
  · intro zone north finite
    obtain ⟨n, truncated, fits⟩ := exists_zone finite
    refine ⟨n, truncated, congrArg (·.map fun n => Named.utm n north) truncated, ?_⟩
    intro α datum e setUp
    obtain ⟨rfl, behind, tokens, onlyOver⟩ := setUp.tokens
    have northern : "+south" ∉ behind := fun member => absurd (onlyOver _ member) (by decide)
    have overall := tokenize_overallString e.projection e.datum
    rw [tokens, List.append_assoc] at overall
    refine ⟨?_, ?_, ?_, ?_⟩
    · intro s member
      obtain ⟨rest, tokens⟩ := setUp.strings s member
      exact extractValue_zone fits tokens
    · rw [Named.hasToken_south ((Named.tokenize_string _).trans (List.append_nil _).symm)]
      simp
    · rw [Named.hasToken_south tokens]
      simp [northern]
    · rw [Engine.overall, Named.hasToken_south overall]
      simp [northern, hasToken]

/-- A datum may bring the token of the southern hemisphere along, and then it stands in the overall string
of a northern zone. -/
theorem south_of_datum : ∃ datum : Datum,
    Datum.make ⟨"Southern", "WGS 84", "Greenwich", .real 6378137.0, .real 6356752.3, .real 0.0,
      some "+ellps=WGS84 +south"⟩ = .ok datum ∧
    ¬ (hasToken (overallString (Named.utm 11 true).string datum) "+south" = true ↔ true = false) := by
  obtain ⟨datum, made, marked⟩ := exists_of_toOption_any (p := fun datum =>
    hasToken (overallString (Named.utm 11 true).string datum) "+south")
    (show (Datum.make ⟨"Southern", "WGS 84", "Greenwich", .real 6378137.0, .real 6356752.3, .real 0.0,
      some "+ellps=WGS84 +south"⟩).toOption.any _ = true by decide +kernel)
  exact ⟨datum, made, fun northern => Bool.noConfusion (northern.mp marked)⟩

/-- A Mercator projection with fractional parameters and a negative zero, and a zone that is truncated. -/
theorem parameters_survive_of_mercator :
    (∃ e : Engine Float, SetUpFor (.transverseMercator ⟨-33.25, 0.1⟩ 0.9996 ⟨500000.0, -0.0⟩)
        WellKnownDatum.mars.datum e ∧
      ∀ s ∈ [e.projection, e.overall], GivesBack (.transverseMercator ⟨-33.25, 0.1⟩ 0.9996 ⟨500000.0, -0.0⟩) s) ∧
    ∃ n, Named.ofZone 11.75 true = .ok (.utm n true) ∧ ∃ e : Engine Float,
      SetUpFor (.utm n true) WellKnownDatum.wgs1984.datum e ∧
        (∃ y : Float, extractValue e.overall "zone" = some y ∧ Scalar.floor? y = .ok n) ∧
        hasToken e.overall "+south" = false := by
  obtain ⟨parameters, zones⟩ := parameters_survive
  let provider : Provider Float := ⟨fun configuration => pure ⟨configuration, ⟨.ok, .ok⟩⟩⟩
  have engine (p : Named) (datum : Datum) : ∃ e : Engine Float, SetUpFor p datum e := by
    obtain ⟨q, prepared⟩ := exists_prepared p
    exact ⟨_, .made (Engine.make_ok_iff.mpr ⟨q, prepared, ⟨_, ⟨.ok, .ok⟩⟩, (rfl : (provider.configure _).result = _), rfl⟩)⟩
  refine ⟨?_, ?_⟩
  · obtain ⟨e, setUp⟩ := engine (.transverseMercator ⟨-33.25, 0.1⟩ 0.9996 ⟨500000.0, -0.0⟩)
      WellKnownDatum.mars.datum
    have finite : ∀ entry ∈ (Named.transverseMercator ⟨-33.25, 0.1⟩ 0.9996 ⟨500000.0, -0.0⟩).parameters,
        entry.2.isFinite = true := by
      decide +kernel
    exact ⟨e, setUp, fun s member => (parameters _ finite).2 _ e setUp s (List.mem_cons_of_mem _ member)⟩
  · obtain ⟨n, _, zone, strings⟩ := zones 11.75 true (by decide +kernel)
    obtain ⟨e, setUp⟩ := engine (.utm n true) WellKnownDatum.wgs1984.datum
    obtain ⟨numbers, _, _, south⟩ := strings _ e setUp
    obtain ⟨y, read, floor, _⟩ := numbers e.overall (by simp)
    have northern : hasToken WellKnownDatum.wgs1984.datum.tokens "+south" = false := by decide
    exact ⟨n, zone, e, setUp, ⟨y, read, floor⟩, south.trans (by rw [northern]; rfl)⟩

end GeoRaster.Projection
