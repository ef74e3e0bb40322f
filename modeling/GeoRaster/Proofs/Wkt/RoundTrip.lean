import GeoRaster.Proofs.Wkt.Sorting

/-! Export and import. The string that is exported is made of the tokens of the projection, those of the
datum and options; what comes back is sorted token by token. With a catalogue that keeps the string
and knows the datum, a named projection comes back as it was written, `+over` apart, and so do the
tokens of a datum that has its own; those of a sphere are derived from its axes. -/
namespace GeoRaster.Wkt

open Projection
open Decimal (intText)

/-- Datums with positive axes whose tokens are told apart from all others: spheres, which are exported with
tokens of their axes, and those with tokens that name an ellipsoid or a datum and no other ones. -/
structure Tellable (datum : Datum) : Prop where
  major : 0.0 < datum.semiMajorAxis
  minor : 0.0 < datum.semiMinorAxis
  tokens : datum.isSphere = false →
    tokenize datum.tokens ≠ [] ∧ ∀ token ∈ tokenize datum.tokens, startsWithAny datumStarts token = true

/-- The zone of the universal transverse Mercator system that a projection string denotes: its number as
it is written there, and a letter for the hemisphere. -/
def zoneOf (projection : String) : Option String :=
  if isUTM projection then
    some ((findValue projection "zone").getD "" ++ if hasToken projection "+south" then "S" else "N")
  else none

/-- What a catalogue knows of a datum and a projection string, if nothing is lost. -/
structure ReferenceSystem.Recalls (crs : ReferenceSystem) (datum : Datum) (string : String) : Prop where
  projection : crs.projection = some string
  ellipsoid : crs.ellipsoid =
    some ⟨datum.spheroidName, .real datum.semiMajorAxis, .real datum.semiMinorAxis⟩
  datumName : crs.datumName = some datum.name
  meridian : crs.meridian = some ⟨datum.meridianName, .real datum.meridianOffset⟩
  utmZone : crs.utmZone = zoneOf string

/-- A catalogue that writes a text for a string, and recalls the string and a datum from that text. -/
def Catalogue.Keeps (catalogue : Catalogue) (datum : Datum) (string : String) : Prop :=
  ∃ text crs, catalogue.write string = .ok text ∧ catalogue.read text = .ok crs ∧
    crs.Recalls datum string

/-- A catalogue for one datum, whose texts are the strings themselves. -/
def Catalogue.verbatim (datum : Datum) : Catalogue where
  read text := .ok {
    projection := some text
    ellipsoid := some ⟨datum.spheroidName, .real datum.semiMajorAxis, .real datum.semiMinorAxis⟩
    datumName := some datum.name
    meridian := some ⟨datum.meridianName, .real datum.meridianOffset⟩
    utmZone := zoneOf text }
  write string := .ok string

theorem Catalogue.keeps_verbatim (datum : Datum) (string : String) :
    (verbatim datum).Keeps datum string :=
  ⟨string, _, rfl, rfl, rfl, rfl, rfl, rfl, rfl⟩

variable {p : Named} {projection : String} {datum : Datum}

/-! ### What is exported -/

/-- The tokens that a datum is exported with are not taken for those of a projection, and those that are
sorted out for the datum are its own. -/
theorem exportedTokens_sorted (tellable : Tellable datum) :
    (∀ token ∈ tokenize (exportedTokens datum), isProjectionToken token = false ∧ token ≠ "+south") ∧
      (tokenize (exportedTokens datum)).filter isDatumToken =
        if datum.isSphere then [] else tokenize datum.tokens := by
  cases sphere : datum.isSphere with
  | true =>
    rw [exportedTokens, if_pos sphere, tokenize_axisTokens]
    refine ⟨fun token member => ?_, List.filter_eq_nil_iff.mpr fun token member => ?_⟩
    · have unsorted := unsorted_of_mem_axes member
      exact ⟨unsorted.1, unsorted.2.2⟩
    · simp [(unsorted_of_mem_axes member).2.1]
  | false =>
    have plain : exportedTokens datum = datum.tokens := by
      rw [exportedTokens, sphere]
      rfl
    obtain ⟨_, starts⟩ := tellable.tokens sphere
    rw [plain]
    refine ⟨fun token member => ?_, List.filter_eq_self.mpr fun token member => ?_⟩
    · have sorted := sorted_of_datumStarts (starts token member)
      exact ⟨sorted.1, sorted.2.2⟩
    · exact (sorted_of_datumStarts (starts token member)).2.1

theorem tokenize_exportedString (datum : Datum)
    (spelled : tokensButOver projection = tokensButOver p.string) :
    tokenize (exportedString datum projection) =
      p.tokens ++ (tokenize (exportedTokens datum) ++ ["+no_defs", "+type=crs"]) := by
  have options : tokenize "+no_defs +type=crs" = ["+no_defs", "+type=crs"] := by
    decide
  have stripped : tokenize (removeToken projection overToken) = p.tokens := by
    rw [tokenize_removeToken, ← Named.tokensButOver_string p, ← spelled]
    rfl
  rw [exportedString, tokenize_joinStrings]
  simp only [List.flatMap_cons, List.flatMap_nil, stripped, options, List.append_nil]

/-- The tokens that come back for the projection are those of the named one, and those that come back for the
datum its own. -/
theorem exportedString_sorted (spelled : tokensButOver projection = tokensButOver p.string)
    (tellable : Tellable datum) :
    (tokenize (exportedString datum projection)).filter isProjectionToken =
        p.tokens.filter isProjectionToken ∧
      (tokenize (exportedString datum projection)).filter isDatumToken =
        if datum.isSphere then [] else tokenize datum.tokens := by
  obtain ⟨notProjection, own⟩ := exportedTokens_sorted tellable
  have none : (tokenize (exportedTokens datum)).filter isProjectionToken = [] :=
    List.filter_eq_nil_iff.mpr fun token member => by simp [(notProjection token member).1]
  have none' : p.tokens.filter isDatumToken = [] :=
    List.filter_eq_nil_iff.mpr fun token member => by simp [isDatumToken_of_mem_tokens member]
  have options : ["+no_defs", "+type=crs"].filter isProjectionToken = [] ∧
      ["+no_defs", "+type=crs"].filter isDatumToken = [] := by
    decide
  rw [tokenize_exportedString datum spelled]
  simp only [List.filter_append, none, none', own, options.1, options.2, List.append_nil, List.nil_append,
    and_self]

/-! ### Zones -/

theorem zoneOf_of_ne_utm (spelled : tokensButOver projection = tokensButOver p.string)
    (notZone : p.name ≠ "utm") : zoneOf (exportedString datum projection) = none := by
  have name := Named.projectionName_of_tokens (tokenize_exportedString datum spelled)
  simp [zoneOf, isUTM, name, notZone]

/-- The southern hemisphere is marked among the exported tokens, and nothing else is marked so. -/
theorem hasToken_south {zone : Int} {north : Bool}
    (spelled : tokensButOver projection = tokensButOver (Named.utm zone north).string)
    (tellable : Tellable datum) : hasToken (exportedString datum projection) "+south" = !north := by
  have tokens := tokenize_exportedString datum spelled
  cases north with
  | false =>
    rw [Bool.not_false, hasToken_iff, tokens]
    exact List.mem_append_left _ (by simp [Named.tokens])
  | true =>
    rw [Bool.not_true, hasToken_eq_false_iff, tokens]
    intro member
    rcases List.mem_append.mp member with named | member
    · rcases starts_of_mem_tokens named with starts | ⟨_, _, southern⟩
      · exact absurd starts (by decide)
      · simp at southern
    · rcases List.mem_append.mp member with own | option
      · exact ((exportedTokens_sorted tellable).1 _ own).2 rfl
      · exact absurd option (by decide)

/-- The zone is read off the exported string as it was written. -/
theorem zoneOf_utm {zone : Int} {north : Bool}
    (spelled : tokensButOver projection = tokensButOver (Named.utm zone north).string)
    (tellable : Tellable datum) :
    zoneOf (exportedString datum projection) = some (intText zone ++ if north then "N" else "S") := by
  have tokens := tokenize_exportedString datum spelled
  have name := Named.projectionName_of_tokens tokens
  have number : findValue (exportedString datum projection) "zone" = some (intText zone) := by
    have second : ∃ rest, tokenize (exportedString datum projection) =
        ["+proj=utm"] ++ ("+zone=" ++ intText zone) :: rest := ⟨_, tokens⟩
    have starts : ("+zone=" ++ intText zone).toList = keyStart "zone" ++ (intText zone).toList := by
      rw [String.toList_append]
      rfl
    obtain ⟨rest, second⟩ := second
    exact findValue_of_tokens second (by decide) starts
  have utm : isUTM (exportedString datum projection) = true := by
    rw [isUTM, name]
    rfl
  rw [zoneOf, if_pos utm, number, hasToken_south spelled tellable]
  cases north <;> rfl

/-- A zone comes back from its number and its letter. -/
theorem ofZone_intText (zone : Int) (north : Bool) :
    ofZone (intText zone ++ if north then "N" else "S") = .ok (.utm zone north) := by
  have letter : (if north then "N" else "S").toList = [if north then 'N' else 'S'] := by
    cases north <;> rfl
  have trims : Text.trim (intText zone).toList = (intText zone).toList :=
    Text.trim_of_word (Decimal.intText_ne_nil zone) fun c member =>
      Decimal.isBlank_of_isNumeric (Decimal.isNumeric_of_mem_intText member)
  unfold ofZone
  dsimp only
  rw [String.toList_append, letter, List.dropLast_concat, trims, Decimal.readInteger?_intText,
    List.getLast?_concat]
  cases north <;> rfl

/-! ### What comes back -/

/-- The tokens of a named projection are joined to its string again. -/
theorem plain_tokens (p : Named) : projectionOf.plain p.tokens = p.string := by
  have joined : ofTokens p.tokens = p.string := rfl
  have name := Named.projectionName_of_tokens (p.tokenize_string.trans (List.append_nil _).symm)
  have geographic : isGeographic p.string = true → p = .geographic := by
    rw [isGeographic, name]
    cases p <;> simp [Named.name, geographicNames]
  obtain ⟨rest, first⟩ := p.exists_tokens_eq
  have full : p.tokens ≠ [] := by
    rw [first]
    exact List.cons_ne_nil _ _
  rw [projectionOf.plain, joined]
  split
  · rename_i standsForItself
    rw [decide_eq_false full, Bool.false_or] at standsForItself
    rw [geographic standsForItself]
  · rfl

theorem projectionOf_exported (scaled : ∀ k, ("k", k) ∈ p.parameters → (k == 0.0) = false)
    (spelled : tokensButOver projection = tokensButOver p.string) (tellable : Tellable datum)
    {crs : ReferenceSystem} (zone : crs.utmZone = zoneOf (exportedString datum projection)) :
    projectionOf crs (p.tokens.filter isProjectionToken) = .ok p.string := by
  by_cases isZone : ∃ number north, p = .utm number north
  · obtain ⟨number, north, rfl⟩ := isZone
    rw [zoneOf_utm spelled tellable] at zone
    have written : (intText number ++ if north then "N" else "S") ≠ "" := by
      intro empty
      have nothing := congrArg String.toList empty
      rw [String.toList_append] at nothing
      exact Decimal.intText_ne_nil number (List.append_eq_nil_iff.mp nothing).1
    simp only [projectionOf, zone, if_neg written, ofZone_intText, Except.map]
  · rw [not_exists] at isZone
    have notZone : p.name ≠ "utm" := by
      intro name
      cases p <;> simp [Named.name] at name isZone
    rw [zoneOf_of_ne_utm spelled notZone] at zone
    have kept := filter_isProjectionToken scaled fun number same => isZone number ⟨false, same⟩
    simp only [projectionOf, zone, kept, plain_tokens]

theorem datumOf_exported (tellable : Tellable datum) {crs : ReferenceSystem} {string : String}
    (recalls : crs.Recalls datum string) :
    datumOf crs (if datum.isSphere then [] else tokenize datum.tokens) =
      .ok { datum with
        tokens := if datum.isSphere then Datum.axisTokens datum.semiMajorAxis datum.semiMinorAxis
          else ofTokens (tokenize datum.tokens) } := by
  have major : Decimal.Given.isPositive (.real datum.semiMajorAxis) = true := decide_eq_true tellable.major
  have minor : Decimal.Given.isPositive (.real datum.semiMinorAxis) = true := decide_eq_true tellable.minor
  have made : ∀ tokens : Option String, Datum.make ⟨datum.name, datum.spheroidName, datum.meridianName,
      .real datum.semiMajorAxis, .real datum.semiMinorAxis, .real datum.meridianOffset, tokens⟩ =
        .ok { datum with
          tokens :=
            Text.trimmed (tokens.getD (Datum.axisTokens datum.semiMajorAxis datum.semiMinorAxis)) } := by
    intro tokens
    simp only [Datum.make, major, minor]
    rfl
  simp only [datumOf, recalls.ellipsoid, recalls.datumName, recalls.meridian, Option.map_some,
    Option.getD_some, made]
  cases sphere : datum.isSphere with
  | true =>
    simp only [if_true, Option.getD_none, axisTokens_eq, trimmed_ofTokens isToken_of_mem_axes]
  | false =>
    have own := trimmed_ofTokens fun t (member : t ∈ tokenize datum.tokens) => isToken_of_mem_tokenize member
    simp only [Bool.false_eq_true, if_false, if_neg (tellable.tokens sphere).1, Option.getD_some, own]

/-- Export and import of a named projection, whatever its parameters but a scale of zero, with `+over` added
anywhere or not, and of a datum with tokens of its own or none. What a catalogue keeps of the exported
string is imported as the string of the projection and as the datum; a datum that is a sphere has
the tokens of its axes then, and any other one its own tokens in their order. -/
theorem importText_exportText {catalogue : Catalogue}
    (scaled : ∀ k, ("k", k) ∈ p.parameters → (k == 0.0) = false)
    (spelled : tokensButOver projection = tokensButOver p.string) (tellable : Tellable datum)
    (keeps : catalogue.Keeps datum (exportedString datum projection)) :
    ∃ text, exportText catalogue datum projection = .ok text ∧
      (importText catalogue text).result =
        .ok ({ datum with
          tokens := if datum.isSphere then Datum.axisTokens datum.semiMajorAxis datum.semiMinorAxis
            else ofTokens (tokenize datum.tokens) }, p.string) := by
  obtain ⟨text, crs, written, read, recalls⟩ := keeps
  refine ⟨text, ?_, ?_⟩
  · rw [exportText, written]
    rfl
  · obtain ⟨projectionTokens, datumTokens⟩ := exportedString_sorted spelled tellable
    have string := projectionOf_exported scaled spelled tellable recalls.utmZone
    have datum := datumOf_exported tellable recalls
    have understood : (catalogue.read text).mapError Fault.invalidWkt = .ok crs := by
      rw [read]
      rfl
    simp only [importText, understood, Logged.result_bind, Logged.result_ofExcept, Except.bind,
      recalls.projection, result_splitTokens, projectionTokens, datumTokens, string, datum,
      Logged.result_pure]

/-- A southern zone with `+over` in its middle, on a datum with tokens of its own; and a scaled projection on
a sphere. -/
theorem zone_and_scale_come_back :
    (∃ text, exportText (.verbatim WellKnownDatum.wgs1984.datum) WellKnownDatum.wgs1984.datum
        "+proj=utm +zone=-7 +over  +south +units=m" = .ok text ∧
      (importText (.verbatim WellKnownDatum.wgs1984.datum) text).result =
        .ok ({ WellKnownDatum.wgs1984.datum with tokens := "+ellps=WGS84 +datum=WGS84" },
          "+proj=utm +zone=-7 +south +units=m")) ∧
    ∃ text, exportText (.verbatim WellKnownDatum.moon.datum) WellKnownDatum.moon.datum
        "+proj=gnom +lon_0=0 +lat_0=90 +k=0.25 +x_0=0 +y_0=-0.5 +units=m" = .ok text ∧
      (importText (.verbatim WellKnownDatum.moon.datum) text).result =
        .ok ({ WellKnownDatum.moon.datum with tokens := "+a=1737400.0 +b=1737400.0" },
          "+proj=gnom +lon_0=0 +lat_0=90 +k=0.25 +x_0=0 +y_0=-0.5 +units=m") := by
  constructor
  · let earth := WellKnownDatum.wgs1984.datum
    have tellable : Tellable earth := by
      refine ⟨by decide +kernel, by decide +kernel, fun _ => ?_⟩
      decide +kernel
    have unscaled : ∀ k, ("k", k) ∈ (Named.utm (-7) false).parameters → (k == 0.0) = false := by
      simp [Named.parameters]
    have comesBack := importText_exportText unscaled (by decide +kernel) tellable
      (Catalogue.keeps_verbatim _ (exportedString _ "+proj=utm +zone=-7 +over  +south +units=m"))
    have tokens : (if earth.isSphere then Datum.axisTokens earth.semiMajorAxis earth.semiMinorAxis
        else ofTokens (tokenize earth.tokens)) = "+ellps=WGS84 +datum=WGS84" := by
      decide +kernel
    have string : (Named.utm (-7) false).string = "+proj=utm +zone=-7 +south +units=m" := by
      decide +kernel
    rwa [tokens, string] at comesBack
  · let moon := WellKnownDatum.moon.datum
    let gnomonic := Named.gnomonic ⟨90.0, 0.0⟩ 0.25 ⟨0.0, -0.5⟩
    have tellable : Tellable moon := by
      refine ⟨by decide +kernel, by decide +kernel, ?_⟩
      decide +kernel
    have scaled : ∀ k, ("k", k) ∈ gnomonic.parameters → (k == 0.0) = false := by
      intro k member
      have scale : k = 0.25 := by
        simpa [gnomonic, Named.parameters, Center.entries, FalseOrigin.entries] using member
      rw [scale]
      decide +kernel
    have comesBack := importText_exportText scaled (by decide +kernel) tellable
      (Catalogue.keeps_verbatim _ (exportedString _
        "+proj=gnom +lon_0=0 +lat_0=90 +k=0.25 +x_0=0 +y_0=-0.5 +units=m"))
    have tokens : (if moon.isSphere then Datum.axisTokens moon.semiMajorAxis moon.semiMinorAxis
        else ofTokens (tokenize moon.tokens)) = "+a=1737400.0 +b=1737400.0" := by
      decide +kernel
    have string : gnomonic.string =
        "+proj=gnom +lon_0=0 +lat_0=90 +k=0.25 +x_0=0 +y_0=-0.5 +units=m" := by
      decide +kernel
    rwa [tokens, string] at comesBack

end GeoRaster.Wkt
