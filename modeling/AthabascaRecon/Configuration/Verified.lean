import AthabascaRecon.Configuration.ReconConfiguration
import AthabascaRecon.Foundation.Ensures

/-!
# What a verified configuration holds

`VerifyConfiguration` only adds parameters, apart from the one old name that it replaces
(`Completes`). What it has found or put in one section therefore still holds of the
configuration that it leaves, and `Verified` collects it: which parameters are there, as
which types they were read, and which options they have.
-/

set_option autoImplicit false

namespace AthabascaRecon

open TupleStream

/-- The text of a parameter. -/
def PropertyTree.text (config : PropertyTree) (key : Key) : Option String :=
  config.dataAt key.path

/-- A parameter that is there. -/
def Present (config : PropertyTree) (key : Key) : Prop := ∃ text, config.text key = some text

/-- A parameter that is there and is read as some type. -/
def Parses {Value : Type} (reader : Reader StreamException Value) (config : PropertyTree)
    (key : Key) : Prop :=
  ∃ text value, config.text key = some text ∧ valueOfText reader text.toList = .ok (some value)

/-- A parameter that is there and is one of some options. -/
def Chooses (options : List String) (config : PropertyTree) (key : Key) : Prop :=
  ∃ option ∈ options, config.text key = some option

theorem present_iff_isSome {config : PropertyTree} {key : Key} :
    Present config key ↔ (config.text key).isSome = true := by
  rw [Option.isSome_iff_exists]
  rfl

theorem Parses.present {Value : Type} {reader : Reader StreamException Value}
    {config : PropertyTree} {key : Key} (parses : Parses reader config key) :
    Present config key := by
  obtain ⟨text, _, found, _⟩ := parses
  exact ⟨text, found⟩

/-- Whatever a reader makes of a parameter has a property. -/
def Within {Value : Type} (reader : Reader StreamException Value) (fits : Value → Prop)
    (config : PropertyTree) (key : Key) : Prop :=
  ∀ text value, config.text key = some text →
    valueOfText reader text.toList = .ok (some value) → fits value

section Types

variable {Value Result : Type} {config : PropertyTree} {key : Key}

/-- A parameter that was read is read as a narrower type exactly when its value fits. -/
theorem Parses.narrow_iff {narrow wide : Reader StreamException Value} {fits : Value → Prop}
    (parses : Parses wide config key) (restricts : Restricts narrow wide fits) :
    Parses narrow config key ↔ Within wide fits config key := by
  obtain ⟨text, value, found, read⟩ := parses
  constructor
  · rintro ⟨text', value', found', read'⟩ text'' value'' found'' read''
    rw [restricts.valueOfText_iff] at read'
    have sameText : text' = text'' := Option.some.inj (found'.symm.trans found'')
    subst sameText
    have sameValue : value' = value'' :=
      Option.some.inj (Except.ok.inj (read'.1.symm.trans read''))
    subst sameValue
    exact read'.2
  · intro within
    exact ⟨text, value, found, restricts.valueOfText_iff.mpr ⟨read, within text value found read⟩⟩

/-- A parameter that was read is read as a wider type. -/
theorem Parses.widen {narrow wide : Reader StreamException Value} {fits : Value → Prop}
    (parses : Parses narrow config key) (restricts : Restricts narrow wide fits) :
    Parses wide config key := by
  obtain ⟨text, value, found, read⟩ := parses
  exact ⟨text, value, found, (restricts.valueOfText_iff.mp read).1⟩

theorem parses_maps_iff {reader : Reader StreamException Value} {f : Value → Result}
    {mapped : Reader StreamException Result} (maps : Maps reader f mapped) :
    Parses mapped config key ↔ Parses reader config key := by
  unfold Parses
  simp only [maps.valueOfText_eq]
  constructor
  · rintro ⟨text, result, found, read⟩
    rcases outcome : valueOfText reader text.toList with failure | ⟨_ | value⟩
    · rw [outcome] at read
      cases read
    · rw [outcome] at read
      cases read
    · exact ⟨text, value, found, outcome⟩
  · rintro ⟨text, value, found, read⟩
    refine ⟨text, f value, found, ?_⟩
    rw [read]
    rfl

variable (fits : Value → Bool) (conversion : Conversion Value)

theorem restricts_reversedPair :
    Restricts (reversedPair (conversion.fitting fits)) (reversedPair conversion)
      fun pair => fits pair.v = true ∧ fits pair.u = true := by
  apply (restricts_readTuple fits conversion 2).filterMap
  intro values pair found
  unfold pairOfList at found
  split at found
  · cases found
    simp [and_comm]
  · cases found

theorem maps_reversedPair (f : Value → Result) :
    Maps (reversedPair conversion) (fun pair => ⟨f pair.v, f pair.u⟩)
      (reversedPair (conversion.map f)) := by
  apply (maps_readTuple f conversion 2).filterMap
  intro values
  rcases values with _ | ⟨u, _ | ⟨v, _ | ⟨w, rest⟩⟩⟩
  · rfl
  · rfl
  · rfl
  · rfl

end Types

/-- The verification reads `double` as any decimal number of its range. -/
theorem parses_read_iff {arithmetic : DoubleArithmetic} {config : PropertyTree} {key : Key} :
    Parses (readNumber arithmetic.read) config key ↔ Parses (readNumber double) config key :=
  parses_maps_iff (maps_readNumber arithmetic.ofDecimal double)

/-! ## Rules for the steps of the verification -/

section Rules

variable {config : PropertyTree} {Value : Type} {key : Key}

theorem ensures_present {property : Bool → PropertyTree → Prop}
    (holds : property (config.text key).isSome config) :
    Ensures (present key) config property := by
  constructor
  intro value after succeeded
  cases succeeded
  exact holds

theorem ensures_getOptional {property : Option String → PropertyTree → Prop}
    (holds : property (config.text key) config) :
    Ensures (getOptional key) config property := by
  constructor
  intro value after succeeded
  cases succeeded
  exact holds

theorem ensures_dieIf {condition : Prop} [Decidable condition] {message : String}
    {property : Unit → PropertyTree → Prop} (holds : ¬ condition → property () config) :
    Ensures (dieIf condition message) config property := by
  apply Ensures.ite
  · intro _
    exact Ensures.throw
  · intro not
    exact Ensures.pure (holds not)

theorem ensures_dieUnlessIn {options : List String} {option : String} {message : String}
    {property : Unit → PropertyTree → Prop}
    (holds : option ∈ options → property () config) :
    Ensures (dieUnlessIn options option message) config property := by
  apply ensures_dieIf
  intro chosen
  exact holds (not_not.mp chosen)

theorem ensures_parse {reader : Reader StreamException Value} {text : String}
    {property : Value → PropertyTree → Prop}
    (holds : ∀ value, valueOfText reader text.toList = .ok (some value) → property value config) :
    Ensures (parse reader key text) config property := by
  unfold parse
  cases outcome : valueOfText reader text.toList with
  | error thrown => exact Ensures.throw
  | ok value =>
    cases value with
    | none => exact Ensures.throw
    | some value => exact Ensures.pure (holds value outcome)

theorem ensures_requireParameter {reader : Reader StreamException Value}
    {property : Value → PropertyTree → Prop}
    (holds : ∀ value, Parses reader config key → property value config) :
    Ensures (requireParameter reader key) config property := by
  apply Ensures.bind
  apply ensures_getOptional
  cases found : config.text key with
  | none => exact Ensures.throw
  | some text =>
    apply ensures_parse
    intro value parsed
    exact holds value ⟨text, value, found, parsed⟩

theorem ensures_optionalParameter {reader : Reader StreamException Value}
    {write : Value → Text} {default : Value} {property : Value → PropertyTree → Prop}
    (absent : config.text key = none →
      property default (config.put (String.ofList (write default)) key.path))
    (holds : ∀ value, Parses reader config key → property value config) :
    Ensures (optionalParameter reader write key default) config property := by
  apply Ensures.bind
  apply ensures_getOptional
  cases found : config.text key with
  | none =>
    apply Ensures.bind
    apply Ensures.modify
    exact Ensures.pure (absent found)
  | some text =>
    apply ensures_parse
    intro value parsed
    exact holds value ⟨text, value, found, parsed⟩

theorem ensures_optionalText {default : String} {property : String → PropertyTree → Prop}
    (absent : config.text key = none →
      property default (config.put default key.path))
    (holds : ∀ text, config.text key = some text → property text config) :
    Ensures (optionalText key default) config property := by
  apply Ensures.bind
  apply ensures_getOptional
  cases found : config.text key with
  | none =>
    apply Ensures.bind
    apply Ensures.modify
    exact Ensures.pure (absent found)
  | some text => exact Ensures.pure (holds text found)

theorem ensures_checkForUnknown {tree : PropertyTree} {sectionKey : Option String}
    {validKeys : List String} {property : Unit → PropertyTree → Prop}
    (holds : property () config) :
    Ensures (checkForUnknown tree sectionKey validKeys) config property := by
  unfold checkForUnknown
  split
  · exact Ensures.pure holds
  · split
    · exact Ensures.throw
    · exact Ensures.throw

theorem ensures_checkSection {sectionKey : String} {validKeys : List String}
    {property : Unit → PropertyTree → Prop} (holds : property () config) :
    Ensures (checkSection sectionKey validKeys) config property := by
  apply Ensures.bind
  apply Ensures.get
  split
  · exact Ensures.pure holds
  · exact ensures_checkForUnknown holds

end Rules

/-! ## Only defaults are added -/

/-- The parameters that the verification puts when they are not there. -/
def defaultedKeys : List Key :=
  [⟨"Projections", "CenterPixelU"⟩, ⟨"Projections", "OffsetV"⟩, ⟨"Projections", "ReverseRotation"⟩,
    ⟨"Projections", "ProjectionAt180"⟩, ⟨"Volume", "VoxelSize"⟩, ⟨"Volume", "Dimensions"⟩,
    ⟨"Volume", "Origin"⟩,
    ⟨"Reconstruction", "BadPixelCorrection"⟩, ⟨"Reconstruction", "FlatFieldBadThreshold"⟩,
    ⟨"Reconstruction", "BeamPowerCorrection"⟩, ⟨"Reconstruction", "BeamPowerDecayConstantTerm"⟩,
    ⟨"Reconstruction", "ProjectionBackgroundEdgeWidth"⟩, ⟨"Reconstruction", "PixelInterpolation"⟩,
    ⟨"Reconstruction", "SmoothingFilter"⟩, ⟨"Reconstruction", "SmoothingFilterRadius"⟩,
    ⟨"Software", "Engine"⟩, ⟨"Software", "Threads"⟩, ⟨"Software", "MaximumVolumeMemory"⟩,
    ⟨"Software", "FilteringModule"⟩]

/-- The parameter whose old name is replaced. -/
def beamPowerKey : Key := ⟨"Reconstruction", "BeamPowerCorrection"⟩

/-- The old name of a method of the beam power correction. -/
def oldBeamPowerCorrection : String := "ZeroProjectionEdgeAttenuation"

/-- The second configuration has the parameters of the first, apart from an old name that
is replaced, and defaults for some that the first does not have. -/
def Completes (before after : PropertyTree) : Prop :=
  ∀ key : Key, after.text key = before.text key ∨
    (before.text key = none ∧ key ∈ defaultedKeys) ∨
    (key = beamPowerKey ∧ before.text key = some oldBeamPowerCorrection)

theorem text_put_self (config : PropertyTree) (key : Key) (value : String) :
    (config.put value key.path).text key = some value :=
  PropertyTree.dataAt_put_self value key.path config

theorem text_put_of_ne {asked key : Key} (different : asked ≠ key) (config : PropertyTree)
    (value : String) : (config.put value key.path).text asked = config.text asked := by
  apply PropertyTree.dataAt_put_of_not_prefix
  intro inside
  have same : asked.path = key.path := inside.eq_of_length rfl
  obtain ⟨sectionKey, parameter⟩ := asked
  obtain ⟨sectionKey', parameter'⟩ := key
  simp only [Key.path, List.cons.injEq, and_true] at same
  exact different (Key.mk.injEq .. ▸ same)

namespace Completes

variable {first second third : PropertyTree} {key : Key}

theorem refl (config : PropertyTree) : Completes config config :=
  fun _ => .inl rfl

theorem trans (early : Completes first second) (late : Completes second third) :
    Completes first third := by
  intro key
  rcases early key with same | changed
  · rw [← same]
    exact late key
  · exact .inr changed

theorem text_eq_some (completes : Completes first second) (kept : key ≠ beamPowerKey)
    {text : String} (found : first.text key = some text) : second.text key = some text := by
  rcases completes key with same | ⟨absent, _⟩ | ⟨replaced, _⟩
  · exact same.trans found
  · rw [absent] at found
    cases found
  · exact absurd replaced kept

/-- A parameter without a default. -/
theorem text_eq (completes : Completes first second) (required : key ∉ defaultedKeys) :
    second.text key = first.text key := by
  rcases completes key with same | ⟨_, defaulted⟩ | ⟨replaced, _⟩
  · exact same
  · exact absurd defaulted required
  · rw [replaced] at required
    exact absurd (by decide) required

theorem present (completes : Completes first second) (kept : key ≠ beamPowerKey)
    (found : Present first key) : Present second key := by
  obtain ⟨text, found⟩ := found
  exact ⟨text, completes.text_eq_some kept found⟩

theorem parses {Value : Type} {reader : Reader StreamException Value}
    (completes : Completes first second) (kept : key ≠ beamPowerKey)
    (found : Parses reader first key) : Parses reader second key := by
  obtain ⟨text, value, found, parsed⟩ := found
  exact ⟨text, value, completes.text_eq_some kept found, parsed⟩

theorem chooses {options : List String} (completes : Completes first second)
    (kept : key ≠ beamPowerKey) (found : Chooses options first key) :
    Chooses options second key := by
  obtain ⟨option, member, found⟩ := found
  exact ⟨option, member, completes.text_eq_some kept found⟩

theorem present_iff (completes : Completes first second) (required : key ∉ defaultedKeys) :
    Present second key ↔ Present first key := by
  unfold Present
  rw [completes.text_eq required]

/-- A parameter that is there already keeps its text. -/
theorem text_iff {text : String} (completes : Completes first second)
    (kept : key ≠ beamPowerKey) (found : Present first key) :
    second.text key = some text ↔ first.text key = some text := by
  obtain ⟨old, found⟩ := found
  rw [found, completes.text_eq_some kept found]

/-- The method of the beam power correction keeps a name that is not the old one. -/
theorem beamPowerCorrection (completes : Completes first second) {text : String}
    (found : first.text beamPowerKey = some text) (current : text ≠ oldBeamPowerCorrection) :
    second.text beamPowerKey = some text := by
  rcases completes beamPowerKey with same | ⟨absent, _⟩ | ⟨_, replaced⟩
  · exact same.trans found
  · rw [absent] at found
    cases found
  · rw [replaced, Option.some.injEq] at found
    exact absurd found.symm current

/-- Putting the default of a parameter that is not there. -/
theorem put (absent : first.text key = none) (defaulted : key ∈ defaultedKeys)
    (value : String) : Completes first (first.put value key.path) := by
  intro asked
  by_cases same : asked = key
  · subst same
    exact .inr (.inl ⟨absent, defaulted⟩)
  · exact .inl (text_put_of_ne same first value)

/-- Replacing the old name. -/
theorem replace (old : first.text beamPowerKey = some oldBeamPowerCorrection)
    (value : String) : Completes first (first.put value beamPowerKey.path) := by
  intro asked
  by_cases same : asked = beamPowerKey
  · subst same
    exact .inr (.inr ⟨rfl, old⟩)
  · exact .inl (text_put_of_ne same first value)

end Completes

/-- An optional parameter is there afterwards. -/
theorem ensures_optional {Value : Type} {reader : Reader StreamException Value}
    {write : Value → Text} {key : Key} {default : Value} {config : PropertyTree}
    (defaulted : key ∈ defaultedKeys) :
    Ensures (optionalParameter reader write key default) config fun _ after =>
      Completes config after ∧ Present after key := by
  apply ensures_optionalParameter
  · intro absent
    exact ⟨.put absent defaulted _, _, text_put_self _ _ _⟩
  · intro value parses
    exact ⟨.refl config, parses.present⟩

/-- An optional parameter whose default is read as it was written. -/
theorem ensures_optional_parses {Value : Type} {reader : Reader StreamException Value}
    {write : Value → Text} {key : Key} {default : Value} {config : PropertyTree}
    (defaulted : key ∈ defaultedKeys)
    (faithful : valueOfText reader (write default) = .ok (some default)) :
    Ensures (optionalParameter reader write key default) config fun _ after =>
      Completes config after ∧ Parses reader after key := by
  apply ensures_optionalParameter
  · intro absent
    refine ⟨.put absent defaulted _, _, default, text_put_self _ _ _, ?_⟩
    rw [String.toList_ofList]
    exact faithful
  · intro value parses
    exact ⟨.refl config, parses⟩

/-- The text that an optional text parameter has afterwards. -/
theorem ensures_optional_text {key : Key} {default : String} {config : PropertyTree}
    (defaulted : key ∈ defaultedKeys) :
    Ensures (optionalText key default) config fun text after =>
      Completes config after ∧ after.text key = some text := by
  apply ensures_optionalText
  · intro absent
    exact ⟨.put absent defaulted _, text_put_self _ _ _⟩
  · intro text found
    exact ⟨.refl config, found⟩

/-! ## The sections -/

/-- What the verification of the files finds. -/
structure VerifiedFiles (config : PropertyTree) : Prop where
  oneInput : (config.text ⟨"Input", "RawProjectionsFile"⟩).isSome.toNat +
    (config.text ⟨"Input", "AttenuationProjectionsFile"⟩).isSome.toNat +
    (config.text ⟨"Input", "FilteredProjectionsFile"⟩).isSome.toNat = 1
  attenuationOnce : ¬ (Present config ⟨"Input", "AttenuationProjectionsFile"⟩ ∧
    Present config ⟨"Output", "AttenuationProjectionsFile"⟩)
  filteredOnce : ¬ (Present config ⟨"Input", "FilteredProjectionsFile"⟩ ∧
    Present config ⟨"Output", "FilteredProjectionsFile"⟩)
  filteredLast : ¬ (Present config ⟨"Input", "FilteredProjectionsFile"⟩ ∧
    Present config ⟨"Output", "AttenuationProjectionsFile"⟩)

theorem ensures_notBoth {config : PropertyTree} {input output : Key} :
    Ensures (notBoth input output) config fun _ after =>
      after = config ∧ ¬ (Present config input ∧ Present config output) := by
  apply Ensures.bind
  apply ensures_present
  apply Ensures.bind
  apply ensures_present
  apply ensures_dieIf
  intro notBoth
  rw [Bool.and_eq_true, ← present_iff_isSome, ← present_iff_isSome] at notBoth
  exact ⟨rfl, notBoth⟩

theorem ensures_verifyInput {config : PropertyTree} :
    Ensures verifyInput config fun _ after => after = config ∧
      (config.text ⟨"Input", "RawProjectionsFile"⟩).isSome.toNat +
        (config.text ⟨"Input", "AttenuationProjectionsFile"⟩).isSome.toNat +
        (config.text ⟨"Input", "FilteredProjectionsFile"⟩).isSome.toNat = 1 := by
  apply Ensures.bind
  apply ensures_present
  apply Ensures.bind
  apply ensures_present
  apply Ensures.bind
  apply ensures_present
  apply Ensures.bind
  apply ensures_dieIf
  intro one
  exact ensures_checkSection ⟨rfl, not_not.mp one⟩

theorem ensures_verifyOutput {config : PropertyTree} :
    Ensures verifyOutput config fun _ after => after = config ∧
      ¬ (Present config ⟨"Input", "AttenuationProjectionsFile"⟩ ∧
        Present config ⟨"Output", "AttenuationProjectionsFile"⟩) ∧
      ¬ (Present config ⟨"Input", "FilteredProjectionsFile"⟩ ∧
        Present config ⟨"Output", "FilteredProjectionsFile"⟩) ∧
      ¬ (Present config ⟨"Input", "FilteredProjectionsFile"⟩ ∧
        Present config ⟨"Output", "AttenuationProjectionsFile"⟩) := by
  apply Ensures.seq ensures_notBoth
  rintro _ _ ⟨rfl, attenuationOnce⟩
  apply Ensures.seq ensures_notBoth
  rintro _ _ ⟨rfl, filteredOnce⟩
  apply Ensures.seq ensures_notBoth
  rintro _ _ ⟨rfl, filteredLast⟩
  exact ensures_checkSection ⟨rfl, attenuationOnce, filteredOnce, filteredLast⟩

/-- What the verification of the projections section finds or puts. -/
structure VerifiedProjections (config : PropertyTree) : Prop where
  dimensions : Parses (reversedPair (integerOfBits 64)) config ⟨"Projections", "Dimensions"⟩
  numberOfProjections :
    Parses (readNumber (integerOfBits 32)) config ⟨"Projections", "NumberOfProjections"⟩
  dataType : Parses readDataType config ⟨"Projections", "DataType"⟩
  pixelSize : Parses (reversedPair double) config ⟨"Projections", "PixelSize"⟩
  centerPixelU : Present config ⟨"Projections", "CenterPixelU"⟩
  offsetV : Present config ⟨"Projections", "OffsetV"⟩

theorem VerifiedProjections.completes {before after : PropertyTree}
    (verified : VerifiedProjections before) (completes : Completes before after) :
    VerifiedProjections after where
  dimensions := completes.parses (by decide) verified.dimensions
  numberOfProjections := completes.parses (by decide) verified.numberOfProjections
  dataType := completes.parses (by decide) verified.dataType
  pixelSize := completes.parses (by decide) verified.pixelSize
  centerPixelU := completes.present (by decide) verified.centerPixelU
  offsetV := completes.present (by decide) verified.offsetV

theorem ensures_verifyProjections {arithmetic : DoubleArithmetic} {config : PropertyTree} :
    Ensures (verifyProjections arithmetic) config fun _ after =>
      Completes config after ∧ VerifiedProjections after := by
  apply Ensures.bind
  apply ensures_requireParameter
  intro projDims dimensions
  apply Ensures.bind
  apply ensures_requireParameter
  intro _ numberOfProjections
  apply Ensures.bind
  apply ensures_requireParameter
  intro _ dataType
  apply Ensures.bind
  apply ensures_requireParameter
  intro pixelSize pixelSizeParses
  apply Ensures.seq (ensures_optional (by decide))
  rintro _ second ⟨toSecond, centerPixelU⟩
  apply Ensures.seq (ensures_optional (by decide))
  rintro _ third ⟨toThird, offsetV⟩
  apply Ensures.seq (ensures_optional_text (by decide))
  rintro reverseRotation fourth ⟨toFourth, _⟩
  apply Ensures.bind
  apply ensures_dieIf
  intro _
  apply Ensures.seq (ensures_optional_text (by decide))
  rintro _ fifth ⟨toFifth, _⟩
  apply Ensures.bind
  apply ensures_checkSection
  apply Ensures.pure
  have late := toFourth.trans toFifth
  have whole := (toSecond.trans toThird).trans late
  exact ⟨whole, whole.parses (by decide) dimensions, whole.parses (by decide) numberOfProjections,
    whole.parses (by decide) dataType,
    whole.parses (by decide) ((parses_maps_iff (maps_reversedPair _ _)).mp pixelSizeParses),
    (toThird.trans late).present (by decide) centerPixelU, late.present (by decide) offsetV⟩

/-- What the verification of the volume section finds or puts, for the output of a
volume. -/
structure VerifiedVolume (config : PropertyTree) : Prop where
  voxelSize : Present config ⟨"Volume", "VoxelSize"⟩
  dimensions : Present config ⟨"Volume", "Dimensions"⟩
  origin : Present config ⟨"Volume", "Origin"⟩

theorem VerifiedVolume.completes {before after : PropertyTree} (verified : VerifiedVolume before)
    (completes : Completes before after) : VerifiedVolume after where
  voxelSize := completes.present (by decide) verified.voxelSize
  dimensions := completes.present (by decide) verified.dimensions
  origin := completes.present (by decide) verified.origin

theorem ensures_verifyVoxelSize {arithmetic : DoubleArithmetic}
    {pixelSize : Tuple2 arithmetic.Value} {config : PropertyTree} :
    Ensures (verifyVoxelSize arithmetic pixelSize) config fun _ after =>
      Completes config after ∧ Present after ⟨"Volume", "VoxelSize"⟩ := by
  apply Ensures.ite
  · intro _
    exact ensures_optional (by decide)
  · intro _
    apply ensures_requireParameter
    intro _ parses
    exact ⟨.refl config, parses.present⟩

theorem ensures_verifyVolume {arithmetic : DoubleArithmetic} {projDims : Tuple2 ℤ}
    {pixelSize : Tuple2 arithmetic.Value} {config : PropertyTree} :
    Ensures (verifyVolume arithmetic projDims pixelSize) config fun _ after =>
      Completes config after ∧
        (Present config ⟨"Output", "VolumeFile"⟩ → VerifiedVolume after) := by
  apply Ensures.bind
  apply Ensures.bind
  apply ensures_present
  apply Ensures.ite
  · intro _
    apply Ensures.seq ensures_verifyVoxelSize
    rintro spacing second ⟨toSecond, voxelSize⟩
    apply Ensures.seq (ensures_optional (by decide))
    rintro volDims third ⟨toThird, dimensions⟩
    apply Ensures.seq (ensures_optional (by decide))
    rintro _ fourth ⟨toFourth, origin⟩
    apply Ensures.pure
    apply ensures_checkSection
    refine ⟨(toSecond.trans toThird).trans toFourth, fun _ => ?_⟩
    exact ⟨(toThird.trans toFourth).present (by decide) voxelSize,
      toFourth.present (by decide) dimensions, origin⟩
  · intro absent
    apply Ensures.pure
    apply ensures_checkSection
    exact ⟨.refl config, fun found => absurd (present_iff_isSome.mp found) absent⟩

/-- The correction of bad pixels is off, or has a threshold. -/
def VerifiedBadPixels (config : PropertyTree) : Prop :=
  config.text ⟨"Reconstruction", "BadPixelCorrection"⟩ = some "None" ∨
    (config.text ⟨"Reconstruction", "BadPixelCorrection"⟩ = some "Averaging" ∧
      Parses (readNumber (integerOfBits 32)) config
        ⟨"Reconstruction", "FlatFieldBadThreshold"⟩)

theorem VerifiedBadPixels.completes {before after : PropertyTree}
    (verified : VerifiedBadPixels before) (completes : Completes before after) :
    VerifiedBadPixels after := by
  rcases verified with off | ⟨averaging, threshold⟩
  · exact .inl (completes.text_eq_some (by decide) off)
  · exact .inr ⟨completes.text_eq_some (by decide) averaging,
      completes.parses (by decide) threshold⟩

theorem ensures_verifyBadPixelCorrection {config : PropertyTree} :
    Ensures verifyBadPixelCorrection config fun _ after =>
      Completes config after ∧ VerifiedBadPixels after := by
  apply Ensures.seq (ensures_optional_text (by decide))
  rintro option second ⟨toSecond, found⟩
  apply Ensures.bind
  apply ensures_dieUnlessIn
  intro known
  apply Ensures.ite
  · intro notNone
    have averaging : option = "Averaging" := by
      rcases List.mem_cons.mp known with averaging | last
      · exact averaging
      · exact absurd (List.mem_singleton.mp last) notNone
    subst averaging
    apply Ensures.seq (ensures_optional_parses (by decide) (by decide))
    rintro _ third ⟨toThird, threshold⟩
    apply Ensures.pure
    exact ⟨toSecond.trans toThird, .inr ⟨toThird.text_eq_some (by decide) found, threshold⟩⟩
  · intro isNone
    apply Ensures.pure
    rw [not_not.mp isNone] at found
    exact ⟨toSecond, .inl found⟩

/-- The parameters that a method of the beam power correction asks for. -/
structure VerifiedBeamPower (config : PropertyTree) (method : String) : Prop where
  known : method ∈ beamPowerCorrections
  chosen : config.text beamPowerKey = some method
  constantTerm : method ∈ ["Manual", "BeforeAndAfterBrightField", "ConstantTotalAttenuation"] →
    Present config ⟨"Reconstruction", "BeamPowerDecayConstantTerm"⟩
  linearTerm : method = "Manual" →
    Parses (readNumber double) config ⟨"Reconstruction", "BeamPowerDecayLinearTerm"⟩
  edgeWidth : method = "NullProjectionEdge" →
    Parses (readNumber (integerOfBits 32)) config
      ⟨"Reconstruction", "ProjectionBackgroundEdgeWidth"⟩

/-- The methods do not include the old name. -/
theorem ne_oldBeamPowerCorrection {method : String} (known : method ∈ beamPowerCorrections) :
    method ≠ oldBeamPowerCorrection := by
  revert method
  decide

theorem VerifiedBeamPower.completes {before after : PropertyTree} {method : String}
    (verified : VerifiedBeamPower before method) (completes : Completes before after) :
    VerifiedBeamPower after method where
  known := verified.known
  chosen := completes.beamPowerCorrection verified.chosen
    (ne_oldBeamPowerCorrection verified.known)
  constantTerm asked := completes.present (by decide) (verified.constantTerm asked)
  linearTerm asked := completes.parses (by decide) (verified.linearTerm asked)
  edgeWidth asked := completes.parses (by decide) (verified.edgeWidth asked)

theorem ensures_verifyBeamPowerOption {config : PropertyTree} :
    Ensures verifyBeamPowerOption config fun option after => Completes config after ∧
      option ∈ beamPowerCorrections ∧ after.text beamPowerKey = some option := by
  apply Ensures.seq (ensures_optional_text (by decide))
  rintro option second ⟨toSecond, found⟩
  apply Ensures.ite
  · intro old
    subst old
    apply Ensures.bind
    apply Ensures.modify
    apply Ensures.pure
    exact ⟨toSecond.trans (.replace found _), by decide, text_put_self _ _ _⟩
  · intro _
    apply Ensures.bind
    apply ensures_dieUnlessIn
    intro known
    apply Ensures.pure
    exact ⟨toSecond, known, found⟩

theorem ensures_verifyConstantTerm {arithmetic : DoubleArithmetic} {config : PropertyTree} :
    Ensures (verifyConstantTerm arithmetic) config fun _ after => Completes config after ∧
      Present after ⟨"Reconstruction", "BeamPowerDecayConstantTerm"⟩ := by
  apply Ensures.seq (ensures_optional (by decide))
  intro _ after found
  exact Ensures.pure found

theorem ensures_verifyLinearTerm {arithmetic : DoubleArithmetic} {config : PropertyTree} :
    Ensures (verifyLinearTerm arithmetic) config fun _ after => after = config ∧
      Parses (readNumber double) after ⟨"Reconstruction", "BeamPowerDecayLinearTerm"⟩ := by
  apply Ensures.bind
  apply ensures_getOptional
  cases found : config.text ⟨"Reconstruction", "BeamPowerDecayLinearTerm"⟩ with
  | none => exact Ensures.throw
  | some text =>
    dsimp only
    split
    · exact Ensures.throw
    · rename_i value outcome
      apply ensures_dieIf
      intro read
      cases value with
      | none => exact absurd rfl read
      | some value => exact ⟨rfl, parses_read_iff.mp ⟨text, value, found, outcome⟩⟩

theorem ensures_verifyBeamPowerTerms {arithmetic : DoubleArithmetic} {config : PropertyTree}
    {method : String} (known : method ∈ beamPowerCorrections)
    (chosen : config.text beamPowerKey = some method) :
    Ensures (verifyBeamPowerTerms arithmetic method) config fun _ after =>
      Completes config after ∧ VerifiedBeamPower after method := by
  have current := ne_oldBeamPowerCorrection known
  apply Ensures.ite
  · intro manual
    subst manual
    apply Ensures.seq ensures_verifyConstantTerm
    rintro _ second ⟨toSecond, constantTerm⟩
    apply ensures_verifyLinearTerm.mono
    rintro _ third ⟨rfl, linearTerm⟩
    exact ⟨toSecond, known, toSecond.beamPowerCorrection chosen current, fun _ => constantTerm,
      fun _ => linearTerm, fun other => absurd other (by decide)⟩
  intro notManual
  apply Ensures.ite
  · intro brightField
    subst brightField
    apply Ensures.seq ensures_verifyConstantTerm
    rintro _ second ⟨toSecond, constantTerm⟩
    apply Ensures.bind
    apply ensures_present
    apply ensures_dieIf
    intro _
    exact ⟨toSecond, known, toSecond.beamPowerCorrection chosen current, fun _ => constantTerm,
      fun other => absurd other (by decide), fun other => absurd other (by decide)⟩
  intro notBrightField
  apply Ensures.ite
  · intro nullEdge
    subst nullEdge
    apply Ensures.seq (ensures_optional_parses (by decide) (by decide))
    rintro _ second ⟨toSecond, edgeWidth⟩
    apply Ensures.bind
    apply ensures_present
    apply ensures_dieIf
    intro _
    exact ⟨toSecond, known, toSecond.beamPowerCorrection chosen current,
      fun other => absurd other (by decide), fun other => absurd other (by decide),
      fun _ => edgeWidth⟩
  intro notNullEdge
  apply Ensures.ite
  · intro constantAttenuation
    subst constantAttenuation
    apply ensures_verifyConstantTerm.mono
    rintro _ second ⟨toSecond, constantTerm⟩
    exact ⟨toSecond, known, toSecond.beamPowerCorrection chosen current, fun _ => constantTerm,
      fun other => absurd other (by decide), fun other => absurd other (by decide)⟩
  · intro notConstant
    apply Ensures.pure
    refine ⟨.refl config, known, chosen, ?_, fun other => absurd other notManual,
      fun other => absurd other notNullEdge⟩
    intro asked
    simp [notManual, notBrightField, notConstant] at asked

/-- What the verification finds or puts for raw projections. -/
structure VerifiedRaw (config : PropertyTree) : Prop where
  badPixels : VerifiedBadPixels config
  beamPower : ∃ method, VerifiedBeamPower config method

theorem VerifiedRaw.completes {before after : PropertyTree} (verified : VerifiedRaw before)
    (completes : Completes before after) : VerifiedRaw after where
  badPixels := verified.badPixels.completes completes
  beamPower := by
    obtain ⟨method, beamPower⟩ := verified.beamPower
    exact ⟨method, beamPower.completes completes⟩

theorem ensures_verifyRawProjections {arithmetic : DoubleArithmetic} {config : PropertyTree} :
    Ensures (verifyRawProjections arithmetic) config fun _ after => Completes config after ∧
      (Present config ⟨"Input", "RawProjectionsFile"⟩ → VerifiedRaw after) := by
  apply Ensures.bind
  apply ensures_present
  apply Ensures.ite
  · intro _
    apply Ensures.seq ensures_verifyBadPixelCorrection
    rintro _ second ⟨toSecond, badPixels⟩
    apply Ensures.seq ensures_verifyBeamPowerOption
    rintro method third ⟨toThird, known, chosen⟩
    apply (ensures_verifyBeamPowerTerms known chosen).mono
    rintro _ fourth ⟨toFourth, beamPower⟩
    have late := toThird.trans toFourth
    exact ⟨toSecond.trans late, fun _ => ⟨badPixels.completes late, method, beamPower⟩⟩
  · intro absent
    apply Ensures.pure
    exact ⟨.refl config, fun found => absurd (present_iff_isSome.mp found) absent⟩

theorem ensures_verifyPixelInterpolation {config : PropertyTree} :
    Ensures verifyPixelInterpolation config fun _ after => Completes config after ∧
      (Present config ⟨"Output", "VolumeFile"⟩ →
        Chooses pixelInterpolations after ⟨"Reconstruction", "PixelInterpolation"⟩) := by
  apply Ensures.bind
  apply ensures_present
  apply Ensures.ite
  · intro _
    apply Ensures.seq (ensures_optional_text (by decide))
    rintro option second ⟨toSecond, found⟩
    apply ensures_dieUnlessIn
    intro known
    exact ⟨toSecond, fun _ => ⟨option, known, found⟩⟩
  · intro absent
    apply Ensures.pure
    exact ⟨.refl config, fun found => absurd (present_iff_isSome.mp found) absent⟩

/-- What the verification of the smoothing filter finds or puts. -/
structure VerifiedSmoothing (config : PropertyTree) : Prop where
  chosen : Chooses smoothingFilters config ⟨"Reconstruction", "SmoothingFilter"⟩
  radius : config.text ⟨"Reconstruction", "SmoothingFilter"⟩ = some "Gaussian" →
    Present config ⟨"Reconstruction", "SmoothingFilterRadius"⟩
  frequencies : config.text ⟨"Reconstruction", "SmoothingFilter"⟩ = some "TaperedCosineWindow" →
    Parses (readTuple 2 double) config ⟨"Reconstruction", "SmoothingFilterFrequencies"⟩

theorem Chooses.present {options : List String} {config : PropertyTree} {key : Key}
    (chooses : Chooses options config key) : Present config key := by
  obtain ⟨option, _, found⟩ := chooses
  exact ⟨_, found⟩

theorem VerifiedSmoothing.completes {before after : PropertyTree}
    (verified : VerifiedSmoothing before) (completes : Completes before after) :
    VerifiedSmoothing after where
  chosen := completes.chooses (by decide) verified.chosen
  radius gaussian := by
    rw [completes.text_iff (by decide) verified.chosen.present] at gaussian
    exact completes.present (by decide) (verified.radius gaussian)
  frequencies tapered := by
    rw [completes.text_iff (by decide) verified.chosen.present] at tapered
    exact completes.parses (by decide) (verified.frequencies tapered)

theorem ensures_verifySmoothingFilter {arithmetic : DoubleArithmetic} {config : PropertyTree} :
    Ensures (verifySmoothingFilter arithmetic) config fun _ after =>
      Completes config after ∧ VerifiedSmoothing after := by
  apply Ensures.seq (ensures_optional_text (by decide))
  rintro option second ⟨toSecond, found⟩
  apply Ensures.bind
  apply ensures_dieUnlessIn
  intro known
  apply Ensures.ite
  · intro gaussian
    rw [gaussian] at found
    apply Ensures.seq (ensures_optional (by decide))
    rintro _ third ⟨toThird, radius⟩
    apply Ensures.bind
    apply ensures_present
    apply ensures_dieIf
    intro _
    have chosen := toThird.text_eq_some (by decide) found
    refine ⟨toSecond.trans toThird, ⟨"Gaussian", by decide, chosen⟩, fun _ => radius, ?_⟩
    intro tapered
    rw [chosen] at tapered
    exact absurd tapered (by decide)
  intro notGaussian
  apply Ensures.ite
  · intro tapered
    rw [tapered] at found
    apply Ensures.bind
    apply ensures_requireParameter
    intro _ frequencies
    apply Ensures.bind
    apply ensures_present
    apply ensures_dieIf
    intro _
    rw [DoubleArithmetic.read, parses_maps_iff (maps_readTuple _ _ _)] at frequencies
    refine ⟨toSecond, ⟨"TaperedCosineWindow", by decide, found⟩, ?_, fun _ => frequencies⟩
    intro gaussian
    rw [found] at gaussian
    exact absurd gaussian (by decide)
  · intro notTapered
    apply Ensures.pure
    refine ⟨toSecond, ⟨option, known, found⟩, ?_, ?_⟩
    · intro gaussian
      rw [found, Option.some.injEq] at gaussian
      exact absurd gaussian notGaussian
    · intro tapered
      rw [found, Option.some.injEq] at tapered
      exact absurd tapered notTapered

/-- What the verification of the engine finds or puts. -/
structure VerifiedEngine (config : PropertyTree) : Prop where
  chosen : Chooses engines config ⟨"Software", "Engine"⟩
  threads : config.text ⟨"Software", "Engine"⟩ = some "MultiThreaded" →
    config.text ⟨"Software", "Threads"⟩ = some "Automatic" ∨
      (config.text ⟨"Software", "Threads"⟩ ≠ some "Automatic" ∧
        Parses (readNumber (integerOfBits 32)) config ⟨"Software", "Threads"⟩)

theorem VerifiedEngine.completes {before after : PropertyTree}
    (verified : VerifiedEngine before) (completes : Completes before after) :
    VerifiedEngine after where
  chosen := completes.chooses (by decide) verified.chosen
  threads multiThreaded := by
    rw [completes.text_iff (by decide) verified.chosen.present] at multiThreaded
    rcases verified.threads multiThreaded with automatic | ⟨notAutomatic, parses⟩
    · exact .inl (completes.text_eq_some (by decide) automatic)
    · refine .inr ⟨?_, completes.parses (by decide) parses⟩
      rwa [Ne, completes.text_iff (by decide) parses.present]

theorem ensures_verifyThreads {config : PropertyTree} :
    Ensures verifyThreads config fun _ after => Completes config after ∧
      (after.text ⟨"Software", "Threads"⟩ = some "Automatic" ∨
        (after.text ⟨"Software", "Threads"⟩ ≠ some "Automatic" ∧
          Parses (readNumber (integerOfBits 32)) after ⟨"Software", "Threads"⟩)) := by
  apply Ensures.seq (ensures_optional_text (by decide))
  rintro option second ⟨toSecond, found⟩
  apply Ensures.ite
  · intro notAutomatic
    apply Ensures.bind
    apply ensures_requireParameter
    intro threads parses
    apply ensures_dieIf
    intro _
    refine ⟨toSecond, .inr ⟨?_, parses⟩⟩
    rw [found]
    intro automatic
    exact notAutomatic (Option.some.inj automatic)
  · intro automatic
    apply Ensures.pure
    rw [not_not.mp automatic] at found
    exact ⟨toSecond, .inl found⟩

theorem ensures_verifyEngine {config : PropertyTree} :
    Ensures verifyEngine config fun _ after =>
      Completes config after ∧ VerifiedEngine after := by
  apply Ensures.seq (ensures_optional_text (by decide))
  rintro option second ⟨toSecond, found⟩
  apply Ensures.bind
  apply ensures_dieUnlessIn
  intro known
  apply Ensures.ite
  · intro _
    apply ensures_verifyThreads.mono
    rintro _ third ⟨toThird, threads⟩
    exact ⟨toSecond.trans toThird, ⟨option, known, toThird.text_eq_some (by decide) found⟩,
      fun _ => threads⟩
  · intro notMultiThreaded
    apply Ensures.pure
    refine ⟨toSecond, ⟨option, known, found⟩, ?_⟩
    intro multiThreaded
    rw [found, Option.some.injEq] at multiThreaded
    exact absurd multiThreaded notMultiThreaded

/-- A filtering module that the program was compiled with. -/
def VerifiedModule (build : Build) (config : PropertyTree) : Prop :=
  ∃ name ∈ filteringModules, config.text ⟨"Software", "FilteringModule"⟩ = some name ∧
    (name = "vDSP" → build.useVDSP = true) ∧ (name = "FFTW" → build.useFFTW = true)

theorem VerifiedModule.completes {build : Build} {before after : PropertyTree}
    (verified : VerifiedModule build before) (completes : Completes before after) :
    VerifiedModule build after := by
  obtain ⟨name, known, found, compiled⟩ := verified
  exact ⟨name, known, completes.text_eq_some (by decide) found, compiled⟩

theorem ensures_verifyFilteringModule {build : Build} {config : PropertyTree} :
    Ensures (verifyFilteringModule build) config fun _ after => Completes config after ∧
      (¬ Present config ⟨"Input", "FilteredProjectionsFile"⟩ → VerifiedModule build after) := by
  apply Ensures.bind
  apply ensures_present
  apply Ensures.ite
  · intro _
    apply Ensures.seq (ensures_optional_text (by decide))
    rintro option second ⟨toSecond, found⟩
    apply Ensures.bind
    apply ensures_dieUnlessIn
    intro known
    apply Ensures.bind
    apply ensures_dieIf
    intro vDSP
    apply ensures_dieIf
    intro fftw
    refine ⟨toSecond, fun _ => ⟨option, known, found, ?_, ?_⟩⟩
    · rintro rfl
      simpa using vDSP
    · rintro rfl
      simpa using fftw
  · intro filtered
    apply Ensures.pure
    refine ⟨.refl config, fun absent => ?_⟩
    rw [present_iff_isSome] at absent
    simp [absent] at filtered

theorem ensures_verifyMaximumVolumeMemory {config : PropertyTree} :
    Ensures verifyMaximumVolumeMemory config fun _ after => Completes config after ∧
      (Present config ⟨"Output", "VolumeFile"⟩ →
        Present after ⟨"Software", "MaximumVolumeMemory"⟩) := by
  apply Ensures.bind
  apply ensures_present
  apply Ensures.ite
  · intro _
    apply Ensures.seq (ensures_optional_text (by decide))
    rintro option second ⟨toSecond, found⟩
    apply Ensures.pure
    exact ⟨toSecond, fun _ => ⟨option, found⟩⟩
  · intro absent
    apply Ensures.pure
    exact ⟨.refl config, fun found => absurd (present_iff_isSome.mp found) absent⟩

theorem ensures_verifyReconstruction {arithmetic : DoubleArithmetic} {config : PropertyTree} :
    Ensures (verifyReconstruction arithmetic) config fun _ after => Completes config after ∧
      (Present config ⟨"Input", "RawProjectionsFile"⟩ → VerifiedRaw after) ∧
      (Present config ⟨"Output", "VolumeFile"⟩ →
        Chooses pixelInterpolations after ⟨"Reconstruction", "PixelInterpolation"⟩) ∧
      VerifiedSmoothing after := by
  apply Ensures.seq ensures_verifyRawProjections
  rintro _ second ⟨toSecond, raw⟩
  apply Ensures.seq ensures_verifyPixelInterpolation
  rintro _ third ⟨toThird, interpolation⟩
  apply Ensures.seq ensures_verifySmoothingFilter
  rintro _ fourth ⟨toFourth, smoothing⟩
  apply ensures_checkSection
  have late := toThird.trans toFourth
  refine ⟨toSecond.trans late, fun given => (raw given).completes late, fun given => ?_, smoothing⟩
  rw [← toSecond.present_iff (by decide)] at given
  exact toFourth.chooses (by decide) (interpolation given)

theorem ensures_verifySoftware {build : Build} {config : PropertyTree} :
    Ensures (verifySoftware build) config fun _ after => Completes config after ∧
      VerifiedEngine after ∧
      (Present config ⟨"Output", "VolumeFile"⟩ →
        Present after ⟨"Software", "MaximumVolumeMemory"⟩) ∧
      (¬ Present config ⟨"Input", "FilteredProjectionsFile"⟩ → VerifiedModule build after) := by
  apply Ensures.seq ensures_verifyEngine
  rintro _ second ⟨toSecond, engine⟩
  apply Ensures.seq ensures_verifyMaximumVolumeMemory
  rintro _ third ⟨toThird, memory⟩
  apply Ensures.seq ensures_verifyFilteringModule
  rintro _ fourth ⟨toFourth, module⟩
  apply ensures_checkSection
  have late := toThird.trans toFourth
  refine ⟨toSecond.trans late, engine.completes late, fun given => ?_, fun absent => ?_⟩
  · rw [← toSecond.present_iff (by decide)] at given
    exact toFourth.present (by decide) (memory given)
  · rw [← (toSecond.trans toThird).present_iff (by decide)] at absent
    exact module absent

/-! ## The whole configuration -/

/-- What holds of a verified configuration. -/
structure Verified (build : Build) (config : PropertyTree) : Prop where
  files : VerifiedFiles config
  projections : VerifiedProjections config
  volume : Present config ⟨"Output", "VolumeFile"⟩ → VerifiedVolume config
  raw : Present config ⟨"Input", "RawProjectionsFile"⟩ → VerifiedRaw config
  pixelInterpolation : Present config ⟨"Output", "VolumeFile"⟩ →
    Chooses pixelInterpolations config ⟨"Reconstruction", "PixelInterpolation"⟩
  smoothing : VerifiedSmoothing config
  engine : VerifiedEngine config
  maximumVolumeMemory : Present config ⟨"Output", "VolumeFile"⟩ →
    Present config ⟨"Software", "MaximumVolumeMemory"⟩
  filteringModule : ¬ Present config ⟨"Input", "FilteredProjectionsFile"⟩ →
    VerifiedModule build config

theorem VerifiedFiles.completes {before after : PropertyTree} (verified : VerifiedFiles before)
    (completes : Completes before after) : VerifiedFiles after where
  oneInput := by
    rw [completes.text_eq (by decide), completes.text_eq (by decide),
      completes.text_eq (by decide)]
    exact verified.oneInput
  attenuationOnce := by
    rw [completes.present_iff (by decide),
      completes.present_iff (by decide)]
    exact verified.attenuationOnce
  filteredOnce := by
    rw [completes.present_iff (by decide),
      completes.present_iff (by decide)]
    exact verified.filteredOnce
  filteredLast := by
    rw [completes.present_iff (by decide),
      completes.present_iff (by decide)]
    exact verified.filteredLast

theorem ensures_verify {arithmetic : DoubleArithmetic} {build : Build} {config : PropertyTree} :
    Ensures (verify arithmetic build) config fun _ after => Completes config after ∧
      Verified build after := by
  apply Ensures.seq ensures_verifyInput
  rintro _ _ ⟨rfl, oneInput⟩
  apply Ensures.seq ensures_verifyOutput
  rintro _ first ⟨rfl, attenuationOnce, filteredOnce, filteredLast⟩
  have files : VerifiedFiles first := ⟨oneInput, attenuationOnce, filteredOnce, filteredLast⟩
  apply Ensures.seq ensures_verifyProjections
  rintro ⟨projDims, pixelSize⟩ second ⟨toSecond, projections⟩
  apply Ensures.seq ensures_verifyVolume
  rintro _ third ⟨toThird, volume⟩
  apply Ensures.seq ensures_verifyReconstruction
  rintro _ fourth ⟨toFourth, raw, interpolation, smoothing⟩
  apply Ensures.seq ensures_verifySoftware
  rintro _ fifth ⟨toFifth, engine, memory, module⟩
  apply Ensures.bind
  apply Ensures.get
  apply ensures_checkForUnknown
  -- Which files there are is the same in all of these configurations.
  have fromSecond := toThird.trans (toFourth.trans toFifth)
  have fromThird := toFourth.trans toFifth
  refine ⟨toSecond.trans fromSecond, files.completes (toSecond.trans fromSecond),
    projections.completes fromSecond, fun given => ?_, fun given => ?_, fun given => ?_,
    smoothing.completes toFifth, engine, fun given => ?_, fun absent => ?_⟩
  · rw [fromSecond.present_iff (by decide)] at given
    exact (volume given).completes fromThird
  · rw [fromThird.present_iff (by decide)] at given
    exact (raw given).completes toFifth
  · rw [fromThird.present_iff (by decide)] at given
    exact toFifth.chooses (by decide) (interpolation given)
  · rw [toFifth.present_iff (by decide)] at given
    exact memory given
  · rw [toFifth.present_iff (by decide)] at absent
    exact module absent

/-- **The configuration that the verification leaves completes the one it was given, and
is verified.** -/
theorem verifyConfiguration_verified {arithmetic : DoubleArithmetic} {build : Build}
    {config verified : PropertyTree}
    (accepted : verifyConfiguration arithmetic build config = .ok verified) :
    Completes config verified ∧ Verified build verified := by
  unfold verifyConfiguration at accepted
  cases outcome : verify arithmetic build config with
  | error failure =>
    rw [outcome] at accepted
    cases accepted
  | ok left =>
    rw [outcome] at accepted
    cases accepted
    exact ensures_verify.of_ok left.1 left.2 outcome

end AthabascaRecon
