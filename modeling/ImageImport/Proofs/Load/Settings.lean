import ImageImport.Proofs.Load.Arguments
import ImageImport.Proofs.Load.Extract

/-!
Contract: the options of the binary loader, whatever a command line has made of them.

Validation and the readers of options look at different fields: one at names and declared types, the
others at names and values. They agree because a list that comes from the defaults keeps all but the
values, and its values keep to the declared types; names that are all different do the rest.

Owns: what validation accepts, `Configured`, and what the readers make of configured options.
Does not own: options that do not come from the defaults.
-/

namespace ImageImport

namespace OptionValue

variable {value : OptionValue}

theorem type_eq_bool_iff : value.type = .bool ↔ ∃ b, value = .bool b := by
  cases value <;> simp [type]

theorem type_eq_int_iff : value.type = .int ↔ ∃ i, value = .int i := by
  cases value <;> simp [type]

end OptionValue

namespace LoadOption

variable {options before : List LoadOption} {option : LoadOption}
  {typeOf? : String → Option OptionType}

/-- Whether the options declare the types that their names ask for. -/
def DeclareAsAsked (typeOf? : String → Option OptionType) (options : List LoadOption) : Prop :=
  ∀ option ∈ options, ∀ type, typeOf? option.name = some type → option.declaredType = type

theorem firstComplaint?_eq_none_iff :
    firstComplaint? typeOf? options = none ↔ DeclareAsAsked typeOf? options := by
  rw [firstComplaint?, Option.map_eq_none_iff, List.find?_eq_none]
  refine forall₂_congr fun option _ => ?_
  cases typeOf? option.name with
  | none => simp
  | some type => simp

theorem validate_eq_ok_iff : validate options = .ok () ↔ DeclareAsAsked knownType? options := by
  rw [← firstComplaint?_eq_none_iff, validate]
  cases firstComplaint? knownType? options <;> simp

/-- Lists of the same signatures have options that agree in all but their values. -/
theorem exists_original (same : options.map signature = before.map signature)
    (member : option ∈ options) : ∃ original ∈ before, original.signature = option.signature := by
  have inSignatures : option.signature ∈ before.map signature :=
    same ▸ List.mem_map_of_mem member
  exact List.mem_map.mp inSignatures

theorem DeclareAsAsked.of_signatures (declare : DeclareAsAsked typeOf? before)
    (same : options.map signature = before.map signature) : DeclareAsAsked typeOf? options := by
  intro option member type asked
  obtain ⟨original, inBefore, agree⟩ := exists_original same member
  have sameName : original.name = option.name := congrArg Prod.fst agree
  have sameType : original.declaredType = option.declaredType :=
    congrArg (fun signature => signature.2.1) agree
  rw [← sameType]
  exact declare original inBefore type (sameName ▸ asked)

/-- A boolean option is read as it is set, without recourse to a default. -/
theorem booleanValue_of_mem (distinct : (options.map name).Nodup) (member : option ∈ options)
    {value : Bool} (isBool : option.value = .bool value) (fallback : Bool) :
    booleanValue option.name options fallback = value := by
  simp [booleanValue, find?_of_distinct distinct member, isBool, OptionValue.asBool?]

end LoadOption

namespace BinaryLoader

open LoadOption

variable {config : Config} {isLoadInto : Bool} {options : List LoadOption} {option : LoadOption}

theorem validateOptions_eq_ok_iff :
    validateOptions options = .ok () ↔
      DeclareAsAsked knownType? options ∧ DeclareAsAsked ownType? options := by
  rw [← validate_eq_ok_iff, ← firstComplaint?_eq_none_iff, validateOptions]
  cases validate options with
  | error complaint => simp
  | ok done => cases firstComplaint? ownType? options <;> simp

/-! ## The defaults -/

theorem defaultOptions_eq (config : Config) (isLoadInto : Bool) :
    defaultOptions config isLoadInto =
      [boolean applyLabelsName config.labels.apply (config.naming.flagStem ++ "-applyLabels"),
        boolean anchorLabelsName config.labels.anchor
          (config.naming.flagStem ++ "-anchorLabels")] ++
      if isLoadInto then []
      else
        [⟨baseAddressName, .int 0, .int, some (config.naming.flagStem ++ "-baseAddr")⟩,
          boolean entryFunctionName false (config.naming.flagStem ++ "-entryFunction")] := by
  cases isLoadInto <;> rfl

theorem nodup_names_defaultOptions (config : Config) (isLoadInto : Bool) :
    ((defaultOptions config isLoadInto).map name).Nodup := by
  cases isLoadInto with
  | false =>
      show [applyLabelsName, anchorLabelsName, baseAddressName, entryFunctionName].Nodup
      decide
  | true =>
      show [applyLabelsName, anchorLabelsName].Nodup
      decide

theorem wellTyped_defaultOptions (config : Config) (isLoadInto : Bool) :
    WellTyped (defaultOptions config isLoadInto) := by
  rw [defaultOptions_eq]
  cases isLoadInto <;> simp [WellTyped, boolean, OptionValue.type]

theorem declareAsAsked_defaultOptions (config : Config) (isLoadInto : Bool) :
    DeclareAsAsked knownType? (defaultOptions config isLoadInto) ∧
      DeclareAsAsked ownType? (defaultOptions config isLoadInto) := by
  rw [← validateOptions_eq_ok_iff]
  cases isLoadInto <;> rfl

/-! ## Configured options -/

/-- Options that differ from the defaults in their values alone, each of its declared type. -/
structure Configured (config : Config) (isLoadInto : Bool) (options : List LoadOption) : Prop where
  signatures : options.map signature = (defaultOptions config isLoadInto).map signature
  wellTyped : WellTyped options

theorem configured_parseArguments (config : Config) (isLoadInto : Bool) (stem : String)
    (arguments : List String) :
    Configured config isLoadInto
      (parseArguments stem arguments (defaultOptions config isLoadInto)).2 where
  signatures := map_signature_parseArguments stem arguments _
  wellTyped := (wellTyped_defaultOptions config isLoadInto).parseArguments stem arguments

namespace Configured

theorem nodup_names (configured : Configured config isLoadInto options) :
    (options.map name).Nodup := by
  have names : options.map name = (defaultOptions config isLoadInto).map name := by
    have projected := congrArg (List.map Prod.fst) configured.signatures
    rwa [List.map_map, List.map_map] at projected
  exact names ▸ nodup_names_defaultOptions config isLoadInto

theorem declareAsAsked (configured : Configured config isLoadInto options) :
    DeclareAsAsked knownType? options ∧ DeclareAsAsked ownType? options := by
  obtain ⟨known, own⟩ := declareAsAsked_defaultOptions config isLoadInto
  exact ⟨known.of_signatures configured.signatures, own.of_signatures configured.signatures⟩

/-- The base is an integer, whatever it was set to. -/
theorem exists_base (configured : Configured config isLoadInto options) (member : option ∈ options)
    (isBase : option.name = baseAddressName) : ∃ value, option.value = .int value := by
  have isInt : option.declaredType = .int :=
    configured.declareAsAsked.2 option member .int (by rw [isBase]; rfl)
  exact OptionValue.type_eq_int_iff.mp ((configured.wellTyped option member).trans isInt)

theorem baseOffset_fails_iff (configured : Configured config isLoadInto options) :
    (∃ failure, baseOffset options = .error failure) ↔
      ∃ option ∈ options, option.name = baseAddressName ∧
        ∃ value, option.value = .int value ∧ value.toInt < 0 := by
  constructor
  · rintro ⟨failure, fails⟩
    rcases asks_or_refused options with ⟨base, asks⟩ | ⟨option, found, refused⟩
    · rw [baseOffset_of_asks asks] at fails
      contradiction
    · have member := List.mem_of_find?_eq_some found
      have isBase : option.name = baseAddressName := eq_of_beq (List.find?_some found :)
      obtain ⟨value, isInt⟩ := configured.exists_base member isBase
      exact ⟨option, member, isBase, value, isInt, refused value isInt⟩
  · rintro ⟨option, member, isBase, value, isInt, negative⟩
    have found := find?_of_distinct configured.nodup_names member
    rw [isBase] at found
    have refused : ∀ other, option.value = .int other → other.toInt < 0 := by
      intro other same
      obtain rfl := OptionValue.int.inj (isInt.symm.trans same)
      exact negative
    obtain ⟨reason, fails⟩ := baseOffset_of_refused found refused
    exact ⟨_, fails⟩

end Configured

/-- After any arguments, taken to the end or refused on the way, the options are the defaults in
their order with other values, each of its declared type. They are valid, a boolean option is read as
it is set whatever the default, and the base cannot be read exactly if it is negative. -/
theorem options_agree_after_any_arguments (config : Config) (isLoadInto : Bool)
    (arguments : List String) :
    let initial := defaultOptions config isLoadInto
    let options := (parseArguments config.naming.flagStem arguments initial).2
    options.map signature = initial.map signature ∧
      (∀ option ∈ options, option.value.type = option.declaredType) ∧
      validateOptions options = .ok () ∧
      (∀ option ∈ options, option.declaredType = .bool → ∃ value, option.value = .bool value ∧
        ∀ fallback, booleanValue option.name options fallback = value) ∧
      ((∃ failure, baseOffset options = .error failure) ↔
        ∃ option ∈ options, option.name = baseAddressName ∧
          ∃ value, option.value = .int value ∧ value.toInt < 0) := by
  intro initial options
  have configured : Configured config isLoadInto options :=
    configured_parseArguments config isLoadInto config.naming.flagStem arguments
  refine ⟨configured.signatures, configured.wellTyped,
    validateOptions_eq_ok_iff.mpr configured.declareAsAsked, fun option member isBool => ?_,
    configured.baseOffset_fails_iff⟩
  obtain ⟨value, given⟩ :=
    OptionValue.type_eq_bool_iff.mp ((configured.wellTyped option member).trans isBool)
  exact ⟨value, given, booleanValue_of_mem configured.nodup_names member given⟩

end BinaryLoader

end ImageImport
