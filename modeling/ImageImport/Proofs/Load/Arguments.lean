import Mathlib.Data.List.Nodup
import Mathlib.Data.List.Perm.Basic
import ImageImport.Load.Option
import ImageImport.Proofs.Text.Numeral
import ImageImport.Proofs.Text.Pieces

/-!
Contract: what the arguments of a command line make of a list of options.

Arguments only ever give a value to an option that is there, and only one of its declared type. So
what else an option is stays as it is, whatever the arguments and wherever they are refused.

In the other direction, settings that are written out are read back: a flag, and the text of a value
behind it. The value may look like a flag itself, since it is taken before flags are looked for again.

Owns: what every list of arguments keeps, and the reading of written settings.
Does not own: which options a loader has.
-/

namespace ImageImport

/-- The text of a value is read back as the value, for an option of its type. -/
theorem OptionValue.readValue_text (flag : String) (value : OptionValue) :
    LoadOption.readValue flag value.text value.type = .ok value := by
  cases value with
  | bool b => cases b <;> rfl
  | int i => simp only [text, type, LoadOption.readValue, Text.readInt64?_decimalInt]
  | string s => rfl

namespace LoadOption

/-- All of an option but its value. -/
def signature (option : LoadOption) : String × OptionType × Option String :=
  (option.name, option.declaredType, option.flag)

/-- Whether every value is of the type that its option declares. -/
def WellTyped (options : List LoadOption) : Prop :=
  ∀ option ∈ options, option.value.type = option.declaredType

section Assigning

variable {options : List LoadOption} {option : LoadOption} {flag : String} {value : OptionValue}

theorem type_of_readValue {raw : String} {type : OptionType}
    (read : readValue flag raw type = .ok value) : value.type = type := by
  cases type with
  | bool =>
      simp only [readValue] at read
      split_ifs at read <;> exact Except.ok.inj read ▸ rfl
  | int =>
      simp only [readValue] at read
      split at read
      · exact Except.ok.inj read ▸ rfl
      · contradiction
  | string => exact Except.ok.inj read ▸ rfl

theorem map_signature_assign (flag : String) (value : OptionValue) (options : List LoadOption) :
    (assign flag value options).map signature = options.map signature := by
  induction options with
  | nil => rfl
  | cons first rest inductionHypothesis =>
      rw [assign]
      split
      · rfl
      · rw [List.map_cons, inductionHypothesis, List.map_cons]

/-- Only the first option with the flag gets the value. -/
theorem mem_assign_cases (member : option ∈ assign flag value options) :
    option ∈ options ∨ ∃ first, (options.find? fun option => option.flag == some flag) = some first ∧
      option = { first with value } := by
  induction options with
  | nil => exact .inl member
  | cons first rest inductionHypothesis =>
      rw [assign] at member
      by_cases isFlagged : first.flag = some flag
      · rw [if_pos isFlagged] at member
        rcases List.mem_cons.mp member with rfl | later
        · exact .inr ⟨first, List.find?_cons_of_pos (by simp [isFlagged]), rfl⟩
        · exact .inl (List.mem_cons_of_mem _ later)
      · rw [if_neg isFlagged] at member
        rw [List.find?_cons_of_neg (by simp [isFlagged])]
        rcases List.mem_cons.mp member with rfl | later
        · exact .inl List.mem_cons_self
        · exact (inductionHypothesis later).imp_left (List.mem_cons_of_mem _)

theorem WellTyped.assign (wellTyped : WellTyped options) {first : LoadOption}
    (found : (options.find? fun option => option.flag == some flag) = some first)
    (typed : value.type = first.declaredType) : WellTyped (assign flag value options) := by
  intro option member
  rcases mem_assign_cases member with before | ⟨changed, isFirst, rfl⟩
  · exact wellTyped option before
  · obtain rfl := Option.some.inj (found.symm.trans isFirst)
    exact typed

end Assigning

/-! ## Any arguments -/

section AnyArguments

variable {stem : String} {options : List LoadOption}

/-- What is kept when an option gets a value of its type is kept by all arguments, whether they are
taken to the end or refused on the way. -/
theorem kept_by_parseArguments {Holds : List LoadOption → Prop}
    (kept : ∀ {options flag value first}, Holds options →
      (options.find? fun option => option.flag == some flag) = some first →
      value.type = first.declaredType → Holds (assign flag value options))
    (arguments : List String) (holds : Holds options) :
    Holds (parseArguments stem arguments options).2 := by
  -- Of the six ways to go on, five leave the options alone, three of them with a refusal.
  fun_induction parseArguments stem arguments options with
  | case1 options => exact holds
  | case2 options flag rest passed inductionHypothesis => exact inductionHypothesis holds
  | case3 options flag rest isFlag unknown => exact holds
  | case4 options flag isFlag first found => exact holds
  | case5 options flag isFlag first found raw rest failure refused => exact holds
  | case6 options flag isFlag first found raw rest value read inductionHypothesis =>
      exact inductionHypothesis (kept holds found (type_of_readValue read))

theorem map_signature_parseArguments (stem : String) (arguments : List String)
    (options : List LoadOption) :
    (parseArguments stem arguments options).2.map signature = options.map signature :=
  @kept_by_parseArguments stem options (fun after => after.map signature = options.map signature)
    (fun same _ _ => (map_signature_assign _ _ _).trans same) arguments rfl

theorem WellTyped.parseArguments (wellTyped : WellTyped options) (stem : String)
    (arguments : List String) : WellTyped (parseArguments stem arguments options).2 :=
  kept_by_parseArguments (fun before found typed => before.assign found typed) arguments wellTyped

end AnyArguments

/-! ## Options known by one of their fields -/

/-- Where no two options have the same key, an option is found by its own. -/
theorem find?_of_distinct {κ : Type} [BEq κ] [LawfulBEq κ] {key : LoadOption → κ}
    {options : List LoadOption} {option : LoadOption} (distinct : (options.map key).Nodup)
    (member : option ∈ options) :
    (options.find? fun candidate => key candidate == key option) = some option := by
  have isSome : (options.find? fun candidate => key candidate == key option).isSome :=
    List.find?_isSome.mpr ⟨option, member, beq_self_eq_true _⟩
  obtain ⟨found, isFound⟩ := Option.isSome_iff_exists.mp isSome
  have sameKey : (key found == key option) = true :=
    @List.find?_some _ (fun candidate => key candidate == key option) _ _ isFound
  have same := List.inj_on_of_nodup_map distinct (List.mem_of_find?_eq_some isFound) member
    (eq_of_beq sameKey)
  rw [isFound, same]

theorem assign_eq_map {options : List LoadOption} (distinct : (options.map flag).Nodup)
    (own : String) (value : OptionValue) :
    assign own value options =
      options.map fun option => if option.flag = some own then { option with value } else option := by
  induction options with
  | nil => rfl
  | cons first rest inductionHypothesis =>
      obtain ⟨absent, restDistinct⟩ := List.nodup_cons.mp distinct
      rw [assign, List.map_cons]
      by_cases isOwn : first.flag = some own
      · have others : (rest.map fun option =>
            if option.flag = some own then { option with value } else option) = rest := by
          refine (List.map_congr_left fun option member => if_neg fun same => ?_).trans
            (List.map_id' rest)
          exact absent (isOwn.trans same.symm ▸ List.mem_map_of_mem member)
        rw [if_pos isOwn, if_pos isOwn, others]
      · rw [if_neg isOwn, if_neg isOwn, inductionHypothesis restDistinct]

/-! ## Written settings -/

/-- What a command line is written from: an argument that is none of the options' business, or a
setting, which is a flag with the text of a value behind it. -/
inductive Word where
  | passedOver (argument : String)
  | setting (flag : String) (value : OptionValue)

namespace Word

def arguments : Word → List String
  | .passedOver argument => [argument]
  | .setting flag value => [flag, value.text]

def setting? : Word → Option (Option String × OptionValue)
  | .passedOver _ => none
  | .setting flag value => some (some flag, value)

/-- An argument does not begin as flags do; a setting is for an option that there is, with a value of
its type. -/
def Fits (stem : String) (options : List LoadOption) : Word → Prop
  | .passedOver argument => ¬ stem.toList <+: argument.toList
  | .setting flag value =>
      ∃ option ∈ options, option.flag = some flag ∧ value.type = option.declaredType

instance {stem : String} {options : List LoadOption} (word : Word) :
    Decidable (word.Fits stem options) :=
  match word with
  | .passedOver argument => inferInstanceAs (Decidable (¬ stem.toList <+: argument.toList))
  | .setting flag value => inferInstanceAs (Decidable (∃ option ∈ options,
      option.flag = some flag ∧ value.type = option.declaredType))

end Word

/-- The values that settings give to the option of a flag, in order. -/
def valuesFor (flag : Option String) (settings : List (Option String × OptionValue)) :
    List OptionValue :=
  (settings.filter fun setting => setting.1 = flag).map Prod.snd

/-- The option with the last of the values that settings give to it; as it is if there is none. -/
def settle (settings : List (Option String × OptionValue)) (option : LoadOption) : LoadOption :=
  { option with value := (valuesFor option.flag settings).getLast?.getD option.value }

/-- Every option has a flag of its own, which begins as flags do. -/
structure Flagged (stem : String) (options : List LoadOption) : Prop where
  begins : ∀ option ∈ options, ∃ flag, option.flag = some flag ∧ stem.toList <+: flag.toList
  distinct : (options.map flag).Nodup

section Settings

variable {stem own : String} {options : List LoadOption} {option : LoadOption} {value : OptionValue}
  {words : List Word} {word : Word}

theorem settle_nil (option : LoadOption) : settle [] option = option := rfl

/-- Of two settings of one option, the later one counts. -/
theorem settle_cons (setting : Option String × OptionValue)
    (settings : List (Option String × OptionValue)) (option : LoadOption) :
    settle (setting :: settings) option = settle settings (settle [setting] option) := by
  by_cases isOwn : setting.1 = option.flag <;> simp [settle, valuesFor, isOwn, List.getLast?_cons]

theorem assign_eq_map_settle (flagged : Flagged stem options) (own : String) (value : OptionValue) :
    assign own value options = options.map (settle [(some own, value)]) := by
  rw [assign_eq_map flagged.distinct]
  refine List.map_congr_left fun option _ => ?_
  by_cases isOwn : option.flag = some own
  · simp [settle, valuesFor, isOwn]
  · simp [settle, valuesFor, isOwn, Ne.symm isOwn]

theorem Flagged.map_settle (flagged : Flagged stem options)
    (settings : List (Option String × OptionValue)) :
    Flagged stem (options.map (settle settings)) where
  begins := List.forall_mem_map.mpr flagged.begins
  distinct := by
    rw [List.map_map]
    exact flagged.distinct

theorem Word.Fits.map_settle (fits : word.Fits stem options)
    (settings : List (Option String × OptionValue)) :
    word.Fits stem (options.map (settle settings)) := by
  cases word with
  | passedOver argument => exact fits
  | setting flag value =>
      obtain ⟨option, member, isFlagged, typed⟩ := fits
      exact ⟨_, List.mem_map_of_mem member, isFlagged, typed⟩

theorem parseArguments_passedOver {argument : String}
    (passed : ¬ stem.toList <+: argument.toList) (rest : List String) (options : List LoadOption) :
    parseArguments stem (argument :: rest) options = parseArguments stem rest options := by
  have noFlag : Text.dropBeginning? stem.toList argument.toList = none := by
    rw [← Option.not_isSome_iff_eq_none, Option.isSome_iff_exists]
    rintro ⟨behind, dropped⟩
    exact passed ⟨behind, (Text.dropBeginning?_eq_some_iff.mp dropped).symm⟩
  rw [parseArguments, noFlag]
  rfl

/-- A setting of an option is taken, whatever its value looks like. -/
theorem parseArguments_setting (flagged : Flagged stem options) (member : option ∈ options)
    (isOwn : option.flag = some own) (typed : value.type = option.declaredType)
    (rest : List String) :
    parseArguments stem (own :: value.text :: rest) options =
      parseArguments stem rest (options.map (settle [(some own, value)])) := by
  obtain ⟨flag, isFlag, behind, begins⟩ := flagged.begins option member
  obtain rfl := Option.some.inj (isOwn.symm.trans isFlag)
  have dropped := Text.dropBeginning?_eq_some_iff.mpr begins.symm
  have found : (options.find? fun option => option.flag == some own) = some option := by
    rw [← isOwn]
    exact find?_of_distinct flagged.distinct member
  rw [parseArguments, dropped]
  simp only [Option.isNone_some, Bool.false_eq_true, if_false, found, ← typed,
    value.readValue_text, assign_eq_map_settle flagged]

/-- Arguments written from words are all taken, and settle every option. -/
theorem parseArguments_written (flagged : Flagged stem options)
    (fit : ∀ word ∈ words, word.Fits stem options) :
    parseArguments stem (words.flatMap Word.arguments) options =
      (.ok (), options.map (settle (words.filterMap Word.setting?))) := by
  -- A setting changes the options that the rest is read for, which stay flagged as they are.
  induction words generalizing options with
  | nil => exact congrArg (Prod.mk _) (List.map_id'' settle_nil options).symm
  | cons word rest inductionHypothesis =>
      obtain ⟨fits, restFit⟩ := List.forall_mem_cons.mp fit
      cases word with
      | passedOver argument =>
          have passed := parseArguments_passedOver fits (rest.flatMap Word.arguments) options
          exact passed.trans (inductionHypothesis flagged restFit)
      | setting own value =>
          obtain ⟨option, member, isOwn, typed⟩ := fits
          have taken := parseArguments_setting flagged member isOwn typed
            (rest.flatMap Word.arguments)
          have later := inductionHypothesis (flagged.map_settle [(some own, value)])
            fun word inRest => (restFit word inRest).map_settle _
          have settled : (fun option => settle (rest.filterMap Word.setting?)
              (settle [(some own, value)] option)) =
                settle ((some own, value) :: rest.filterMap Word.setting?) :=
            funext fun option => (settle_cons _ _ option).symm
          rw [List.map_map] at later
          exact taken.trans (later.trans (congrArg (fun f => (_, options.map f)) settled))

/-- A setting for each option, in any order, leaves each with the value that was meant for it. -/
theorem settle_of_perm (flagged : Flagged stem options) {assigned : LoadOption → OptionValue}
    {settings : List (Option String × OptionValue)}
    (permuted : settings.Perm (options.map fun option => (option.flag, assigned option)))
    (member : option ∈ options) :
    settle settings option = { option with value := assigned option } := by
  have own : options.filter (fun candidate => candidate.flag = option.flag) = [option] := by
    have same : ∀ candidate ∈ options,
        decide (candidate.flag = option.flag) = decide (candidate = option) := by
      intro candidate inOptions
      refine decide_eq_decide.mpr ⟨fun same => ?_, congrArg flag⟩
      exact List.inj_on_of_nodup_map flagged.distinct inOptions member same
    rw [List.filter_congr same, List.filter_eq,
      List.count_eq_one_of_mem (.of_map _ flagged.distinct) member]
    rfl
  have meant : valuesFor option.flag (options.map fun option => (option.flag, assigned option)) =
      [assigned option] := by
    rw [valuesFor, List.filter_map, List.map_map]
    exact congrArg _ own
  have onlyOne : valuesFor option.flag settings = [assigned option] :=
    List.perm_singleton.mp (meant ▸ (permuted.filter _).map _)
  rw [settle, onlyOne]
  rfl

/-- Written settings, with arguments between them that do not begin as flags do, are all taken, and
every option has the last of the values that they give to it. So one setting for each option, in any
order, sets every option to exactly the value that was meant for it. -/
theorem written_settings_are_read_back (flagged : Flagged stem options)
    (fit : ∀ word ∈ words, word.Fits stem options) :
    parseArguments stem (words.flatMap Word.arguments) options =
      (.ok (), options.map (settle (words.filterMap Word.setting?))) ∧
    ∀ assigned : LoadOption → OptionValue,
      (words.filterMap Word.setting?).Perm
        (options.map fun option => (option.flag, assigned option)) →
      parseArguments stem (words.flatMap Word.arguments) options =
        (.ok (), options.map fun option => { option with value := assigned option }) := by
  have written := parseArguments_written flagged fit
  refine ⟨written, fun assigned permuted => ?_⟩
  rw [written, List.map_congr_left fun option member => settle_of_perm flagged permuted member]

/-- A text that is itself a flag, the least integer, and one of two values for the same option. -/
theorem flag_is_read_back_as_a_text :
    let label : LoadOption := ⟨"Label", .string "", .string, some "-ld-label"⟩
    let offset : LoadOption := ⟨"Offset", .int 0, .int, some "-ld-offset"⟩
    let options := [label, offset]
    let words : List Word :=
      [.passedOver "fw.bin", .setting "-ld-offset" (.int Int64.minValue), .passedOver "ld",
        .setting "-ld-label" (.string "-ld-offset")]
    let repeated : Word := .setting "-ld-offset" (.int 7)
    let after := [{ label with value := .string "-ld-offset" },
      { offset with value := .int Int64.minValue }]
    words.flatMap Word.arguments =
        ["fw.bin", "-ld-offset", "-9223372036854775808", "ld", "-ld-label", "-ld-offset"] ∧
      parseArguments "-ld" (words.flatMap Word.arguments) options = (.ok (), after) ∧
      parseArguments "-ld" ((repeated :: words).flatMap Word.arguments) options = (.ok (), after) := by
  intro label offset options words repeated after
  have flagged : Flagged "-ld" options := by
    refine ⟨?_, by decide +kernel⟩
    exact List.forall_mem_cons.mpr ⟨⟨"-ld-label", rfl, by decide +kernel⟩,
      List.forall_mem_singleton.mpr ⟨"-ld-offset", rfl, by decide +kernel⟩⟩
  have fit : ∀ word ∈ repeated :: words, word.Fits "-ld" options := by decide +kernel
  have inOrder := written_settings_are_read_back flagged (List.forall_mem_cons.mp fit).2
  have lastCounts := written_settings_are_read_back flagged fit
  let assigned (option : LoadOption) : OptionValue :=
    if option.declaredType = .int then .int Int64.minValue else .string "-ld-offset"
  refine ⟨by decide +kernel, ?_, ?_⟩
  · exact inOrder.2 assigned (.swap _ _ _)
  · exact lastCounts.1

end Settings

end LoadOption

end ImageImport
