import ImageImport.Proofs.Table.Requests

/-!
Contract: the labels of a program after those of its target processor were created.

Owns: what a language and the options of a load ask for, in their own terms, and the state of a
program that it is asked of.
Does not own: a second labelling, and two labellings under other options.
-/

namespace ImageImport

/-- The first option of that name is true, or not boolean, or there is none. -/
def LoadOption.Granted (name : String) (options : List LoadOption) : Prop :=
  ∀ option, options.find? (fun option => option.name == name) = some option →
    option.value ≠ .bool false

theorem LoadOption.booleanValue_eq_true_iff {name : String} {options : List LoadOption} :
    booleanValue name options true = true ↔ Granted name options := by
  unfold booleanValue Granted
  cases options.find? fun option => option.name == name with
  | none => simp
  | some option =>
      obtain ⟨-, value, -, -⟩ := option
      cases value with
      | bool value => cases value <;> simp [OptionValue.asBool?]
      | int value => simp [OptionValue.asBool?]
      | string value => simp [OptionValue.asBool?]

namespace Language

/-- A register of that name lies in memory at the address. -/
def HasRegister (language : Language) (address : Address) (name : String) : Prop :=
  ∃ register ∈ language.registers,
    register.isMemoryMapped = true ∧ register.address = address ∧ register.name = name

/-- A default label of that name is for the address. -/
def HasLabel (language : Language) (address : Address) (name : String) : Prop :=
  ∃ label ∈ language.labels, label.address = address ∧ label.label = name

/-- Whether a default label, after earlier ones, is created in a table: its name is valid, and
neither a label that is there nor a register in memory nor an earlier default label has it at that
address. -/
def Creates (language : Language) (table : SymbolTable) (earlier : List DefaultLabel)
    (label : DefaultLabel) : Prop :=
  Symbol.ValidName label.label ∧
    (∀ other ∈ table.symbolsAt label.address, other.name ≠ label.label) ∧
    ¬ language.HasRegister label.address label.label ∧
    ∀ other ∈ earlier, ¬ (other.address = label.address ∧ other.label = label.label)

end Language

namespace Program

open LoadOption LabelRequest

/-- The request of a register in memory. -/
def requestOfRegister (register : Register) : LabelRequest :=
  ⟨register.name, register.address, false, true, true⟩

/-- The request of a default label. -/
def requestOfLabel (anchor : Bool) (label : DefaultLabel) : LabelRequest :=
  ⟨label.label, label.address, label.isEntry, label.isPrimary, anchor⟩

section Asking

variable {language : Language} {options : List LoadOption} {request : LabelRequest}
  {table : SymbolTable}

theorem labelRequests_eq (language : Language) (options : List LoadOption) :
    labelRequests language options =
      (language.registers.filter Register.isMemoryMapped).map requestOfRegister ++
        if booleanValue applyLabelsName options true then
          language.labels.map (requestOfLabel (booleanValue anchorLabelsName options true))
        else [] := by
  unfold labelRequests
  cases booleanValue applyLabelsName options true with
  | true => rfl
  | false => exact (List.append_nil _).symm

/-- A label is asked for by a register in memory, or by a default label if these are granted. -/
theorem exists_request_iff {address : Address} {name : String} :
    (∃ request ∈ labelRequests language options,
        request.address = address ∧ request.name = name) ↔
      language.HasRegister address name ∨
        Granted applyLabelsName options ∧ language.HasLabel address name := by
  rw [labelRequests_eq, ← booleanValue_eq_true_iff]
  cases booleanValue applyLabelsName options true with
  | true =>
      simp [or_and_right, exists_or, requestOfRegister, requestOfLabel, Language.HasRegister,
        Language.HasLabel, and_assoc]
  | false => simp [requestOfRegister, Language.HasRegister, and_assoc]

theorem same_requestOfRegister_iff {address : Address} {name : String} :
    (∃ other ∈ (language.registers.filter Register.isMemoryMapped).map requestOfRegister,
        other.address = address ∧ other.name = name) ↔ language.HasRegister address name := by
  simp [requestOfRegister, Language.HasRegister, and_assoc]

/-- The request of a default label, behind those of the registers and of earlier default labels,
adds it exactly if the language creates it there. -/
theorem adds_requestOfLabel_iff {anchor : Bool} {earlier : List DefaultLabel}
    {label : DefaultLabel} :
    (requestOfLabel anchor label).Adds table
        ((language.registers.filter Register.isMemoryMapped).map requestOfRegister ++
          earlier.map (requestOfLabel anchor)) ↔
      language.Creates table earlier label := by
  unfold Adds Language.Creates
  refine and_congr_right fun _ => and_congr_right fun _ => ?_
  rw [List.forall_mem_append, ← same_requestOfRegister_iff, not_exists]
  refine and_congr ?_ ?_
  · simp [Same, requestOfLabel]
  · simp [Same, requestOfLabel]

/-- An item of two lists is one of the first, or stands in the second behind all of the first. -/
theorem mem_or_behind {α : Type} {left right before after : List α} {item : α}
    (split : left ++ right = before ++ item :: after) :
    item ∈ left ∨ ∃ behind, before = left ++ behind ∧ right = behind ++ item :: after := by
  rcases List.append_eq_append_iff.mp split with ⟨behind, isBefore, rest⟩ | ⟨back, rfl, rest⟩
  · exact .inr ⟨behind, isBefore, rest⟩
  · cases back with
    | nil => exact .inr ⟨[], by simp, rest.symm⟩
    | cons first others =>
        obtain ⟨rfl, -⟩ := List.cons.inj rest
        exact .inl (by simp)

/-- A request that adds a label is one of a register in memory, or that of a default label which is
granted and created. -/
theorem mem_added_cases (member : request ∈ added table (labelRequests language options)) :
    (∃ register ∈ language.registers,
        register.isMemoryMapped = true ∧ request = requestOfRegister register) ∨
      Granted applyLabelsName options ∧ ∃ earlier label later,
        language.labels = earlier ++ label :: later ∧
        request = requestOfLabel (booleanValue anchorLabelsName options true) label ∧
        language.Creates table earlier label := by
  obtain ⟨before, after, split, adds⟩ := mem_added_iff.mp member
  rw [labelRequests_eq] at split
  rcases mem_or_behind split with ofRegister | ⟨behind, rfl, rest⟩
  · obtain ⟨register, inFilter, rfl⟩ := List.mem_map.mp ofRegister
    obtain ⟨declared, mapped⟩ := List.mem_filter.mp inFilter
    exact .inl ⟨register, declared, mapped, rfl⟩
  · by_cases granted : booleanValue applyLabelsName options true = true
    · rw [if_pos granted] at rest
      obtain ⟨earlier, others, labels, rfl, requests⟩ := List.map_eq_append_iff.mp rest
      obtain ⟨label, later, rfl, rfl, -⟩ := List.map_eq_cons_iff.mp requests
      exact .inr ⟨booleanValue_eq_true_iff.mp granted, earlier, label, later, labels, rfl,
        adds_requestOfLabel_iff.mp adds⟩
    · rw [if_neg granted] at rest
      simp at rest

/-- A default label that is granted and created is added. -/
theorem mem_added_of_creates {earlier later : List DefaultLabel} {label : DefaultLabel}
    (granted : Granted applyLabelsName options)
    (split : language.labels = earlier ++ label :: later)
    (creates : language.Creates table earlier label) :
    requestOfLabel (booleanValue anchorLabelsName options true) label ∈
      added table (labelRequests language options) := by
  rw [mem_added_iff, labelRequests_eq, if_pos (booleanValue_eq_true_iff.mpr granted), split,
    List.map_append, List.map_cons, ← List.append_assoc]
  exact ⟨_, _, rfl, adds_requestOfLabel_iff.mpr creates⟩

/-- An added label is pinned if a register asks for it, and otherwise as the options say. -/
theorem isPinned_iff_of_mem_added
    (member : request ∈ added table (labelRequests language options)) :
    request.isPinned = true ↔ language.HasRegister request.address request.name ∨
      Granted anchorLabelsName options := by
  rcases mem_added_cases member with ⟨register, declared, mapped, rfl⟩ |
    ⟨-, earlier, label, later, -, rfl, creates⟩
  · exact iff_of_true rfl (.inl ⟨register, declared, mapped, rfl, rfl⟩)
  · obtain ⟨-, -, noRegister, -⟩ := creates
    rw [← booleanValue_eq_true_iff]
    exact (or_iff_right noRegister).symm

/-- Of the added labels, those make their address an entry point that are created for a default
label which is one. -/
theorem exists_added_entry_iff {address : Address} :
    (∃ request ∈ added table (labelRequests language options),
        request.isEntry = true ∧ request.address = address) ↔
      Granted applyLabelsName options ∧ ∃ earlier label later,
        language.labels = earlier ++ label :: later ∧ language.Creates table earlier label ∧
        label.isEntry = true ∧ label.address = address := by
  constructor
  · rintro ⟨request, member, isEntry, sameAddress⟩
    rcases mem_added_cases member with ⟨register, -, -, rfl⟩ |
      ⟨granted, earlier, label, later, split, rfl, creates⟩
    · contradiction
    · exact ⟨granted, earlier, label, later, split, creates, isEntry, sameAddress⟩
  · rintro ⟨granted, earlier, label, later, split, creates, isEntry, sameAddress⟩
    exact ⟨_, mem_added_of_creates granted split creates, isEntry, sameAddress⟩

end Asking

/-- What labelling makes of the labels of a program. -/
structure Relabelled (language : Language) (options : List LoadOption)
    (before after : SymbolTable) : Prop where
  wellFormed : after.WellFormed
  /-- The labels that were there stay, but for the mark of the primary one, and behind them stand
  those that are added, in the order in which they are asked for. -/
  symbolsAt_eq : ∀ address, after.symbolsAt address = labelsAfter (before.symbolsAt address)
    (addedAt before (labelRequests language options) address)
  /-- What is added was asked for by a register, which wants its label primary and pinned, or by a
  default label. -/
  added_cases : ∀ request ∈ added before (labelRequests language options),
    (∃ register ∈ language.registers,
        register.isMemoryMapped = true ∧ request = requestOfRegister register) ∨
      Granted applyLabelsName options ∧ ∃ earlier label later,
        language.labels = earlier ++ label :: later ∧
        request = requestOfLabel (booleanValue anchorLabelsName options true) label ∧
        language.Creates before earlier label
  /-- A label is added for each address and valid name that is asked for and not there yet. -/
  added_iff : ∀ address name,
    (∃ request ∈ added before (labelRequests language options),
        request.address = address ∧ request.name = name) ↔
      Symbol.ValidName name ∧ (∀ other ∈ before.symbolsAt address, other.name ≠ name) ∧
        (language.HasRegister address name ∨
          Granted applyLabelsName options ∧ language.HasLabel address name)
  added_once : (added before (labelRequests language options)).Pairwise
    fun left right => ¬ left.Same right
  pinned_iff : ∀ request ∈ added before (labelRequests language options),
    request.isPinned = true ↔ language.HasRegister request.address request.name ∨
      Granted anchorLabelsName options
  /-- The last added label that is to be primary is it, or else the one that was, or the first. -/
  primary_eq : ∀ address, (after.primary? address).map Symbol.name =
    primaryName? (before.symbolsAt address)
      (addedAt before (labelRequests language options) address)
  entries_iff : ∀ address, after.isEntryPoint address = true ↔
    before.isEntryPoint address = true ∨
      Granted applyLabelsName options ∧ ∃ earlier label later,
        language.labels = earlier ++ label :: later ∧ language.Creates before earlier label ∧
        label.isEntry = true ∧ label.address = address

/-- An open program is labelled without failure, in a transaction or not. Its symbols are those from
before with what its language and the options ask for, and it counts as not analyzed; of the rest of
its state nothing changes, and no transaction is left behind. -/
theorem applyProcessorLabels_adds_what_is_new {program : Program}
    (isOpen : program.isClosed = false)
    (nested : ∀ nest, program.transaction = some nest → nest.nest ≠ [])
    (wellFormed : program.symbols.WellFormed) (options : List LoadOption) :
    let done := (applyProcessorLabels options).apply program
    done.1 = .ok () ∧
    done.2.state = { program.state with symbols := done.2.symbols, isAnalyzed := false } ∧
    Relabelled program.language options program.symbols done.2.symbols ∧
    (program.transaction = none → done.2.transaction = none) := by
  intro done
  have state_eq : done.2.state = program.labelledState options :=
    state_of_applyProcessorLabels isOpen nested options
  have symbols_eq : done.2.symbols =
      (labelRequests program.language options).foldl carryOut program.symbols := by
    rw [symbols, state_eq]
    rfl
  obtain ⟨state, transaction, nextTransaction, deliveries, labelled, idle⟩ :=
    applyProcessorLabels_of_isOpen isOpen options
  have requested := requested_of_requests wellFormed (labelRequests program.language options)
  rw [← symbols_eq] at requested
  refine ⟨congrArg Prod.fst labelled, ?_, ?_, fun wasIdle => ?_⟩
  · rw [state_eq, symbols_eq]
    rfl
  · refine ⟨requested.wellFormed, requested.symbolsAt_eq, fun request => mem_added_cases,
      fun address name => ?_, added_pairwise _ _, fun request => isPinned_iff_of_mem_added,
      fun address => ?_, fun address => ?_⟩
    · rw [exists_added_iff, exists_request_iff]
    · rw [SymbolTable.primary?, requested.symbolsAt_eq, find?_isPrimary_labelsAfter]
    · rw [requested.entries, exists_added_entry_iff]
  · have after : done.2 = { program with state, transaction, nextTransaction, deliveries } :=
      congrArg Prod.snd labelled
    rw [after]
    exact idle wasIdle

/-- Two registers and three default labels at an address that has two labels already: one of the
registers is there, a default label is a register's, one has a bad name, and one that is to be
primary and an entry comes last. A register that is not in memory is passed over. -/
theorem reset_address_is_relabelled :
    let ram : AddressSpace := ⟨"ram", .ram, 16, none⟩
    let reset : Address := ⟨"ram", .ram, 0, 16, none⟩
    let language : Language := { Language.make "target" ram with
      registers := [⟨"r0", 8, .general, { reset with kind := .register }⟩,
        ⟨"SREG", 8, .flags, reset⟩, ⟨"SP", 8, .special, reset⟩]
      labels := [⟨"SP", reset, true, false⟩, ⟨"bad name", reset, true, true⟩,
        ⟨"RESET", reset, true, true⟩] }
    let start : Symbol := ⟨"start", reset, Symbol.globalScope, .userDefined, false, false⟩
    let sreg : Symbol := ⟨"SREG", reset, Symbol.globalScope, .userDefined, true, false⟩
    let table : SymbolTable := ⟨⟨[(reset, [start, sreg])]⟩, .empty⟩
    let made := make "image" language "default" ⟨1⟩
    let program := { made with state := { made.state with symbols := table } }
    let options := [boolean anchorLabelsName false "-anchor"]
    let done := (applyProcessorLabels options).apply program
    program.isClosed = false ∧ program.transaction = none ∧ program.symbols.WellFormed ∧
      Relabelled language options program.symbols done.2.symbols ∧ done.1 = .ok () ∧
      (done.2.symbols.symbolsAt reset).map (fun symbol =>
        (symbol.name, symbol.isPrimary, symbol.isPinned)) =
        [("start", false, false), ("SREG", false, false), ("SP", false, true),
          ("RESET", true, false)] ∧
      done.2.symbols.entryPoints.keys = [reset] := by
  intro ram reset language start sreg table made program options done
  have sound : SymbolTable.SoundAt reset [start, sreg] :=
    ⟨by decide, by decide, by decide, by decide, by decide⟩
  have wellFormed : program.symbols.WellFormed := by
    refine ⟨List.pairwise_singleton _ _, fun {address labels} found => ?_⟩
    obtain ⟨rfl, rfl⟩ : address = reset ∧ labels = [start, sreg] := by
      simpa [program, symbols, table] using SortedMap.mem_entries_of_get? found
    exact sound
  obtain ⟨succeeded, -, relabelled, -⟩ :=
    applyProcessorLabels_adds_what_is_new (show program.isClosed = false from rfl) nofun wellFormed
      options
  exact ⟨rfl, rfl, wellFormed, relabelled, succeeded, by decide +kernel, by decide +kernel⟩

end Program

end ImageImport
