import ImageImport.Proofs.Program.Relabelling
import ImageImport.Proofs.Table.Pins

/-!
Contract: a program that is labelled twice, and a program that is labelled with and without anchors.

A second labelling finds every name taken that it asks for. Two labellings that differ in the anchor
option make requests that differ in their pins, and only for default labels. Nothing is asked here of
the labels that a program has before, but that their addresses stand in order, as they do in any
table.

Owns: the state after a second labelling, and the pins of the labels under either option.
Does not own: which labels a labelling adds.
-/

namespace ImageImport

/-- The state with no label pinned, and the same otherwise. -/
def ProgramState.unpinned (state : ProgramState) : ProgramState :=
  { state with symbols := state.symbols.unpinned }

namespace Program

open LoadOption LabelRequest

variable {program : Program} {options : List LoadOption}

/-- An open program that is labelled twice has the state that it has after the first time, whatever
labels it had and in whatever order its language names more. But for the number of the next
transaction, the changes to be told of and what listeners were told, nothing of the program is
different either. -/
theorem applyProcessorLabels_again (isOpen : program.isClosed = false)
    (nested : ∀ nest, program.transaction = some nest → nest.nest ≠ [])
    (ordered : program.symbols.labels.Ordered) (options : List LoadOption) :
    let once := (applyProcessorLabels options).apply program
    let twice := (applyProcessorLabels options).apply once.2
    once.1 = .ok () ∧ twice.1 = .ok () ∧ twice.2.state = once.2.state ∧
    ∃ transaction nextTransaction deliveries,
      twice.2 = { once.2 with transaction, nextTransaction, deliveries } ∧
      transaction.map OpenTransaction.nest = once.2.transaction.map OpenTransaction.nest := by
  intro once twice
  obtain ⟨transaction, deliveries, first, sameNest⟩ :=
    applyProcessorLabels_eq isOpen nested options
  let labelled := { program with
    state := program.labelledState options, transaction
    nextTransaction := program.nextTransaction + 1, deliveries }
  have labelledOpen : labelled.isClosed = false := isOpen
  have labelledNested : ∀ nest, labelled.transaction = some nest → nest.nest ≠ [] := by
    intro nest held
    have entries : program.transaction.map OpenTransaction.nest = some nest.nest := by
      rw [← sameNest, show transaction = some nest from held, Option.map_some]
    obtain ⟨outer, outerHeld, sameEntries⟩ := Option.map_eq_some_iff.mp entries
    exact sameEntries ▸ nested outer outerHeld
  obtain ⟨transaction', deliveries', second, sameNest'⟩ :=
    applyProcessorLabels_eq labelledOpen labelledNested options
  have unchanged : labelled.labelledState options = labelled.state :=
    congrArg (fun symbols => { program.state with symbols, isAnalyzed := false })
      (foldl_carryOut_again ordered (labelRequests program.language options))
  rw [unchanged] at second
  have onceIs : once.2 = labelled := congrArg Prod.snd first
  have twiceIs : twice = (.ok (), { labelled with
      transaction := transaction', nextTransaction := labelled.nextTransaction + 1
      deliveries := deliveries' }) := by
    rw [← second, ← onceIs]
  rw [twiceIs, onceIs]
  exact ⟨congrArg Prod.fst first, rfl, rfl, _, _, _, rfl, sameNest'⟩

/-- Two registers and three default labels share an address that has two labels already, both marked
as primary, and one of them under a name that is none. -/
theorem crowded_address_is_labelled_once :
    let ram : AddressSpace := ⟨"ram", .ram, 16, none⟩
    let status : Address := ⟨"ram", .ram, 0x5f, 16, none⟩
    let language : Language := { Language.make "target" ram with
      registers := [⟨"SREG", 8, .flags, status⟩, ⟨"SP", 8, .special, status⟩]
      labels := [⟨"SP", status, true, false⟩, ⟨"RESET", status, true, true⟩,
        ⟨"RESET", status, false, true⟩] }
    let label (name : String) : Symbol :=
      ⟨name, status, Symbol.globalScope, .userDefined, true, false⟩
    let table : SymbolTable := ⟨⟨[(status, [label "SP", label "bad name"])]⟩, .empty⟩
    let made := make "image" language "default" ⟨1⟩
    let program := { made with state := { made.state with symbols := table } }
    let once := (applyProcessorLabels []).apply program
    let twice := (applyProcessorLabels []).apply once.2
    program.isClosed = false ∧ program.transaction = none ∧
      program.symbols.labels.Ordered ∧ twice.2.state = once.2.state ∧
      (once.2.symbols.symbolsAt status).map (fun symbol => (symbol.name, symbol.isPrimary)) =
        [("SP", false), ("bad name", false), ("SREG", false), ("RESET", true)] := by
  intro ram status language label table made program once twice
  have ordered : program.symbols.labels.Ordered := List.pairwise_singleton _ _
  obtain ⟨-, -, unchanged, -⟩ :=
    applyProcessorLabels_again (show program.isClosed = false from rfl) nofun ordered []
  exact ⟨rfl, rfl, ordered, unchanged, by decide +kernel⟩

/-! ## With and without anchors -/

section Anchors

variable {language : Language} {table : SymbolTable} {address : Address} {name : String}

/-- The requests of the registers in memory. -/
def registerRequests (language : Language) : List LabelRequest :=
  (language.registers.filter Register.isMemoryMapped).map requestOfRegister

/-- The requests of the default labels, if these are granted. -/
def defaultRequests (language : Language) (options : List LoadOption) : List LabelRequest :=
  if booleanValue applyLabelsName options true then
    language.labels.map (requestOfLabel (booleanValue anchorLabelsName options true))
  else []

theorem labelRequests_eq_append (language : Language) (options : List LoadOption) :
    labelRequests language options =
      registerRequests language ++ defaultRequests language options :=
  labelRequests_eq language options

/-- The names at an address of the labels that registers add to a table. -/
def registerNames (language : Language) (table : SymbolTable) (address : Address) : List String :=
  (addedAt table (registerRequests language) address).map LabelRequest.name

/-- The names at an address of the default labels that are added to a table after those of the
registers. -/
def defaultNames (language : Language) (options : List LoadOption) (table : SymbolTable)
    (address : Address) : List String :=
  ((addedAfter table (registerRequests language) (defaultRequests language options)).filter
    fun request => request.address = address).map LabelRequest.name

theorem isPinned_of_mem_registerRequests {request : LabelRequest}
    (member : request ∈ registerRequests language) : request.isPinned = true := by
  obtain ⟨register, -, rfl⟩ := List.mem_map.mp member
  rfl

theorem isPinned_of_mem_defaultRequests {request : LabelRequest}
    (member : request ∈ defaultRequests language options) :
    request.isPinned = booleanValue anchorLabelsName options true := by
  unfold defaultRequests at member
  split at member
  · obtain ⟨label, -, rfl⟩ := List.mem_map.mp member
    rfl
  · contradiction

theorem map_nameAndPin {requests : List LabelRequest} {pin : Bool}
    (pinned : ∀ request ∈ requests, request.isPinned = pin) :
    requests.map (fun request => (request.name, request.isPinned)) =
      (requests.map LabelRequest.name).map fun name => (name, pin) := by
  rw [List.map_map]
  refine List.map_congr_left fun request member => ?_
  rw [pinned request member]
  rfl

/-- The names and pins at an address after the requests of a language: those that were there as they
were, those of the registers with a pin, and those of the default labels as the anchor option says. -/
theorem pins_of_requests (ordered : table.labels.Ordered) (language : Language)
    (options : List LoadOption) (address : Address) :
    (((labelRequests language options).foldl carryOut table).symbolsAt address).map
        Symbol.nameAndPin =
      (table.symbolsAt address).map Symbol.nameAndPin ++
        (registerNames language table address).map (fun name => (name, true)) ++
        (defaultNames language options table address).map fun name =>
          (name, booleanValue anchorLabelsName options true) := by
  let ofRegisters := addedAt table (registerRequests language) address
  let ofDefaults := (addedAfter table (registerRequests language)
    (defaultRequests language options)).filter fun request => request.address = address
  have added : addedAt table (registerRequests language ++ defaultRequests language options)
      address = ofRegisters ++ ofDefaults := by
    rw [addedAt, LabelRequest.added, addedAfter_append, List.filter_append, List.nil_append]
    rfl
  have registersPinned : ∀ request ∈ ofRegisters, request.isPinned = true :=
    fun request member => isPinned_of_mem_registerRequests
      (mem_of_mem_addedAfter (List.mem_filter.mp member).1)
  have defaultsPinned : ∀ request ∈ ofDefaults,
      request.isPinned = booleanValue anchorLabelsName options true :=
    fun request member => isPinned_of_mem_defaultRequests
      (mem_of_mem_addedAfter (List.mem_filter.mp member).1)
  rw [labelRequests_eq_append, (listed_of_requests ordered _).pins_eq, added, List.map_append,
    map_nameAndPin registersPinned, map_nameAndPin defaultsPinned, ← List.append_assoc]
  rfl

theorem mem_registerNames_iff :
    name ∈ registerNames language table address ↔
      table.HasRoomFor address name ∧ language.HasRegister address name := by
  have added := @exists_added_iff table (registerRequests language) address name
  have asked : (∃ request ∈ registerRequests language,
      request.address = address ∧ request.name = name) ↔ language.HasRegister address name :=
    same_requestOfRegister_iff
  rw [registerNames, List.mem_map]
  simpa only [addedAt, List.mem_filter, decide_eq_true_eq, and_assoc, asked,
    SymbolTable.HasRoomFor] using added

theorem mem_defaultNames_iff :
    name ∈ defaultNames language options table address ↔
      table.HasRoomFor address name ∧ ¬ language.HasRegister address name ∧
        Granted applyLabelsName options ∧ language.HasLabel address name := by
  have added := @exists_addedAfter_iff table (registerRequests language)
    (defaultRequests language options) address name
  have unasked : (∀ request ∈ registerRequests language,
      ¬ (request.address = address ∧ request.name = name)) ↔
        ¬ language.HasRegister address name := by
    rw [← same_requestOfRegister_iff, not_exists]
    exact forall_congr' fun request => not_and.symm
  have asked : (∃ request ∈ defaultRequests language options,
      request.address = address ∧ request.name = name) ↔
        Granted applyLabelsName options ∧ language.HasLabel address name := by
    rw [defaultRequests, ← booleanValue_eq_true_iff]
    cases booleanValue applyLabelsName options true with
    | true => simp [requestOfLabel, Language.HasLabel]
    | false => simp
  rw [defaultNames, List.mem_map]
  simpa only [List.mem_filter, decide_eq_true_eq, and_assoc, unasked, asked,
    SymbolTable.HasRoomFor] using added

/-- Without pins, the requests of a language are the same under options that agree on which labels
are wanted. -/
theorem unpinned_labelRequests (language : Language) {anchored loose : List LoadOption}
    (sameWish : Granted applyLabelsName anchored ↔ Granted applyLabelsName loose) :
    (labelRequests language anchored).map LabelRequest.unpinned =
      (labelRequests language loose).map LabelRequest.unpinned := by
  rw [← booleanValue_eq_true_iff, ← booleanValue_eq_true_iff, ← Bool.eq_iff_iff] at sameWish
  rw [labelRequests_eq, labelRequests_eq, sameWish, List.map_append, List.map_append]
  cases booleanValue applyLabelsName loose true with
  | true => simp [Function.comp_def, requestOfLabel, LabelRequest.unpinned]
  | false => rfl

/-- Without pins, a table is the same after the requests of a language under such options. -/
theorem unpinned_eq_of_sameWish (ordered : table.labels.Ordered) (language : Language)
    {anchored loose : List LoadOption}
    (sameWish : Granted applyLabelsName anchored ↔ Granted applyLabelsName loose) :
    ((labelRequests language anchored).foldl carryOut table).unpinned =
      ((labelRequests language loose).foldl carryOut table).unpinned := by
  rw [unpinned_foldl_carryOut ordered, unpinned_foldl_carryOut ordered,
    unpinned_labelRequests language sameWish]

/-- Which default labels are new does not hang on the anchor option. -/
theorem defaultNames_eq (ordered : table.labels.Ordered) (language : Language)
    {anchored loose : List LoadOption}
    (sameWish : Granted applyLabelsName anchored ↔ Granted applyLabelsName loose)
    (address : Address) :
    defaultNames language anchored table address = defaultNames language loose table address := by
  have sameLabels := congrArg (fun table => (table.symbolsAt address).map Symbol.name)
    (unpinned_eq_of_sameWish ordered language sameWish)
  simp only [SymbolTable.symbolsAt_unpinned, List.map_map] at sameLabels
  have namesOf (options : List LoadOption) :
      (((labelRequests language options).foldl carryOut table).symbolsAt address).map
          (Symbol.name ∘ Symbol.unpinned) =
        (table.symbolsAt address).map Symbol.name ++ registerNames language table address ++
          defaultNames language options table address := by
    have names := congrArg (List.map Prod.fst) (pins_of_requests ordered language options address)
    simpa [Function.comp_def, Symbol.nameAndPin, Symbol.unpinned] using names
  rw [namesOf, namesOf] at sameLabels
  exact List.append_cancel_left sameLabels

/-- Labelled with anchors and without, an open program has the same state but for its pins. At each
address the labels that were there keep their pins and those of registers are pinned, either way.
Behind them stand the new default labels, which are all pinned in the one case, and none of them in
the other. -/
theorem anchoring_pins_new_default_labels (isOpen : program.isClosed = false)
    (nested : ∀ nest, program.transaction = some nest → nest.nest ≠ [])
    (ordered : program.symbols.labels.Ordered) {anchored loose : List LoadOption}
    (sameWish : Granted applyLabelsName anchored ↔ Granted applyLabelsName loose)
    (anchors : Granted anchorLabelsName anchored) (noAnchors : ¬ Granted anchorLabelsName loose) :
    let first := (applyProcessorLabels anchored).apply program
    let second := (applyProcessorLabels loose).apply program
    first.1 = .ok () ∧ second.1 = .ok () ∧
    first.2.state.unpinned = second.2.state.unpinned ∧
    ∀ address, ∃ ofRegisters ofDefaults : List String,
      (first.2.symbols.symbolsAt address).map Symbol.nameAndPin =
        (program.symbols.symbolsAt address).map Symbol.nameAndPin ++
          ofRegisters.map (fun name => (name, true)) ++
          ofDefaults.map (fun name => (name, true)) ∧
      (second.2.symbols.symbolsAt address).map Symbol.nameAndPin =
        (program.symbols.symbolsAt address).map Symbol.nameAndPin ++
          ofRegisters.map (fun name => (name, true)) ++
          ofDefaults.map (fun name => (name, false)) ∧
      (∀ name, name ∈ ofRegisters ↔
        program.symbols.HasRoomFor address name ∧ program.language.HasRegister address name) ∧
      ∀ name, name ∈ ofDefaults ↔
        program.symbols.HasRoomFor address name ∧ ¬ program.language.HasRegister address name ∧
          Granted applyLabelsName anchored ∧ program.language.HasLabel address name := by
  intro first second
  obtain ⟨_, _, firstLabelled, -⟩ := applyProcessorLabels_eq isOpen nested anchored
  obtain ⟨_, _, secondLabelled, -⟩ := applyProcessorLabels_eq isOpen nested loose
  have firstState : first.2.state = program.labelledState anchored :=
    congrArg (fun done => done.2.state) firstLabelled
  have secondState : second.2.state = program.labelledState loose :=
    congrArg (fun done => done.2.state) secondLabelled
  refine ⟨congrArg Prod.fst firstLabelled, congrArg Prod.fst secondLabelled, ?_,
    fun address => ?_⟩
  · rw [firstState, secondState]
    exact congrArg (fun symbols => { program.state with symbols, isAnalyzed := false })
      (unpinned_eq_of_sameWish ordered program.language sameWish)
  · have pinned : booleanValue anchorLabelsName anchored true = true :=
      booleanValue_eq_true_iff.mpr anchors
    have unpinned : booleanValue anchorLabelsName loose true = false :=
      Bool.eq_false_iff.mpr (mt booleanValue_eq_true_iff.mp noAnchors)
    have firstPins := pins_of_requests ordered program.language anchored address
    have secondPins := pins_of_requests ordered program.language loose address
    rw [pinned] at firstPins
    rw [unpinned, ← defaultNames_eq ordered program.language sameWish] at secondPins
    have firstSymbols : first.2.symbols =
        (labelRequests program.language anchored).foldl carryOut program.symbols :=
      congrArg ProgramState.symbols firstState
    have secondSymbols : second.2.symbols =
        (labelRequests program.language loose).foldl carryOut program.symbols :=
      congrArg ProgramState.symbols secondState
    rw [firstSymbols, secondSymbols]
    exact ⟨_, _, firstPins, secondPins, fun name => mem_registerNames_iff,
      fun name => mem_defaultNames_iff⟩

/-- Of three default labels for an address, one is there already and one is a register's; so only the
third is pinned under one option and not under the other. -/
theorem one_of_three_is_anchored :
    let ram : AddressSpace := ⟨"ram", .ram, 16, none⟩
    let reset : Address := ⟨"ram", .ram, 0, 16, none⟩
    let language : Language := { Language.make "target" ram with
      registers := [⟨"SREG", 8, .flags, reset⟩]
      labels := [⟨"start", reset, true, true⟩, ⟨"SREG", reset, true, true⟩,
        ⟨"RESET", reset, true, true⟩] }
    let start : Symbol := ⟨"start", reset, Symbol.globalScope, .userDefined, true, false⟩
    let made := make "image" language "default" ⟨1⟩
    let program := { made with
      state := { made.state with symbols := ⟨⟨[(reset, [start])]⟩, .empty⟩ } }
    let anchored := [boolean anchorLabelsName true "-anchor"]
    let loose := [boolean anchorLabelsName false "-anchor"]
    let first := (applyProcessorLabels anchored).apply program
    let second := (applyProcessorLabels loose).apply program
    program.isClosed = false ∧ program.transaction = none ∧ program.symbols.labels.Ordered ∧
      (Granted applyLabelsName anchored ↔ Granted applyLabelsName loose) ∧
      Granted anchorLabelsName anchored ∧ ¬ Granted anchorLabelsName loose ∧
      first.2.state.unpinned = second.2.state.unpinned ∧
      (first.2.symbols.symbolsAt reset).map Symbol.nameAndPin =
        [("start", false), ("SREG", true), ("RESET", true)] ∧
      (second.2.symbols.symbolsAt reset).map Symbol.nameAndPin =
        [("start", false), ("SREG", true), ("RESET", false)] := by
  intro ram reset language start made program anchored loose first second
  have ordered : program.symbols.labels.Ordered := List.pairwise_singleton _ _
  have sameWish : Granted applyLabelsName anchored ↔ Granted applyLabelsName loose := by
    rw [← booleanValue_eq_true_iff, ← booleanValue_eq_true_iff]
    exact Iff.rfl
  have anchors : Granted anchorLabelsName anchored := booleanValue_eq_true_iff.mp rfl
  have noAnchors : ¬ Granted anchorLabelsName loose := by
    rw [← booleanValue_eq_true_iff]
    decide
  obtain ⟨-, -, sameUnpinned, -⟩ := anchoring_pins_new_default_labels
    (show program.isClosed = false from rfl) nofun ordered sameWish anchors noAnchors
  exact ⟨rfl, rfl, ordered, sameWish, anchors, noAnchors, sameUnpinned, by decide +kernel,
    by decide +kernel⟩

end Anchors

end Program

end ImageImport
