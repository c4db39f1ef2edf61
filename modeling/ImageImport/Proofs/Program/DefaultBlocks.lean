import ImageImport.Load.DefaultBlocks
import ImageImport.Load.Log
import ImageImport.Proofs.Memory.Append
import ImageImport.Proofs.Program.Bracket
import ImageImport.Proofs.Program.Placement

/-!
Contract: the making of default blocks, which no definition can stop.

A definition is refused for a reason of its own, be it the written address, the space or the block,
and each such reason is one that only the log is told of. So every program gets through all
definitions: each of them either brings exactly its block, with the space of it where that is an
overlay, or changes nothing and leaves a word in the log. The refused ones might as well not be
there.

Owns: `Gains` and `Refuses` for a single definition, and `Furnishing`, the course over all of them.
Does not own: which blocks a memory takes in.
-/

namespace ImageImport

/-- The failures that leave a definition out, and do not stop the making of the others. -/
inductive Failure.IsRefusal : Failure → Prop where
  | memoryConflict (reason : String) : IsRefusal (.memoryConflict reason)
  | addressOverflow (reason : String) : IsRefusal (.addressOverflow reason)
  | invalidAddress (reason : String) : IsRefusal (.invalidAddress reason)

/-- A memory refuses a block for no other reasons. -/
theorem Memory.isRefusal_of_add {memory : Memory} {space : AddressSpace} {block : MemoryBlock}
    {failure : Failure} (refused : memory.add space block = .error failure) :
    failure.IsRefusal := by
  have placing (refused : add.place memory block = .error failure) : failure.IsRefusal := by
    unfold add.place at refused
    split at refused
    · obtain rfl := Except.error.inj refused
      exact .memoryConflict _
    · split at refused
      · obtain rfl := Except.error.inj refused
        exact .memoryConflict _
      · contradiction
  unfold add at refused
  split at refused
  · obtain rfl := Except.error.inj refused
    exact .addressOverflow _
  · split at refused
    · obtain rfl := Except.error.inj refused
      exact .addressOverflow _
    · split at refused
      · split at refused
        · obtain rfl := Except.error.inj refused
          exact .invalidAddress _
        · exact placing refused
      · exact placing refused

/-- A text that does not denote an address is refused. -/
theorem Language.isRefusal_of_parseAddress {language : Language} {text : String}
    {failure : Failure} (refused : language.parseAddress text = .error failure) :
    failure.IsRefusal := by
  obtain ⟨reason, rfl⟩ := exists_reason_of_error refused
  exact .invalidAddress reason

namespace Program

/-! ## One definition -/

/-- The state has got the block of the definition, in its place among the others, and the space of
it. -/
inductive Gains (language : Language) (state : ProgramState) (definition : BlockDefinition) :
    ProgramState → Prop where
  | block {space : AddressSpace} {start : Address} {spaces : List AddressSpace}
      {front back : List MemoryBlock}
      (place : Place language state.spaces definition space start spaces)
      (split : state.memory.blocks = front ++ back)
      (added : state.memory.add space (blockOf definition start) =
        .ok ⟨front ++ blockOf definition start :: back⟩) :
      Gains language state definition
        { state with memory := ⟨front ++ blockOf definition start :: back⟩, spaces }

/-- There is no block of the definition in the state: no place for it, or none in the memory. -/
inductive Refuses (language : Language) (state : ProgramState) (definition : BlockDefinition) :
    Failure → Prop where
  | unplaced {failure : Failure}
      (displaced : Displaced language state.spaces definition failure) :
      Refuses language state definition failure
  | unadded {space : AddressSpace} {start : Address} {spaces : List AddressSpace}
      {failure : Failure} (place : Place language state.spaces definition space start spaces)
      (refused : state.memory.add space (blockOf definition start) = .error failure) :
      Refuses language state definition failure

/-- What the log is told of a definition that is left out: one message about a conflict, two about
an address that overflows or that there is not. -/
inductive Complaint (definition : BlockDefinition) : Failure → List String → Prop where
  | conflict (reason : String) :
      Complaint definition (.memoryConflict reason)
        ["Failed to add language defined memory block due to conflict: " ++ definition.text]
  | overflow (reason : String) :
      Complaint definition (.addressOverflow reason)
        ["Failed to add language defined memory block due to address error " ++ definition.text,
          " >> " ++ reason]
  | invalid (reason : String) :
      Complaint definition (.invalidAddress reason)
        ["Failed to add language defined memory block due to invalid address: " ++
            definition.text,
          " >> Language definition error: " ++ reason]

section

variable {language : Language} {spaces : List AddressSpace} {state next : ProgramState}
  {definition : BlockDefinition} {failure : Failure}

theorem Complaint.refusalMessages?_eq {messages : List String}
    (complaint : Complaint definition failure messages) :
    refusalMessages? definition failure = some messages := by
  cases complaint <;> rfl

theorem Displaced.isRefusal (displaced : Displaced language spaces definition failure) :
    failure.IsRefusal := by
  cases displaced with
  | unread unread => exact Language.isRefusal_of_parseAddress unread
  | undeclared => exact .invalidAddress _
  | taken => exact .memoryConflict _
  | unmade => exact .invalidAddress _
  | outside => exact .invalidAddress _

/-- Every refusal is one that the log is told of. -/
theorem Refuses.exists_complaint (refuses : Refuses language state definition failure) :
    ∃ messages, Complaint definition failure messages := by
  have isRefusal : failure.IsRefusal := by
    cases refuses with
    | unplaced displaced => exact displaced.isRefusal
    | unadded _ refused => exact Memory.isRefusal_of_add refused
  cases isRefusal with
  | memoryConflict reason => exact ⟨_, .conflict reason⟩
  | addressOverflow reason => exact ⟨_, .overflow reason⟩
  | invalidAddress reason => exact ⟨_, .invalid reason⟩

theorem Gains.eq_with (gains : Gains language state definition next) :
    ∃ memory spaces, next = { state with memory, spaces } := by
  cases gains with
  | block => exact ⟨_, _, rfl⟩

theorem Gains.wellFormed (gains : Gains language state definition next)
    (wellFormed : state.memory.WellFormed) : next.memory.WellFormed := by
  cases gains with
  | block place split added => exact wellFormed.add added

/-- The bytes that could be read still can be. -/
theorem Gains.holds (gains : Gains language state definition next)
    (wellFormed : state.memory.WellFormed) {space : String} {start : Nat} {bytes : List UInt8}
    (holds : state.memory.Holds space start bytes) : next.memory.Holds space start bytes := by
  cases gains with
  | block place split added =>
      obtain ⟨accepted, inserted⟩ := Memory.add_eq_ok_iff.mp added
      show Memory.Holds _ _ _ _
      rw [inserted]
      exact holds.insertBlock (accepted.apart wellFormed)

end

variable {program : Program} {definition : BlockDefinition}

/-- In the place of a definition, it is only the memory that may refuse a block. -/
theorem Place.addMemoryBlock_eq {space : AddressSpace} {start : Address}
    {spaces : List AddressSpace}
    (place : Place program.language program.state.spaces definition space start spaces)
    (noRefusal : program.refusal? = none) (block : MemoryBlock) :
    program.addMemoryBlock space block = (program.state.memory.add space block).map fun memory =>
      program.changedTo { program.state with memory, spaces } ["memory"] := by
  have known : (program.state.spaces.any fun declared => declared.name == space.name) =
      (findSpace? program.state.spaces space.name).isSome := by
    rw [findSpace?, List.isSome_find?]
  simp only [addMemoryBlock, noRefusal, known]
  rcases place.known_or_new with ⟨declared, rfl⟩ | ⟨isNew, isOverlay, rfl⟩
  · simp only [declared, Option.isSome_some, not_true, false_and, if_false, if_true]
    cases program.state.memory.add space block <;> rfl
  · simp only [isNew, isOverlay, Option.isSome_none, not_true, and_false, if_false,
      Bool.false_eq_true]
    cases program.state.memory.add space block <;> rfl

/-- A program that may be changed gets the block of a definition, or refuses the definition and
stays as it is. -/
theorem createBlock_cases (noRefusal : program.refusal? = none) (definition : BlockDefinition) :
    (∃ next, Gains program.language program.state definition next ∧
      program.createBlock definition = .ok (program.changedTo next ["memory"])) ∨
    ∃ failure, Refuses program.language program.state definition failure ∧
      program.createBlock definition = .error failure := by
  rcases placeOf_cases program definition with
    ⟨space, start, spaces, place, placed⟩ | ⟨failure, displaced, unplaced⟩
  · have created : program.createBlock definition =
        program.addMemoryBlock space (blockOf definition start) := by
      simp only [createBlock, placed, bind, Except.bind]
    rw [created, place.addMemoryBlock_eq noRefusal]
    cases added : program.state.memory.add space (blockOf definition start) with
    | error failure => exact .inr ⟨failure, .unadded place added, rfl⟩
    | ok memory =>
        obtain ⟨-, inserted⟩ := Memory.add_eq_ok_iff.mp added
        obtain ⟨front, back, split, joined, -, -⟩ :=
          Memory.insertBlock_split (blockOf definition start) program.state.memory.blocks
        rw [joined] at inserted
        subst inserted
        exact .inl ⟨_, .block place split added, rfl⟩
  · refine .inr ⟨failure, .unplaced displaced, ?_⟩
    simp only [createBlock, unplaced, bind, Except.bind]

/-! ## One definition after another -/

/-- The course of making blocks of definitions, from a state and a log to others. Of the
definitions, it picks out those whose blocks are made. -/
inductive Furnishing (language : Language) : ProgramState → Log → List BlockDefinition →
    List BlockDefinition → ProgramState → Log → Prop where
  | done (state : ProgramState) (log : Log) : Furnishing language state log [] [] state log
  | made {state next last : ProgramState} {log told : Log} {definition : BlockDefinition}
      {rest kept : List BlockDefinition} (gains : Gains language state definition next)
      (others : Furnishing language next log rest kept last told) :
      Furnishing language state log (definition :: rest) (definition :: kept) last told
  | skipped {state last : ProgramState} {log told : Log} {definition : BlockDefinition}
      {rest kept : List BlockDefinition} {failure : Failure} {messages : List String}
      (refuses : Refuses language state definition failure)
      (complaint : Complaint definition failure messages)
      (others : Furnishing language state (log.addAll messages) rest kept last told) :
      Furnishing language state log (definition :: rest) kept last told

section

variable {language : Language} {state last : ProgramState} {log told : Log}
  {definitions kept : List BlockDefinition}

/-- A course changes nothing but the memory and the spaces. -/
theorem Furnishing.eq_with
    (furnishing : Furnishing language state log definitions kept last told) :
    ∃ memory spaces, last = { state with memory, spaces } := by
  induction furnishing with
  | done state => exact ⟨_, _, rfl⟩
  | made gains _ inductionHypothesis =>
      obtain ⟨memory, spaces, rfl⟩ := gains.eq_with
      exact inductionHypothesis
  | skipped _ _ _ inductionHypothesis => exact inductionHypothesis

theorem Furnishing.wellFormed
    (furnishing : Furnishing language state log definitions kept last told)
    (wellFormed : state.memory.WellFormed) : last.memory.WellFormed := by
  induction furnishing with
  | done => exact wellFormed
  | made gains _ inductionHypothesis => exact inductionHypothesis (gains.wellFormed wellFormed)
  | skipped _ _ _ inductionHypothesis => exact inductionHypothesis wellFormed

theorem Furnishing.holds
    (furnishing : Furnishing language state log definitions kept last told)
    (wellFormed : state.memory.WellFormed) {space : String} {start : Nat} {bytes : List UInt8}
    (holds : state.memory.Holds space start bytes) : last.memory.Holds space start bytes := by
  induction furnishing with
  | done => exact holds
  | made gains _ inductionHypothesis =>
      exact inductionHypothesis (gains.wellFormed wellFormed) (gains.holds wellFormed holds)
  | skipped _ _ _ inductionHypothesis => exact inductionHypothesis wellFormed holds

end

/-- A program that may be changed gets through any definitions; and just so through those of them
whose blocks are made. -/
theorem createBlocks_of_writable (noRefusal : program.refusal? = none)
    (definitions : List BlockDefinition) (log : Log) :
    ∃ kept messages state notes,
      (createBlocks definitions).apply program = (.ok messages, program.changedTo state notes) ∧
      (createBlocks kept).apply program = (.ok [], program.changedTo state notes) ∧
      Furnishing program.language program.state log definitions kept state
        (log.addAll messages) := by
  induction definitions generalizing program log with
  | nil =>
      have unchanged : (createBlocks []).apply program =
          (.ok [], program.changedTo program.state []) := by
        rw [changedTo_state]
        rfl
      exact ⟨[], [], program.state, [], unchanged, unchanged, log.addAll_nil.symm ▸ .done _ _⟩
  | cons definition rest inductionHypothesis =>
      rcases createBlock_cases noRefusal definition with
        ⟨next, gains, created⟩ | ⟨failure, refuses, refused⟩
      · -- The block is made, and the other definitions are tried on the changed program.
        obtain ⟨kept, messages, state, notes, ran, again, others⟩ :=
          inductionHypothesis ((refusal?_changedTo program next ["memory"]).trans noRefusal) log
        rw [changedTo_changedTo] at ran again
        refine ⟨definition :: kept, messages, state, ["memory"] ++ notes, ?_, ?_,
          .made gains others⟩
        · simp only [createBlocks, Attempt.apply_bind, Attempt.apply_get, created]
          exact ran
        · simp only [createBlocks, Attempt.apply_bind, Attempt.apply_get, created]
          exact again
      · -- The definition is left out here, and so it is missing from the list for another time.
        obtain ⟨told, complaint⟩ := refuses.exists_complaint
        obtain ⟨kept, messages, state, notes, ran, again, others⟩ :=
          inductionHypothesis noRefusal (log.addAll told)
        refine ⟨kept, told ++ messages, state, notes, ?_, again, .skipped refuses complaint ?_⟩
        · simp only [createBlocks, Attempt.apply_bind, Attempt.apply_get, refused,
            complaint.refusalMessages?_eq, ran, Attempt.apply_pure]
        · rw [Log.addAll_addAll] at others
          exact others

/-! ## The definitions of a language -/

/-- In a transaction of its own, an open program gets through the definitions of any language. -/
theorem createDefaultBlocks_of_createBlocks (isOpen : program.isClosed = false)
    (idle : program.transaction = none) {language : Language} {messages : List String}
    {state : ProgramState} {notes : List String}
    (ran : (createBlocks language.blocks).apply (program.begun "Create default blocks") =
      (.ok messages, (program.begun "Create default blocks").changedTo state notes)) :
    ∃ nextTransaction deliveries, (createDefaultBlocks language).apply program =
      (.ok messages, { program with state, nextTransaction, deliveries }) := by
  cases defined : language.blocks with
  | nil =>
      rw [defined] at ran
      obtain ⟨told, unchanged⟩ := Prod.mk.inj ran
      obtain rfl := Except.ok.inj told
      have sameState : program.state = state := congrArg Program.state unchanged
      refine ⟨program.nextTransaction, program.deliveries, ?_⟩
      rw [createDefaultBlocks, defined, ← sameState]
      rfl
  | cons first rest =>
      obtain ⟨deliveries, outcome, -⟩ := committing_of_changedTo isOpen idle ran
      refine ⟨program.nextTransaction + 1, deliveries, ?_⟩
      rw [createDefaultBlocks, if_neg (by simp [defined])]
      exact outcome

/-- An open program without a transaction gets its default blocks, whatever the definitions are. It
is left without a transaction, and what could be read in its memory can still be read there. -/
theorem createDefaultBlocks_of_idle (isOpen : program.isClosed = false)
    (idle : program.transaction = none) (wellFormed : program.memory.WellFormed)
    (language : Language) :
    ∃ messages memory spaces nextTransaction deliveries,
      (createDefaultBlocks language).apply program = (.ok messages, { program with
        state := { program.state with memory, spaces }
        nextTransaction, deliveries }) ∧
      memory.WellFormed ∧
      ∀ space start bytes, program.memory.Holds space start bytes →
        memory.Holds space start bytes := by
  obtain ⟨kept, messages, state, notes, ran, -, furnishing⟩ :=
    createBlocks_of_writable (refusal?_begun isOpen "Create default blocks") language.blocks .empty
  obtain ⟨nextTransaction, deliveries, outcome⟩ :=
    createDefaultBlocks_of_createBlocks isOpen idle ran
  obtain ⟨memory, spaces, rfl⟩ := furnishing.eq_with
  exact ⟨messages, memory, spaces, nextTransaction, deliveries, outcome,
    furnishing.wellFormed wellFormed, fun _ _ _ => furnishing.holds wellFormed⟩

/-- An open program without a transaction gets through the definitions of any language, and is left
without a transaction. One definition after another either brings its block or goes to the log,
behind what the log says already. Nothing hangs on the definitions that are left out: without them
the program comes to the same state, and there is nothing to say. -/
theorem default_blocks_are_made_or_logged (isOpen : program.isClosed = false)
    (idle : program.transaction = none) (language : Language) (log : Log) :
    ∃ kept messages state nextTransaction deliveries,
      let done : Program := { program with state, nextTransaction, deliveries }
      (createDefaultBlocks language).apply program = (.ok messages, done) ∧
      done.transaction = none ∧
      Furnishing program.language program.state log language.blocks kept state
        (log.addAll messages) ∧
      ∃ nextTransaction deliveries,
        (createDefaultBlocks { language with blocks := kept }).apply program =
          (.ok [], { program with state, nextTransaction, deliveries }) := by
  obtain ⟨kept, messages, state, notes, ran, again, furnishing⟩ :=
    createBlocks_of_writable (refusal?_begun isOpen "Create default blocks") language.blocks log
  obtain ⟨nextTransaction, deliveries, outcome⟩ :=
    createDefaultBlocks_of_createBlocks isOpen idle ran
  have withoutTheOthers := @createDefaultBlocks_of_createBlocks program isOpen idle
    { language with blocks := kept } [] state notes again
  exact ⟨kept, messages, state, nextTransaction, deliveries, outcome, idle, furnishing,
    withoutTheOthers⟩

/-- Of five definitions, those of a block and of an overlay are kept; a conflict, a range that runs
off its space and an address without a space are told of. -/
theorem two_of_five_definitions_are_kept :
    let plain (name address : String) (length : UInt64) : BlockDefinition :=
      .make name address length
    let language : Language :=
      { Language.make "target" ⟨"ram", .ram, 8, none⟩ with
        blocks := [plain "io" "ram:0x20" 0x40, plain "clash" "ram:0x50" 0x10,
          { plain "bank" "ram:0x0" 0x10 with isOverlay := true }, plain "huge" "0xf0" 0x20,
          plain "bogus" "code:0x0" 1] }
    let program := make "image" language "default" ⟨1⟩
    let log : Log := ⟨["earlier"]⟩
    ∃ kept messages state,
      Furnishing program.language program.state log language.blocks kept state
        (log.addAll messages) ∧
      messages.length = 5 ∧
      state.memory.blocks.map MemoryBlock.name = ["bank", "io"] ∧
      state.spaces.map AddressSpace.name = ["ram", "bank"] := by
  intro plain language program log
  obtain ⟨kept, messages, state, nextTransaction, deliveries, outcome, -, furnishing, -⟩ :=
    @default_blocks_are_made_or_logged program rfl rfl language log
  have told :
      ((createDefaultBlocks language).apply program).1.toOption.map List.length = some 5 := by
    decide +kernel
  have blocks : ((createDefaultBlocks language).apply program).2.memory.blocks.map
      MemoryBlock.name = ["bank", "io"] := by
    decide +kernel
  have spaces : ((createDefaultBlocks language).apply program).2.state.spaces.map
      AddressSpace.name = ["ram", "bank"] := by
    decide +kernel
  rw [outcome] at told blocks spaces
  exact ⟨kept, messages, state, furnishing, Option.some.inj told, blocks, spaces⟩

end Program

end ImageImport
