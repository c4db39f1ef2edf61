import ImageImport.Proofs.Program.Operation

/-!
Contract: everything that one call can do to a program, told once.

`Step` has one rule for each thing that a call can come to, with the guards under which it does, and
`step_of_perform` is the inversion that invariants of programs start from. What each step keeps,
every run keeps.

Owns: the rules, their agreement with the calls, and the induction over runs.
Does not own: any particular invariant.
-/

namespace ImageImport.Program

/-- Why a call may be refused: a start on a closed program, an end of a transaction that is not the
innermost, and a change without an open transaction. -/
def Operation.IsRefused : Operation → Program → Prop
  | .start _, program => program.isClosed = true
  | .finish id commit, program => ∀ ended, program.endTransaction id commit ≠ .ok ended
  | .mutate _, program => program.refusal?.isSome = true
  | _, _ => False

/-- What a call comes to: the call with whether it succeeds, and the program after it. -/
inductive Step (program : Program) : Performed → Program → Prop where
  /-- A call that is refused changes nothing. -/
  | refused {operation : Operation} (isRefused : operation.IsRefused program) :
      Step program ⟨operation, false⟩ program
  /-- The outermost transaction opens on the state as it is. -/
  | opens (description : String) (isOpen : program.isClosed = false)
      (idle : program.transaction = none) :
      Step program ⟨.start description, true⟩ { program with
        transaction := some ⟨[(program.nextTransaction, description)], program.state, false, []⟩
        nextTransaction := program.nextTransaction + 1 }
  | joins (description : String) {nest : OpenTransaction} (isOpen : program.isClosed = false)
      (held : program.transaction = some nest) :
      Step program ⟨.start description, true⟩ { program with
        transaction := some
          { nest with nest := (program.nextTransaction, description) :: nest.nest }
        nextTransaction := program.nextTransaction + 1 }
  /-- The innermost transaction ends within another. -/
  | leaves {id : Nat} (commit : Bool) {description : String} {outer : List (Nat × String)}
      {nest : OpenTransaction} (held : program.transaction = some nest)
      (entries : nest.nest = (id, description) :: outer) (isNested : outer ≠ []) :
      Step program ⟨.finish id commit, true⟩ { program with
        transaction := some
          { nest with nest := outer, isAborted := nest.isAborted || !commit } }
  /-- The outermost transaction ends, and listeners hear of its changes unless it is rolled back or
  the gate is shut. -/
  | settles {id : Nat} (commit : Bool) {description : String} {nest : OpenTransaction}
      (held : program.transaction = some nest) (entries : nest.nest = [(id, description)]) :
      Step program ⟨.finish id commit, true⟩ { program with
        transaction := none
        state := if nest.isAborted || !commit then nest.atOpening else program.state
        deliveries := program.deliveries ++
          (if nest.isAborted || !commit || !program.eventsEnabled then [] else nest.pending).flatMap
            fun what => program.listeners.map fun listener => (listener, .changed what) }
  | changes {mutation : Mutation} {nest : OpenTransaction} {state : ProgramState}
      (isOpen : program.isClosed = false) (held : program.transaction = some nest)
      (changed : mutation.change program.state = .ok state) :
      Step program ⟨.mutate mutation, true⟩ { program with
        state, transaction := some { nest with pending := nest.pending ++ mutation.notes true } }
  /-- A change that the state does not allow may still leave its note. -/
  | fails {mutation : Mutation} {nest : OpenTransaction} {failure : Failure}
      (isOpen : program.isClosed = false) (held : program.transaction = some nest)
      (failed : mutation.change program.state = .error failure) :
      Step program ⟨.mutate mutation, false⟩ { program with
        transaction := some { nest with pending := nest.pending ++ mutation.notes false } }
  /-- The gate is set, and listeners hear of it if it was shut and the program is open. -/
  | gates (enabled : Bool) :
      Step program ⟨.setEventsEnabled enabled, true⟩ { program with
        eventsEnabled := enabled
        deliveries := program.deliveries ++
          if enabled && !program.eventsEnabled && !program.isClosed then
            program.listeners.map fun listener => (listener, .restored)
          else [] }
  | listens (listener : Listener) :
      Step program ⟨.addListener listener, true⟩ { program with
        listeners := program.listeners ++ [listener] }
  | claims (consumer : Consumer) :
      Step program ⟨.addConsumer consumer, true⟩ { program with
        consumers := if consumer ∈ program.consumers then program.consumers
          else program.consumers ++ [consumer] }
  /-- A claim that was none is given up, or one of several, or one on a closed program. -/
  | yields {consumer : Consumer}
      (stays : consumer ∈ program.consumers → program.consumers.erase consumer = [] →
        program.isClosed = true) :
      Step program ⟨.release consumer, true⟩
        { program with consumers := program.consumers.erase consumer }
  /-- The last claim is given up: an open transaction is rolled back, and listeners hear a last
  event. -/
  | closes {consumer : Consumer} (isOpen : program.isClosed = false)
      (last : program.consumers = [consumer]) :
      Step program ⟨.release consumer, true⟩ { program with
        state := program.transaction.elim program.state OpenTransaction.atOpening
        transaction := none
        consumers := []
        isClosed := true
        deliveries := program.deliveries ++
          program.listeners.map fun listener => (listener, .closed)
        listeners := [] }

section Inversion

variable (program : Program)

theorem step_of_start (description : String) :
    Step program ⟨.start description, isOk ((Operation.start description).perform program).1⟩
      ((Operation.start description).perform program).2 := by
  simp only [Operation.perform, Attempt.ofUpdate, Attempt.apply_of]
  by_cases isClosed : program.isClosed = true
  · simp only [startTransaction_of_isClosed isClosed, Except.map]
    exact .refused isClosed
  · rw [Bool.not_eq_true] at isClosed
    cases held : program.transaction with
    | none =>
        simp only [startTransaction_of_idle isClosed held, Except.map]
        exact .opens description isClosed held
    | some nest =>
        simp only [startTransaction_of_nested isClosed held, Except.map]
        exact .joins description isClosed held

theorem step_of_finish (id : Nat) (commit : Bool) :
    Step program ⟨.finish id commit, isOk ((Operation.finish id commit).perform program).1⟩
      ((Operation.finish id commit).perform program).2 := by
  simp only [Operation.perform, Attempt.apply_ofChange]
  cases ended : program.endTransaction id commit with
  | error failure =>
      refine .refused fun next success => ?_
      rw [ended] at success
      contradiction
  | ok next =>
      obtain ⟨nest, description, outer, held, entries⟩ := innermost_of_endTransaction ended
      rw [endTransaction_of_innermost held entries] at ended
      by_cases outermost : outer = []
      · subst outermost
        obtain rfl := Except.ok.inj ended
        rw [settle_eq]
        exact .settles commit held entries
      · simp only [List.isEmpty_iff, if_neg outermost] at ended
        obtain rfl := Except.ok.inj ended
        exact .leaves commit held entries outermost

theorem step_of_mutate (mutation : Mutation) :
    Step program ⟨.mutate mutation, isOk (mutation.perform program).1⟩
      (mutation.perform program).2 := by
  cases refused : program.refusal? with
  | some failure =>
      obtain ⟨reason, performed⟩ := mutation.perform_of_refused refused
      rw [performed]
      exact .refused (by rw [Operation.IsRefused, refused, Option.isSome_some])
  | none =>
      obtain ⟨isOpen, nest, held⟩ := nested_of_no_refusal refused
      rw [mutation.perform_of_nested isOpen held]
      cases changed : mutation.change program.state with
      | ok state => exact .changes isOpen held changed
      | error failure => exact .fails isOpen held changed

theorem step_of_setEventsEnabled (enabled : Bool) :
    Step program ⟨.setEventsEnabled enabled, true⟩ (program.setEventsEnabled enabled) := by
  rw [setEventsEnabled_eq]
  exact .gates enabled

theorem step_of_addConsumer (consumer : Consumer) :
    Step program ⟨.addConsumer consumer, true⟩ (program.addConsumer consumer) := by
  rw [addConsumer_eq]
  exact .claims consumer

theorem step_of_release (consumer : Consumer) :
    Step program ⟨.release consumer, true⟩ (program.release consumer).2 := by
  by_cases owned : program.isOwnedBy consumer = true
  · by_cases last : program.consumers.erase consumer = []
    · rw [release_of_last owned last]
      by_cases isClosed : program.isClosed = true
      · have alreadyClosed := @close_of_isClosed { program with consumers := [] } isClosed
        rw [alreadyClosed, ← last]
        exact .yields fun _ _ => isClosed
      · rw [Bool.not_eq_true] at isClosed
        have only : program.consumers = [consumer] := by
          rcases List.erase_eq_nil_iff.mp last with ownerless | only
          · simp [isOwnedBy, ownerless] at owned
          · exact only
        have nowClosed := @close_eq_of_isOpen { program with consumers := [] } isClosed
        rw [nowClosed]
        exact .closes isClosed only
    · rw [release_of_shared owned last]
      exact .yields fun _ isLast => absurd isLast last
  · have absent : consumer ∉ program.consumers := by simpa [isOwnedBy] using owned
    have step : Step program ⟨.release consumer, true⟩
        { program with consumers := program.consumers.erase consumer } :=
      .yields fun member => absurd member absent
    rw [List.erase_of_not_mem absent] at step
    rw [release_of_not_owned (Bool.eq_false_iff.mpr owned)]
    exact step

/-- Whatever a call does is told by one of the rules. -/
theorem step_of_perform (operation : Operation) :
    Step program ⟨operation, isOk (operation.perform program).1⟩ (operation.perform program).2 := by
  cases operation with
  | start description => exact step_of_start program description
  | finish id commit => exact step_of_finish program id commit
  | mutate mutation => exact step_of_mutate program mutation
  | setEventsEnabled enabled => exact step_of_setEventsEnabled program enabled
  | addListener listener => exact .listens listener
  | addConsumer consumer => exact step_of_addConsumer program consumer
  | release consumer => exact step_of_release program consumer

end Inversion

/-- What every step keeps, every run keeps. -/
theorem kept_by_run {Invariant : Program → Prop}
    (kept : ∀ {program call next}, Invariant program → Step program call next → Invariant next)
    {program : Program} (holds : Invariant program) (operations : List Operation) :
    Invariant (run operations program).2 := by
  induction operations generalizing program with
  | nil => exact holds
  | cons operation rest inductionHypothesis =>
      exact inductionHypothesis (kept holds (step_of_perform program operation))

/-- A run with one more call at its end. -/
theorem run_concat (operations : List Operation) (operation : Operation) (program : Program) :
    (run (operations ++ [operation]) program).2 =
      (operation.perform (run operations program).2).2 := by
  rw [run_append]
  rfl

end ImageImport.Program
