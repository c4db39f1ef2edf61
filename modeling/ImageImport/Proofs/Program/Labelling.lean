import ImageImport.Load.Labels

/-!
Contract: labelling succeeds on every open program, and touches neither its owners nor its gate.

The table may refuse labels, but a refusal is never passed on. So the one thing that labelling can
fail for is a program that is closed.

Owns: the outcome and the frame of `applyProcessorLabels`.
Does not own: which labels a program has afterwards.
-/

namespace ImageImport.Program

/-- The table after a request, which is carried out or passed over. -/
def carryOut (table : SymbolTable) (request : LabelRequest) : SymbolTable :=
  match requestLabel request table with
  | .ok (_, labelled) => labelled
  | .error _ => table

theorem requestLabel_eq (request : LabelRequest) (table : SymbolTable) :
    requestLabel request table = .ok ((), carryOut table request) := by
  have succeeds : ∃ labelled, requestLabel request table = .ok ((), labelled) := by
    unfold requestLabel
    cases created : table.create request.address request.name .imported with
    | ok done => exact ⟨_, rfl⟩
    | error failure =>
        rcases SymbolTable.create_error_cases created with ⟨reason, rfl⟩ | rfl
        · exact ⟨table, rfl⟩
        · exact ⟨table, rfl⟩
  obtain ⟨labelled, done⟩ := succeeds
  rw [carryOut, done]

/-- The state that labelling makes of a program's. -/
def labelledState (program : Program) (options : List LoadOption) : ProgramState :=
  { program.state with
    symbols := (labelRequests program.language options).foldl carryOut program.state.symbols
    isAnalyzed := false }

section Nested

variable {program : Program} {nest : OpenTransaction}

theorem createRequestedLabel_of_nested (isOpen : program.isClosed = false)
    (held : program.transaction = some nest) (request : LabelRequest) :
    ∃ pending, (createRequestedLabel request).apply program =
      (.ok (), { program with
        state := { program.state with symbols := carryOut program.state.symbols request }
        transaction := some { nest with pending } }) := by
  have ready := writable_of_nested isOpen held "symbols"
  refine ⟨nest.pending ++ ["symbols"], ?_⟩
  simp [createRequestedLabel, changeSymbols, ready, requestLabel_eq]

theorem createRequestedLabels_of_nested (isOpen : program.isClosed = false)
    (held : program.transaction = some nest) (requests : List LabelRequest) :
    ∃ pending, (requests.forM createRequestedLabel).apply program =
      (.ok (), { program with
        state := { program.state with
          symbols := requests.foldl carryOut program.state.symbols }
        transaction := some { nest with pending } }) := by
  induction requests generalizing program nest with
  | nil => exact ⟨nest.pending, by rw [← held]; rfl⟩
  | cons request rest inductionHypothesis =>
      obtain ⟨pending, first⟩ := createRequestedLabel_of_nested isOpen held request
      let labelled := { program with
        state := { program.state with symbols := carryOut program.state.symbols request }
        transaction := some { nest with pending } }
      have labelledOpen : labelled.isClosed = false := isOpen
      obtain ⟨pending', others⟩ := inductionHypothesis labelledOpen rfl
      refine ⟨pending', ?_⟩
      show (createRequestedLabel request >>= fun _ => rest.forM createRequestedLabel).apply
        program = _
      rw [Attempt.apply_bind, first]
      exact others

theorem createProcessorLabels_of_nested (isOpen : program.isClosed = false)
    (held : program.transaction = some nest) (options : List LoadOption) :
    ∃ pending, (createProcessorLabels options).apply program =
      (.ok (), { program with
        state := program.labelledState options, transaction := some { nest with pending } }) := by
  obtain ⟨pending, labelled⟩ := createRequestedLabels_of_nested isOpen held
    (labelRequests program.language options)
  let between := { program with
    state := { program.state with
      symbols := (labelRequests program.language options).foldl carryOut program.state.symbols }
    transaction := some { nest with pending } }
  have betweenOpen : between.isClosed = false := isOpen
  have ready := writable_of_nested betweenOpen rfl "analysis state"
  refine ⟨pending ++ ["analysis state"], ?_⟩
  simp only [createProcessorLabels, Attempt.apply_bind, Attempt.apply_get, labelled]
  rw [Attempt.apply_ofChange]
  simp only [setAnalyzed, changeState, ready, between, labelledState]

end Nested

theorem applyProcessorLabels_of_isClosed {program : Program} (isClosed : program.isClosed = true)
    (options : List LoadOption) :
    (applyProcessorLabels options).apply program =
      (.error (.programClosed program.name), program) := by
  simp [applyProcessorLabels, committing, bracket, startTransaction_of_isClosed isClosed]

/-- An open program is labelled, whether a transaction is open on it or not; where none was, none is
left. -/
theorem applyProcessorLabels_of_isOpen {program : Program} (isOpen : program.isClosed = false)
    (options : List LoadOption) :
    ∃ state transaction nextTransaction deliveries,
      (applyProcessorLabels options).apply program =
        (.ok (), { program with state, transaction, nextTransaction, deliveries }) ∧
      (program.transaction = none → transaction = none) := by
  obtain ⟨nest, entries, started⟩ := startTransaction_of_isOpen isOpen "Finalize load"
  let opened := { program with
    transaction := some nest, nextTransaction := program.nextTransaction + 1 }
  have openedOpen : opened.isClosed = false := isOpen
  obtain ⟨pending, labelled⟩ := createProcessorLabels_of_nested openedOpen rfl options
  let worked := { opened with
    state := opened.labelledState options, transaction := some { nest with pending } }
  obtain ⟨state', transaction, deliveries, ended, idle⟩ :=
    endTransaction_frame (show worked.transaction = some _ from rfl) entries true
  have bracketed := @bracket_of_ended _ _ _ _ _ _ _ _ (fun _ => true) _ started labelled ended
  refine ⟨state', transaction, program.nextTransaction + 1, deliveries, ?_, ?_⟩
  · simp only [applyProcessorLabels, committing, Attempt.apply_of, bracketed, beforeEnd]
    rfl
  · intro wasIdle
    apply idle
    rw [wasIdle, Option.elim_none]

/-- What an open program is labelled with stays, since labelling asks for no rollback: its
transaction ends within the one around it, or is the outermost. The nest is as it was. -/
theorem applyProcessorLabels_eq {program : Program} (isOpen : program.isClosed = false)
    (nested : ∀ nest, program.transaction = some nest → nest.nest ≠ [])
    (options : List LoadOption) :
    ∃ transaction deliveries,
      (applyProcessorLabels options).apply program = (.ok (), { program with
        state := program.labelledState options, transaction
        nextTransaction := program.nextTransaction + 1, deliveries }) ∧
      transaction.map OpenTransaction.nest = program.transaction.map OpenTransaction.nest := by
  obtain ⟨nest, outer, entries, started, kept, around⟩ : ∃ nest outer,
      nest.nest = (program.nextTransaction, "Finalize load") :: outer ∧
      program.startTransaction "Finalize load" =
        .ok (program.nextTransaction, { program with
          transaction := some nest, nextTransaction := program.nextTransaction + 1 }) ∧
      (outer = [] → nest.isAborted = false) ∧
      program.transaction.map OpenTransaction.nest = if outer = [] then none else some outer := by
    cases held : program.transaction with
    | none => exact ⟨_, [], rfl, startTransaction_of_idle isOpen held _, fun _ => rfl, rfl⟩
    | some nest =>
        exact ⟨_, nest.nest, rfl, startTransaction_of_nested isOpen held _,
          fun isNil => absurd isNil (nested nest held), by simp [nested nest held]⟩
  let opened := { program with
    transaction := some nest, nextTransaction := program.nextTransaction + 1 }
  have openedOpen : opened.isClosed = false := isOpen
  obtain ⟨pending, labelled⟩ := createProcessorLabels_of_nested openedOpen rfl options
  let worked := { opened with
    state := opened.labelledState options, transaction := some { nest with pending } }
  obtain ⟨transaction, deliveries, success, nest_eq⟩ : ∃ transaction deliveries,
      worked.endTransaction program.nextTransaction true =
        .ok { worked with transaction, deliveries } ∧
      transaction.map OpenTransaction.nest = if outer = [] then none else some outer := by
    rw [endTransaction_of_innermost (show worked.transaction = some _ from rfl) entries]
    by_cases outermost : outer = []
    · obtain ⟨deliveries, settled⟩ := settle_frame worked ⟨[], nest.atOpening, false, pending⟩
      refine ⟨none, deliveries, ?_, by simp [outermost]⟩
      simpa [outermost, kept outermost] using settled
    · exact ⟨_, worked.deliveries, if_neg (mt List.isEmpty_iff.mp outermost),
        by simp [outermost]⟩
  have bracketed := @bracket_of_ended _ _ _ _ _ _ _ _ (fun _ => true) _ started labelled success
  refine ⟨transaction, deliveries, ?_, nest_eq.trans around.symm⟩
  simp only [applyProcessorLabels, committing, Attempt.apply_of, bracketed]
  rfl

theorem state_of_applyProcessorLabels {program : Program} (isOpen : program.isClosed = false)
    (nested : ∀ nest, program.transaction = some nest → nest.nest ≠ [])
    (options : List LoadOption) :
    ((applyProcessorLabels options).apply program).2.state = program.labelledState options := by
  obtain ⟨transaction, deliveries, labelled, -⟩ := applyProcessorLabels_eq isOpen nested options
  rw [labelled]

end ImageImport.Program
