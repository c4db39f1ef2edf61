import ImageImport.Proofs.Program.Scoped

/-!
Contract: transactions around work that comes to another state and notes of the change.

Most work of a load is of this kind: it leaves owners, listeners and the nest alone. What becomes of
the program then hangs on nothing but the state that the work came to, and on whether the transaction
commits.

Owns: `Program.changedTo`, and the three ways to run such work in a transaction of its own.
Does not own: work that starts or ends transactions.
-/

namespace ImageImport.Program

variable {α ρ : Type} {program : Program}

/-- The program with another state, and with notes of the change. -/
def changedTo (program : Program) (state : ProgramState) (notes : List String) : Program :=
  { program with
    state
    transaction := program.transaction.map fun nest =>
      { nest with pending := nest.pending ++ notes } }

theorem changedTo_state (program : Program) : program.changedTo program.state [] = program := by
  simp [changedTo]

theorem changedTo_changedTo (program : Program) (first second : ProgramState)
    (earlier later : List String) :
    (program.changedTo first earlier).changedTo second later =
      program.changedTo second (earlier ++ later) := by
  simp [changedTo, Option.map_map, Function.comp_def]

@[simp] theorem refusal?_changedTo (program : Program) (state : ProgramState)
    (notes : List String) : (program.changedTo state notes).refusal? = program.refusal? := by
  simp [refusal?, changedTo]

/-- A program in a transaction of its own may be changed. -/
theorem refusal?_begun (isOpen : program.isClosed = false) (description : String) :
    (program.begun description).refusal? = none := by
  simp [refusal?, begun, isOpen]

section Brackets

variable {description : String} {state : ProgramState} {notes : List String}

/-- The transaction around the work ends, and the program has the new state if it commits. Behind a
shut gate nobody hears of it. -/
theorem bracket_of_changedTo (isOpen : program.isClosed = false)
    (idle : program.transaction = none) {body : Program → ρ × Program} {result : ρ}
    (commit : ρ → Bool)
    (ran : body (program.begun description) =
      (result, (program.begun description).changedTo state notes)) :
    ∃ deliveries, program.bracket description body commit = .ok (result, .ok (), { program with
        state := if commit result then state else program.state
        nextTransaction := program.nextTransaction + 1
        deliveries }) ∧
      (program.eventsEnabled = false → deliveries = program.deliveries) := by
  let worked := (program.begun description).changedTo state notes
  let nest : OpenTransaction := ⟨[], program.state, !commit result, notes⟩
  have ended : worked.endTransaction program.nextTransaction (commit result) =
      .ok (worked.settle nest) := by
    rw [endTransaction_of_innermost rfl rfl]
    rfl
  have bracketed := bracket_of_ended (startTransaction_begun isOpen idle description) ran ended
  refine ⟨(worked.settle nest).deliveries, ?_, fun shut => ?_⟩
  · rw [bracketed, settle_eq]
    simp only [worked, nest, changedTo, begun, idle]
    cases commit result <;> rfl
  · have stillShut : worked.eventsEnabled = false := shut
    rw [settle_of_shut stillShut]
    rfl

/-- Work that does not fail is kept, and a failure leaves the state from before. -/
theorem withTransaction_of_changedTo (isOpen : program.isClosed = false)
    (idle : program.transaction = none) {body : Attempt Program α} {result : Except Failure α}
    (ran : body.apply (program.begun description) =
      (result, (program.begun description).changedTo state notes)) :
    ∃ deliveries, (withTransaction description body).apply program = (result, { program with
        state := if isOk result then state else program.state
        nextTransaction := program.nextTransaction + 1
        deliveries }) ∧
      (program.eventsEnabled = false → deliveries = program.deliveries) := by
  obtain ⟨deliveries, bracketed, unheard⟩ := bracket_of_changedTo isOpen idle isOk ran
  refine ⟨deliveries, ?_, unheard⟩
  simp only [withTransaction, Attempt.apply_of, bracketed, afterEnd]

/-- Work that commits in any case is kept. -/
theorem committing_of_changedTo (isOpen : program.isClosed = false)
    (idle : program.transaction = none) {body : Attempt Program α} {result : Except Failure α}
    (ran : body.apply (program.begun description) =
      (result, (program.begun description).changedTo state notes)) :
    ∃ deliveries, (committing description body).apply program = (result, { program with
        state, nextTransaction := program.nextTransaction + 1, deliveries }) ∧
      (program.eventsEnabled = false → deliveries = program.deliveries) := by
  obtain ⟨deliveries, bracketed, unheard⟩ :=
    bracket_of_changedTo isOpen idle (fun _ => true) ran
  refine ⟨deliveries, ?_, unheard⟩
  simp only [committing, Attempt.apply_of, bracketed]
  cases result <;> rfl

end Brackets

end ImageImport.Program
