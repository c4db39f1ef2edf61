import ImageImport.Attempt
import ImageImport.Program.Basic

/-!
Contract: transactions on programs.

A transaction started while another is open joins its nest. The end of the outermost one decides:
the state at its opening comes back if any of the nest asked for a rollback, and otherwise the
changes stay and listeners hear of them, if the gate is open.

Owns: starting, ending, and running a body between the two.
-/

namespace ImageImport.Program

variable {α : Type}

def startTransaction (program : Program) (description : String) :
    Except Failure (Nat × Program) :=
  if program.isClosed then .error (.programClosed program.name)
  else
    let id := program.nextTransaction
    let opened :=
      match program.transaction with
      | some nest => { nest with nest := (id, description) :: nest.nest }
      | none => ⟨[(id, description)], program.state, false, []⟩
    .ok (id, { program with transaction := some opened, nextTransaction := id + 1 })

/-- The program after its outermost transaction, with nothing left of the nest but this. -/
def settle (program : Program) (nest : OpenTransaction) : Program :=
  let settled := { program with transaction := none }
  if nest.isAborted then { settled with state := nest.atOpening }
  else if program.eventsEnabled then
    nest.pending.foldl (fun told what => told.deliver (.changed what)) settled
  else settled

/-- The program after the end of its innermost transaction, which must be the one named. -/
def endTransaction (program : Program) (id : Nat) (commit : Bool) : Except Failure Program :=
  match program.transaction with
  | none => .error (.noTransaction program.name)
  | some nest =>
      match nest.nest with
      | [] => .error (.transactionMismatch id)
      | (innermost, _) :: outer =>
          if innermost ≠ id then .error (.transactionMismatch id)
          else
            let ended := { nest with nest := outer, isAborted := nest.isAborted || !commit }
            if outer.isEmpty then .ok (program.settle ended)
            else .ok { program with transaction := some ended }

theorem startTransaction_of_isClosed {program : Program} (isClosed : program.isClosed = true)
    (description : String) :
    program.startTransaction description = .error (.programClosed program.name) := by
  simp [startTransaction, isClosed]

/-- The first transaction keeps the state as it is. -/
theorem startTransaction_of_idle {program : Program} (isOpen : program.isClosed = false)
    (idle : program.transaction = none) (description : String) :
    program.startTransaction description =
      .ok (program.nextTransaction, { program with
        transaction := some ⟨[(program.nextTransaction, description)], program.state, false, []⟩
        nextTransaction := program.nextTransaction + 1 }) := by
  simp [startTransaction, isOpen, idle]

/-- A further transaction joins the nest. -/
theorem startTransaction_of_nested {program : Program} {nest : OpenTransaction}
    (isOpen : program.isClosed = false) (nested : program.transaction = some nest)
    (description : String) :
    program.startTransaction description =
      .ok (program.nextTransaction, { program with
        transaction := some
          { nest with nest := (program.nextTransaction, description) :: nest.nest }
        nextTransaction := program.nextTransaction + 1 }) := by
  simp [startTransaction, isOpen, nested]

/-- However many transactions are open, the new one becomes the innermost. -/
theorem startTransaction_of_isOpen {program : Program} (isOpen : program.isClosed = false)
    (description : String) :
    ∃ nest, nest.nest =
        (program.nextTransaction, description) :: program.transaction.elim [] OpenTransaction.nest ∧
      program.startTransaction description =
        .ok (program.nextTransaction, { program with
          transaction := some nest, nextTransaction := program.nextTransaction + 1 }) := by
  cases held : program.transaction with
  | none => exact ⟨_, rfl, startTransaction_of_idle isOpen held description⟩
  | some nest => exact ⟨_, rfl, startTransaction_of_nested isOpen held description⟩

/-- Told of changes one after another, every listener hears of each in turn. -/
theorem foldl_deliver (changes : List String) (program : Program) :
    changes.foldl (fun told what => told.deliver (.changed what)) program =
      { program with deliveries := program.deliveries ++ changes.flatMap fun what =>
          program.listeners.map fun listener => (listener, .changed what) } := by
  induction changes generalizing program with
  | nil => simp
  | cons what rest inductionHypothesis =>
      rw [List.foldl_cons, inductionHypothesis]
      simp [deliver]

/-- The program after its outermost transaction: a rollback is told to nobody, and neither is
anything behind a shut gate. -/
theorem settle_eq (program : Program) (nest : OpenTransaction) :
    program.settle nest = { program with
      transaction := none
      state := if nest.isAborted then nest.atOpening else program.state
      deliveries := program.deliveries ++
        (if nest.isAborted || !program.eventsEnabled then [] else nest.pending).flatMap fun what =>
          program.listeners.map fun listener => (listener, .changed what) } := by
  unfold settle
  cases aborted : nest.isAborted with
  | true => simp
  | false =>
      cases enabled : program.eventsEnabled with
      | false => simp
      | true => simp [foldl_deliver]

/-- What is left of a program after its outermost transaction, its deliveries apart. -/
theorem settle_frame (program : Program) (nest : OpenTransaction) :
    ∃ deliveries, program.settle nest =
      { program with
        transaction := none
        state := if nest.isAborted then nest.atOpening else program.state
        deliveries } :=
  ⟨_, program.settle_eq nest⟩

/-- Behind a shut gate nothing is told of what the transaction came to. -/
theorem settle_of_shut {program : Program} (shut : program.eventsEnabled = false)
    (nest : OpenTransaction) :
    program.settle nest = { program with
      transaction := none
      state := if nest.isAborted then nest.atOpening else program.state } := by
  simp [settle_eq, shut]

/-- The end of the innermost transaction settles the program if that was the outermost one too. -/
theorem endTransaction_of_innermost {program : Program} {nest : OpenTransaction} {id : Nat}
    {description : String} {outer : List (Nat × String)} (held : program.transaction = some nest)
    (entries : nest.nest = (id, description) :: outer) (commit : Bool) :
    program.endTransaction id commit =
      let left := { nest with nest := outer, isAborted := nest.isAborted || !commit }
      if outer.isEmpty then .ok (program.settle left)
      else .ok { program with transaction := some left } := by
  simp [endTransaction, held, entries]

/-- The end of the innermost transaction changes no more than state, nest and deliveries. -/
theorem endTransaction_frame {program : Program} {nest : OpenTransaction} {id : Nat}
    {description : String} {outer : List (Nat × String)} (held : program.transaction = some nest)
    (entries : nest.nest = (id, description) :: outer) (commit : Bool) :
    ∃ state transaction deliveries,
      program.endTransaction id commit =
        .ok { program with state, transaction, deliveries } ∧
      (outer = [] → transaction = none) := by
  rw [endTransaction_of_innermost held entries]
  by_cases outermost : outer = []
  · obtain ⟨deliveries, settled⟩ := settle_frame program
      { nest with nest := outer, isAborted := nest.isAborted || !commit }
    refine ⟨if nest.isAborted || !commit then nest.atOpening else program.state, none, deliveries,
      ?_, fun _ => rfl⟩
    subst outermost
    exact congrArg Except.ok settled
  · refine ⟨program.state, some { nest with nest := outer, isAborted := nest.isAborted || !commit },
      program.deliveries, ?_, fun isNil => absurd isNil outermost⟩
    simp only [List.isEmpty_iff, outermost, if_false]

/-- Only the innermost transaction can end. -/
theorem innermost_of_endTransaction {program ended : Program} {id : Nat} {commit : Bool}
    (success : program.endTransaction id commit = .ok ended) :
    ∃ nest description outer, program.transaction = some nest ∧
      nest.nest = (id, description) :: outer := by
  unfold endTransaction at success
  split at success
  · contradiction
  · next nest held =>
      split at success
      · contradiction
      · next innermost description outer entries =>
          split at success
          · contradiction
          · next same =>
              obtain rfl := Decidable.not_not.mp same
              exact ⟨nest, description, outer, held, entries⟩

/-- All that a successful end can do: settle the program, or leave the innermost transaction for the
one around it. -/
theorem endTransaction_cases {program ended : Program} {id : Nat} {commit : Bool}
    (success : program.endTransaction id commit = .ok ended) :
    ∃ nest description outer, program.transaction = some nest ∧
      nest.nest = (id, description) :: outer ∧
      ((outer = [] ∧ ∃ deliveries, ended = { program with
          transaction := none
          state := if nest.isAborted || !commit then nest.atOpening else program.state
          deliveries }) ∨
        ended = { program with
          transaction := some
            { nest with nest := outer, isAborted := nest.isAborted || !commit } }) := by
  obtain ⟨nest, description, outer, held, entries⟩ := innermost_of_endTransaction success
  rw [endTransaction_of_innermost held entries] at success
  refine ⟨nest, description, outer, held, entries, ?_⟩
  by_cases outermost : outer = []
  · subst outermost
    obtain ⟨deliveries, settled⟩ := settle_frame program
      { nest with nest := [], isAborted := nest.isAborted || !commit }
    exact .inl ⟨rfl, deliveries, (Except.ok.inj success).symm.trans settled⟩
  · simp only [List.isEmpty_iff, if_neg outermost] at success
    exact .inr (Except.ok.inj success).symm

/-- Runs a body in a transaction, which commits as `commit` says of the body's result. Gives that
result, the outcome of the end, and the program after both. -/
def bracket {ρ : Type} (program : Program) (description : String) (body : Program → ρ × Program)
    (commit : ρ → Bool) : Except Failure (ρ × Except Failure Unit × Program) :=
  match program.startTransaction description with
  | .error failure => .error failure
  | .ok (id, opened) =>
      let (result, worked) := body opened
      match worked.endTransaction id (commit result) with
      | .ok ended => .ok (result, .ok (), ended)
      | .error failure => .ok (result, .error failure, worked)

theorem bracket_of_ended {ρ : Type} {program opened worked finished : Program} {id : Nat}
    {description : String} {body : Program → ρ × Program} {commit : ρ → Bool} {result : ρ}
    (started : program.startTransaction description = .ok (id, opened))
    (ran : body opened = (result, worked))
    (ended : worked.endTransaction id (commit result) = .ok finished) :
    program.bracket description body commit = .ok (result, .ok (), finished) := by
  simp [bracket, started, ran, ended]

/-- The result, unless the end of its transaction failed. -/
def afterEnd (result : Except Failure α) (ended : Except Failure Unit) : Except Failure α :=
  match ended with
  | .error failure => .error failure
  | .ok () => result

/-- The result; for one that did not fail, the end of its transaction may. -/
def beforeEnd (result : Except Failure α) (ended : Except Failure Unit) : Except Failure α :=
  match result with
  | .error failure => .error failure
  | .ok value =>
      match ended with
      | .error failure => .error failure
      | .ok () => .ok value

def isOk : Except Failure α → Bool
  | .ok _ => true
  | .error _ => false

/-- Runs a body in a transaction that commits if the body does not fail. -/
def withTransaction (description : String) (body : Attempt Program α) : Attempt Program α :=
  .of fun program =>
    match program.bracket description body.apply isOk with
    | .ok (result, ended, after) => (afterEnd result ended, after)
    | .error failure => (.error failure, program)

/-- Runs a body in a transaction that commits even if the body fails. -/
def committing (description : String) (body : Attempt Program α) : Attempt Program α :=
  .of fun program =>
    match program.bracket description body.apply fun _ => true with
    | .ok (result, ended, after) => (beforeEnd result ended, after)
    | .error failure => (.error failure, program)

end ImageImport.Program
