import ImageImport.Proofs.Program.Balance

/-!
Contract: what `withTransaction` makes of a program, whatever its body does to it.

The transaction around a body is over afterwards if the body has ended every transaction that it
started, or has closed the program on its way. A body that leaves one of its own open takes the one
around it along: that one cannot end out of turn, and all that comes of the attempt is its failure.
Both stay open then, with whatever was changed.

Owns: the program that a body is handed, the count of what a body leaves open, and the outcome of
the end in each of these cases.
Does not own: bodies that end the transaction around them.
-/

namespace ImageImport.Program

variable {α : Type}

/-- The program as a body is handed it, in a transaction that has just been opened. -/
def begun (program : Program) (description : String) : Program :=
  { program with
    transaction := some ⟨[(program.nextTransaction, description)], program.state, false, []⟩
    nextTransaction := program.nextTransaction + 1 }

/-- The body does to the program that it is handed what these calls do. -/
def RunsBy (body : Attempt Program α) (program : Program) (operations : List Operation) : Prop :=
  (body.apply program).2 = (run operations program).2

/-- A body that makes calls on the program, whatever becomes of each, and then answers. -/
def calling (operations : List Operation) (answer : Except Failure α) : Attempt Program α :=
  .of fun program => (answer, (run operations program).2)

/-- A program that was closed inside a transaction, and so went back to the state `opening`. -/
structure ClosedOn (opening : ProgramState) (program : Program) : Prop where
  isClosed : program.isClosed = true
  idle : program.transaction = none
  state_eq : program.state = opening

/-- A program that calls have left so deep within the transaction around them, or closed. -/
inductive Scoped (outermost : Nat) (opening : ProgramState) (history : List Performed)
    (depth : Nat) (program : Program) : Prop where
  | inside (inside : Inside outermost opening history depth program)
  | closed (closed : ClosedOn opening program)

section Calls

variable {outermost : Nat} {opening : ProgramState} {history : List Performed} {depth next : Nat}
  {program : Program}

/-- Nothing changes the state of a closed program, or opens a transaction on it. -/
theorem ClosedOn.step {call : Performed} {after : Program} (closed : ClosedOn opening program)
    (step : Step program call after) : ClosedOn opening after := by
  obtain ⟨isClosed, idle, state_eq⟩ := closed
  cases step with
  | opens description isOpen _ => simp [isOpen] at isClosed
  | joins description isOpen held => simp [isOpen] at isClosed
  | leaves commit held entries isNested => simp [idle] at held
  | settles commit held entries => simp [idle] at held
  | changes isOpen held changed => simp [isOpen] at isClosed
  | fails isOpen held failed => simp [isOpen] at isClosed
  | closes isOpen last => simp [isOpen] at isClosed
  | _ => exact ⟨isClosed, idle, state_eq⟩

/-- Inside a transaction, giving up the last claim closes the program on the state at its
opening. -/
theorem Inside.release (inside : Inside outermost opening history depth program)
    (consumer : Consumer) :
    Scoped outermost opening (history ++ [⟨.release consumer, true⟩]) depth
      (program.release consumer).2 := by
  have within := inside.within
  obtain ⟨consumers, equal | equal⟩ := program.release_cases consumer
  · rw [equal]
    exact .inside ⟨within.of_unchanged rfl (fun _ => rfl) rfl rfl rfl rfl, inside.depth_eq⟩
  · obtain ⟨nest, -, -, held, -, atOpening, -⟩ := within.nested
    have isOpen : ({ program with consumers } : Program).isClosed = false := within.isOpen
    rw [equal, close_eq_of_isOpen isOpen]
    refine .closed ⟨rfl, rfl, ?_⟩
    simp [held, atOpening]

/-- One call more, whatever it is, as long as it does not end the transaction around it. -/
theorem Inside.perform_scoped (inside : Inside outermost opening history depth program)
    (operation : Operation)
    (counted : Performed.depth? depth ⟨operation, isOk (operation.perform program).1⟩ =
      some next) :
    Scoped outermost opening (history ++ [⟨operation, isOk (operation.perform program).1⟩]) next
      (operation.perform program).2 := by
  cases operation with
  | setEventsEnabled enabled =>
      obtain rfl := Option.some.inj counted
      obtain ⟨deliveries, equal⟩ := program.setEventsEnabled_frame enabled
      simp only [Operation.perform, equal]
      exact .inside
        ⟨inside.within.of_unchanged rfl (fun _ => rfl) rfl rfl rfl rfl, inside.depth_eq⟩
  | release consumer =>
      obtain rfl := Option.some.inj counted
      exact inside.release consumer
  | _ =>
      refine .inside (inside.perform ?_ counted)
      exact trivial

/-- Calls that do not end the transaction around them leave the program as deep in it as they count
up to, if they do not close it. -/
theorem Inside.run_scoped (inside : Inside outermost opening history depth program)
    {operations : List Operation} {last : Nat}
    (counted : (Program.run operations program).1.foldlM Performed.depth? depth = some last) :
    Scoped outermost opening (history ++ (Program.run operations program).1) last
      (Program.run operations program).2 := by
  induction operations generalizing history depth program with
  | nil =>
      obtain rfl := Option.some.inj counted
      exact .inside (by simpa [Program.run] using inside)
  | cons operation rest inductionHypothesis =>
      rw [Program.run, List.foldlM_cons, Option.bind_eq_bind, Option.bind_eq_some_iff] at counted
      obtain ⟨next, countedFirst, countedRest⟩ := counted
      cases inside.perform_scoped operation countedFirst with
      | inside first =>
          have others := inductionHypothesis first countedRest
          rw [List.append_assoc, List.singleton_append] at others
          exact others
      | closed closed => exact .closed (kept_by_run ClosedOn.step closed rest)

/-- Where the transaction around the calls is the innermost one again, its end succeeds. -/
theorem Inside.finish_of_alone (inside : Inside outermost opening history 0 program)
    (commit : Bool) :
    ∃ deliveries, program.endTransaction outermost commit = .ok { program with
      transaction := none
      state := if history.any Performed.asksRollback || !commit then opening else program.state
      deliveries } := by
  obtain ⟨nest, description, held, entries, atOpening, aborted⟩ := inside.alone
  obtain ⟨deliveries, settled⟩ := program.settle_frame
    { nest with nest := [], isAborted := nest.isAborted || !commit }
  refine ⟨deliveries, ?_⟩
  rw [endTransaction_of_innermost held entries, ← aborted, ← atOpening]
  exact congrArg Except.ok settled

/-- Below a transaction that was left open, the one around it cannot end. -/
theorem Inside.finish_of_deeper (inside : Inside outermost opening history (depth + 1) program)
    (commit : Bool) :
    program.endTransaction outermost commit = .error (.transactionMismatch outermost) := by
  obtain ⟨nest, inner, first, held, entries, -, -, above⟩ := inside.within.nested
  cases inner with
  | nil =>
      have depth_eq := inside.depth_eq
      simp [nestDepth, held, entries] at depth_eq
  | cons entry rest =>
      have notInnermost : entry.1 ≠ outermost := Nat.ne_of_gt (above entry (by simp))
      simp [endTransaction, held, entries, notInnermost]

end Calls

section Bodies

variable {program : Program} {description : String} {body : Attempt Program α}
  {operations : List Operation}

theorem startTransaction_begun (isOpen : program.isClosed = false)
    (idle : program.transaction = none) (description : String) :
    program.startTransaction description =
      .ok (program.nextTransaction, program.begun description) :=
  startTransaction_of_idle isOpen idle description

/-- A body that runs by calls is followed by the end of the transaction around it. -/
theorem withTransaction_apply (isOpen : program.isClosed = false)
    (idle : program.transaction = none) :
    (withTransaction description body).apply program =
      let answered := body.apply (program.begun description)
      match answered.2.endTransaction program.nextTransaction (isOk answered.1) with
      | .ok ended => (answered.1, ended)
      | .error failure => (.error failure, answered.2) := by
  have started := startTransaction_begun isOpen idle description
  simp only [withTransaction, Attempt.apply_of, bracket, started]
  generalize body.apply (program.begun description) = answered
  obtain ⟨answer, worked⟩ := answered
  cases worked.endTransaction program.nextTransaction (isOk answer) with
  | error failure => rfl
  | ok ended => rfl

theorem inside_begun (isOpen : program.isClosed = false) (idle : program.transaction = none) :
    Inside program.nextTransaction program.state [] 0 (program.begun description) :=
  ⟨within_of_startTransaction idle (startTransaction_begun isOpen idle description), rfl⟩

section Outcomes

variable (isOpen : program.isClosed = false) (idle : program.transaction = none)
  (runsBy : RunsBy body (program.begun description) operations)

include isOpen idle runsBy

/-- A body that has ended all that it started is answered with its own answer. -/
theorem withTransaction_of_ended {history : List Performed}
    (inside : Inside program.nextTransaction program.state history 0
      (run operations (program.begun description)).2) :
    ∃ deliveries, (withTransaction description body).apply program =
      ((body.apply (program.begun description)).1,
        { (run operations (program.begun description)).2 with
          transaction := none
          state :=
            if history.any Performed.asksRollback || !isOk (body.apply (program.begun description)).1
            then program.state else (run operations (program.begun description)).2.state
          deliveries }) := by
  obtain ⟨deliveries, ended⟩ :=
    inside.finish_of_alone (isOk (body.apply (program.begun description)).1)
  refine ⟨deliveries, ?_⟩
  have worked : (body.apply (program.begun description)).2 = _ := runsBy
  simp only [withTransaction_apply isOpen idle, worked, ended]

/-- Where the transaction around a body cannot end, its answer is lost, and all stays as the body
left it. -/
theorem withTransaction_of_failure {failure : Failure}
    (refused : ∀ commit, (run operations (program.begun description)).2.endTransaction
      program.nextTransaction commit = .error failure) :
    (withTransaction description body).apply program =
      (.error failure, (run operations (program.begun description)).2) := by
  have worked : (body.apply (program.begun description)).2 = _ := runsBy
  simp only [withTransaction_apply isOpen idle, worked, refused]

end Outcomes

/-- For every body that ends no transaction but its own: none is open afterwards exactly if it has
ended all that it started, or has closed the program. Then a failure leaves the state from before
the call; and the answer, where the program is still open, is that of the body. In the other case
the end has come out of turn, and everything stays as the body left it. -/
theorem withTransaction_settles_what_is_ended (isOpen : program.isClosed = false)
    (idle : program.transaction = none)
    (runsBy : RunsBy body (program.begun description) operations) {unended : Nat}
    (counted : (run operations (program.begun description)).1.foldlM Performed.depth? 0 =
      some unended) :
    let answer := (body.apply (program.begun description)).1
    let history := (run operations (program.begun description)).1
    let worked := (run operations (program.begun description)).2
    let done := (withTransaction description body).apply program
    (done.2.transaction = none ↔ unended = 0 ∨ worked.isClosed = true) ∧
    (done.2.transaction = none →
      ∀ failure, done.1 = .error failure → done.2.state = program.state) ∧
    (unended = 0 → worked.isClosed = false →
      done.1 = answer ∧ done.2.state =
        if history.any Performed.asksRollback || !isOk answer then program.state
        else worked.state) ∧
    (done.2.transaction ≠ none →
      done = (.error (.transactionMismatch program.nextTransaction), worked)) := by
  intro answer history worked done
  have left : Scoped program.nextTransaction program.state history unended worked :=
    (inside_begun isOpen idle).run_scoped counted
  cases left with
  | closed closed =>
      have refused (commit : Bool) : worked.endTransaction program.nextTransaction commit =
          .error (.noTransaction worked.name) := by
        simp [endTransaction, closed.idle]
      have outcome : done = _ := withTransaction_of_failure isOpen idle runsBy refused
      have nowIdle : done.2.transaction = none := by rw [outcome, closed.idle]
      refine ⟨iff_of_true nowIdle (.inr closed.isClosed), fun _ _ _ => ?_, ?_,
        fun stillOpen => absurd nowIdle stillOpen⟩
      · rw [outcome, closed.state_eq]
      · intro _ stillOpen
        rw [closed.isClosed] at stillOpen
        contradiction
  | inside inside =>
      have stillOpen : worked.isClosed = false := inside.within.isOpen
      cases unended with
      | zero =>
          obtain ⟨deliveries, ended⟩ := withTransaction_of_ended isOpen idle runsBy inside
          have outcome : done = _ := ended
          have nowIdle : done.2.transaction = none := by rw [outcome]
          refine ⟨iff_of_true nowIdle (.inl rfl), fun _ failure failed => ?_, ?_,
            fun stillHeld => absurd nowIdle stillHeld⟩
          · have answered : answer = .error failure := by rw [← failed, outcome]
            rw [outcome]
            simp only [answer] at answered
            simp [answered, isOk]
          · intro _ _
            rw [outcome]
            exact ⟨rfl, rfl⟩
      | succ depth =>
          have outcome : done = _ :=
            withTransaction_of_failure isOpen idle runsBy inside.finish_of_deeper
          obtain ⟨nest, -, -, held, -⟩ := inside.within.nested
          have stillHeld : done.2.transaction ≠ none := by
            rw [outcome]
            simp [worked, held]
          refine ⟨iff_of_false stillHeld ?_, fun nowIdle => absurd nowIdle stillHeld,
            fun allEnded => absurd allEnded (Nat.succ_ne_zero depth), fun _ => outcome⟩
          simp [stillOpen]

/-- A body that fails after a transaction of its own, a change behind the gate that it shut, and an
end out of turn. -/
theorem failing_body_is_undone :
    let program := make "image" (.make "target" ⟨"ram", .ram, 16, none⟩) "default" ⟨1⟩
    let calls : List Operation := [.mutate (.setProperty "kept" "no"), .start "inner",
      .setEventsEnabled false, .mutate (.setAnalyzed true), .finish 1 true, .finish 2 true]
    let body : Attempt Program Unit := calling calls (.error .cancelled)
    let worked := run calls (program.begun "outer")
    let done := (withTransaction "outer" body).apply program
    program.isClosed = false ∧ program.transaction = none ∧
      RunsBy body (program.begun "outer") calls ∧
      worked.1.foldlM Performed.depth? 0 = some 0 ∧ worked.2.state ≠ program.state ∧
      done.1 = .error .cancelled ∧ done.2.transaction = none ∧ done.2.state = program.state := by
  intro program calls body worked done
  have runsBy : RunsBy body (program.begun "outer") calls := rfl
  obtain ⟨settles, undone, answers, -⟩ := @withTransaction_settles_what_is_ended _ program "outer"
    body calls rfl rfl runsBy 0 rfl
  have nowIdle := settles.mpr (.inl rfl)
  have failed : done.1 = .error .cancelled := (answers rfl rfl).1
  exact ⟨rfl, rfl, runsBy, rfl, by decide, failed, nowIdle, undone nowIdle _ failed⟩

/-- A body that fails, and leaves a transaction of its own open: both transactions stay open, and so
does the change that the body made. -/
theorem unended_body_is_not_undone :
    let program := make "image" (.make "target" ⟨"ram", .ram, 16, none⟩) "default" ⟨1⟩
    let calls : List Operation := [.start "inner", .mutate (.setProperty "kept" "yes")]
    let body : Attempt Program Unit := calling calls (.error .cancelled)
    let done := (withTransaction "outer" body).apply program
    program.isClosed = false ∧ program.transaction = none ∧
      RunsBy body (program.begun "outer") calls ∧
      done.1 = .error (.transactionMismatch 1) ∧ done.2.hasTransaction = true ∧
      done.2.state ≠ program.state := by
  intro program calls body done
  exact ⟨rfl, rfl, rfl, rfl, rfl, by decide⟩

end Bodies

end ImageImport.Program
