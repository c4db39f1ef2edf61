import ImageImport.Proofs.Program.Step

/-!
Contract: what an outermost transaction makes of the state, whatever is done inside it.

Ids are never given twice. So the end of the outermost transaction can only succeed while it is
still open and alone in its nest, and nothing has to be assumed of the calls in between: one that
closes the program makes that end impossible.

Owns: the invariant of a transaction in progress, `Within`, and the outcome of its end.
-/

namespace ImageImport.Program

/-- A program inside the transaction `outermost`, which was opened on the state `opening`, after a
history of calls. -/
structure Within (outermost : Nat) (opening : ProgramState) (history : List Performed)
    (program : Program) : Prop where
  isOpen : program.isClosed = false
  produced_eq : program.state = produced opening history
  nested : ∃ nest inner description, program.transaction = some nest ∧
    nest.nest = inner ++ [(outermost, description)] ∧ nest.atOpening = opening ∧
    nest.isAborted = history.any Performed.asksRollback ∧
    ∀ entry ∈ inner, outermost < entry.1
  given : outermost < program.nextTransaction

/-- A program whose transaction `outermost` is over for good. -/
structure Past (outermost : Nat) (program : Program) : Prop where
  not_nested : ∀ nest, program.transaction = some nest →
    ∀ entry ∈ nest.nest, entry.1 ≠ outermost
  given : outermost < program.nextTransaction

theorem Past.of_idle {outermost : Nat} {program : Program} (idle : program.transaction = none)
    (given : outermost < program.nextTransaction) : Past outermost program :=
  ⟨by simp [idle], given⟩

theorem any_asksRollback_append (history : List Performed) (last : Performed) :
    (history ++ [last]).any Performed.asksRollback =
      (history.any Performed.asksRollback || last.asksRollback) := by
  simp

theorem produced_append (opening : ProgramState) (history : List Performed) (last : Performed) :
    produced opening (history ++ [last]) = last.produce (produced opening history) := by
  simp [produced]

/-! ## What one call does to a transaction in progress -/

section Steps

variable {outermost : Nat} {opening : ProgramState} {history : List Performed}
  {program next : Program}

/-- A call that touches neither the state nor the nest. -/
theorem Within.of_unchanged (within : Within outermost opening history program) {last : Performed}
    (noWish : last.asksRollback = false) (noChange : ∀ state, last.produce state = state)
    (isOpen : next.isClosed = program.isClosed) (sameState : next.state = program.state)
    (sameNest : next.transaction = program.transaction)
    (sameNext : next.nextTransaction = program.nextTransaction) :
    Within outermost opening (history ++ [last]) next := by
  obtain ⟨nest, inner, first, held, entries, atOpening, aborted, above⟩ := within.nested
  refine ⟨isOpen.trans within.isOpen, ?_, ?_, sameNext ▸ within.given⟩
  · rw [produced_append, noChange, sameState]
    exact within.produced_eq
  · refine ⟨nest, inner, first, sameNest.trans held, entries, atOpening, ?_, above⟩
    rw [any_asksRollback_append, noWish, aborted, Bool.or_false]

theorem Within.start (within : Within outermost opening history program) (description : String) :
    Within outermost opening
      (history ++ [⟨.start description, isOk ((Operation.start description).perform program).1⟩])
      ((Operation.start description).perform program).2 := by
  obtain ⟨nest, inner, first, held, entries, atOpening, aborted, above⟩ := within.nested
  have opened := startTransaction_of_nested within.isOpen held description
  simp only [Operation.perform, Attempt.ofUpdate, Attempt.apply_of, opened, Except.map]
  refine ⟨within.isOpen, ?_, ?_, Nat.lt_succ_of_lt within.given⟩
  · rw [produced_append]
    exact within.produced_eq
  · refine ⟨_, (program.nextTransaction, description) :: inner, first, rfl, ?_, atOpening, ?_, ?_⟩
    · rw [entries, List.cons_append]
    · rw [any_asksRollback_append, ← aborted]
      exact (Bool.or_false _).symm
    · intro entry member
      rcases List.mem_cons.mp member with rfl | inInner
      · exact within.given
      · exact above entry inInner

theorem Within.mutate (within : Within outermost opening history program) (mutation : Mutation) :
    Within outermost opening
      (history ++ [⟨.mutate mutation, isOk (mutation.perform program).1⟩])
      (mutation.perform program).2 := by
  obtain ⟨nest, inner, first, held, entries, atOpening, aborted, above⟩ := within.nested
  have performed := Mutation.perform_of_nested within.isOpen held mutation
  have sameWish (succeeded : Bool) : nest.isAborted =
      (history ++ [(⟨.mutate mutation, succeeded⟩ : Performed)]).any Performed.asksRollback := by
    rw [any_asksRollback_append, ← aborted]
    exact (Bool.or_false _).symm
  rw [performed]
  cases changed : mutation.change program.state with
  | ok state =>
      refine ⟨within.isOpen, ?_, ?_, within.given⟩
      · rw [produced_append, ← within.produced_eq]
        simp [Performed.produce, isOk, changed]
      · exact ⟨_, inner, first, rfl, entries, atOpening, sameWish _, above⟩
  | error failure =>
      refine ⟨within.isOpen, ?_, ?_, within.given⟩
      · rw [produced_append]
        exact within.produced_eq
      · exact ⟨_, inner, first, rfl, entries, atOpening, sameWish _, above⟩

/-- A successful end is either that of the outermost transaction, which settles the program, or that
of another one, which leaves the program within. -/
theorem Within.finish (within : Within outermost opening history program) {id : Nat}
    {commit : Bool} (success : program.endTransaction id commit = .ok next) :
    (id = outermost ∧ next.transaction = none ∧
        next.nextTransaction = program.nextTransaction ∧
        next.state =
          if history.any Performed.asksRollback || !commit then opening else program.state) ∨
      (id ≠ outermost ∧
        Within outermost opening (history ++ [⟨.finish id commit, true⟩]) next) := by
  obtain ⟨nest, inner, first, held, entries, atOpening, aborted, above⟩ := within.nested
  obtain ⟨nest', description, outer, held', entries'⟩ := innermost_of_endTransaction success
  obtain rfl : nest = nest' := Option.some.inj (held.symm.trans held')
  have ended := endTransaction_of_innermost held entries' commit
  rw [success] at ended
  rw [entries] at entries'
  cases inner with
  | nil =>
      obtain ⟨top, rfl⟩ := List.cons.inj entries'
      rw [Prod.mk.injEq] at top
      obtain ⟨deliveries, settled⟩ := settle_frame program
        { nest with nest := [], isAborted := nest.isAborted || !commit }
      obtain rfl := (Except.ok.inj ended).trans settled
      refine .inl ⟨top.1.symm, rfl, rfl, ?_⟩
      rw [← aborted, ← atOpening]
  | cons entry rest =>
      rw [List.cons_append, List.cons.injEq] at entries'
      obtain ⟨rfl, rfl⟩ := entries'
      have notLast : (rest ++ [(outermost, first)]).isEmpty = false := by simp
      simp only [notLast, Bool.false_eq_true, if_false] at ended
      obtain rfl := Except.ok.inj ended
      have idAbove : outermost < id := above (id, description) (by simp)
      refine .inr ⟨by omega, within.isOpen, ?_, ?_, within.given⟩
      · rw [produced_append]
        exact within.produced_eq
      · refine ⟨_, rest, first, rfl, rfl, atOpening, ?_, ?_⟩
        · rw [any_asksRollback_append, ← aborted]
          cases commit <;> rfl
        · exact fun other member => above other (List.mem_cons_of_mem _ member)

/-- A call leaves the program within the transaction, or past it for good. -/
theorem Within.perform (within : Within outermost opening history program)
    (operation : Operation) :
    Within outermost opening (history ++ [⟨operation, isOk (operation.perform program).1⟩])
        (operation.perform program).2 ∨
      Past outermost (operation.perform program).2 := by
  cases operation with
  | start description => exact .inl (within.start description)
  | finish id commit =>
      simp only [Operation.perform, Attempt.apply_ofChange]
      cases ended : program.endTransaction id commit with
      | error failure =>
          refine .inl (within.of_unchanged ?_ (fun _ => rfl) rfl rfl rfl rfl)
          cases commit <;> rfl
      | ok next =>
          rcases within.finish ended with ⟨-, idle, sameNext, -⟩ | ⟨-, still⟩
          · exact .inr (.of_idle idle (sameNext ▸ within.given))
          · exact .inl still
  | mutate mutation => exact .inl (within.mutate mutation)
  | setEventsEnabled enabled =>
      obtain ⟨deliveries, equal⟩ := program.setEventsEnabled_frame enabled
      simp only [Operation.perform, equal]
      exact .inl (within.of_unchanged rfl (fun _ => rfl) rfl rfl rfl rfl)
  | addListener listener =>
      exact .inl (within.of_unchanged rfl (fun _ => rfl) rfl rfl rfl rfl)
  | addConsumer consumer =>
      obtain ⟨consumers, equal⟩ := program.addConsumer_frame consumer
      simp only [Operation.perform, equal]
      exact .inl (within.of_unchanged rfl (fun _ => rfl) rfl rfl rfl rfl)
  | release consumer =>
      obtain ⟨consumers, equal | equal⟩ := program.release_cases consumer
      · simp only [Operation.perform, equal]
        exact .inl (within.of_unchanged rfl (fun _ => rfl) rfl rfl rfl rfl)
      · have isOpen : ({ program with consumers } : Program).isClosed = false := within.isOpen
        obtain ⟨-, idle, -, sameNext⟩ := close_of_isOpen isOpen
        simp only [Operation.perform, equal]
        exact .inr (.of_idle idle (by rw [sameNext]; exact within.given))

/-- What is over stays over: no call brings an id back. -/
theorem Past.step {call : Performed} (past : Past outermost program)
    (step : Step program call next) : Past outermost next := by
  have ⟨notNested, given⟩ := past
  have fresh : program.nextTransaction ≠ outermost := Nat.ne_of_gt given
  cases step with
  | refused isRefused => exact past
  | opens description isOpen idle => exact ⟨by simp [fresh], Nat.lt_succ_of_lt given⟩
  | joins description isOpen held =>
      refine ⟨fun joined equal entry member => ?_, Nat.lt_succ_of_lt given⟩
      obtain rfl := Option.some.inj equal
      rcases List.mem_cons.mp member with rfl | inNest
      · exact fresh
      · exact notNested _ held entry inNest
  | leaves commit held entries isNested =>
      refine ⟨fun left equal entry member => ?_, given⟩
      obtain rfl := Option.some.inj equal
      exact notNested _ held entry (by rw [entries]; exact .tail _ member)
  | settles commit held entries => exact .of_idle rfl given
  | changes isOpen held changed =>
      have sameNest := notNested _ held
      exact ⟨by simpa using sameNest, given⟩
  | fails isOpen held failed =>
      have sameNest := notNested _ held
      exact ⟨by simpa using sameNest, given⟩
  | gates enabled => exact ⟨notNested, given⟩
  | listens listener => exact ⟨notNested, given⟩
  | claims consumer => exact ⟨notNested, given⟩
  | yields stays => exact ⟨notNested, given⟩
  | closes isOpen last => exact .of_idle rfl given

end Steps

/-! ## A run of calls -/

variable {outermost : Nat} {opening : ProgramState} {history : List Performed}
  {program : Program}

theorem Past.run (past : Past outermost program) (operations : List Operation) :
    Past outermost (run operations program).2 :=
  kept_by_run Past.step past operations

theorem Within.run (within : Within outermost opening history program)
    (operations : List Operation) :
    Within outermost opening (history ++ (run operations program).1) (run operations program).2 ∨
      Past outermost (run operations program).2 := by
  induction operations generalizing history program with
  | nil => exact .inl (by simpa [Program.run] using within)
  | cons operation rest inductionHypothesis =>
      rcases within.perform operation with still | past
      · have later := inductionHypothesis still
        rw [List.append_assoc, List.singleton_append] at later
        exact later
      · exact .inr (past.run rest)

/-- A transaction that is past cannot end. -/
theorem Past.not_ended (past : Past outermost program) {commit : Bool} {ended : Program} :
    program.endTransaction outermost commit ≠ .ok ended := by
  intro success
  obtain ⟨nest, description, outer, held, entries⟩ := innermost_of_endTransaction success
  exact past.not_nested nest held (outermost, description) (by simp [entries]) rfl

theorem within_of_startTransaction {opened : Program} {description : String}
    (idle : program.transaction = none)
    (started : program.startTransaction description = .ok (outermost, opened)) :
    Within outermost program.state [] opened := by
  by_cases isClosed : program.isClosed = true
  · rw [startTransaction_of_isClosed isClosed] at started
    contradiction
  · rw [Bool.not_eq_true] at isClosed
    rw [startTransaction_of_idle isClosed idle] at started
    obtain ⟨rfl, rfl⟩ := Prod.mk.inj (Except.ok.inj started)
    exact ⟨isClosed, rfl, ⟨_, [], description, rfl, rfl, rfl, rfl, by simp⟩, Nat.lt_succ_self _⟩

/-- Whatever calls lie between the start of an outermost transaction and its end, and whichever of
them succeed: up to the end, the state is what the successful changes made of the state at the
start. The end restores that state if any successful end within the nest, or this one, asked for it,
and leaves the changed state otherwise. -/
theorem transaction_restores_or_keeps {opened ended : Program} {description : String}
    {commit : Bool} (idle : program.transaction = none)
    (started : program.startTransaction description = .ok (outermost, opened))
    (operations : List Operation)
    (success : (run operations opened).2.endTransaction outermost commit = .ok ended) :
    (∀ earlier later, operations = earlier ++ later →
      (run earlier opened).2.state = produced program.state (run earlier opened).1 ∧
        (run earlier opened).2.hasTransaction = true) ∧
    ended.state =
      (if (run operations opened).1.any Performed.asksRollback || !commit then program.state
      else produced program.state (run operations opened).1) ∧
    ended.transaction = none := by
  have within := within_of_startTransaction idle started
  constructor
  · rintro earlier later rfl
    rcases within.run earlier with still | past
    · obtain ⟨nest, -, -, held, -⟩ := still.nested
      exact ⟨still.produced_eq, by rw [hasTransaction, held, Option.isSome_some]⟩
    · rw [run_append] at success
      exact absurd success (past.run later).not_ended
  · rcases within.run operations with still | past
    · rcases still.finish success with ⟨-, idle, -, state⟩ | ⟨notOutermost, -⟩
      · rw [still.produced_eq] at state
        exact ⟨state, idle⟩
      · exact absurd rfl notOutermost
    · exact absurd success past.not_ended

/-- A nested wish for a rollback outweighs the outer commit, beside a mismatched end and a change
that is refused. -/
theorem inner_rollback_outweighs_outer_commit :
    let program := make "image" (.make "target" ⟨"ram", .ram, 16, none⟩) "default" ⟨1⟩
    let calls : List Operation := [.mutate (.setProperty "kept" "no"), .start "inner",
      .mutate (.setAnalyzed true), .mutate (.setImageBase ⟨"rom", .ram, 0, 16, none⟩),
      .finish 7 true, .finish 2 false, .setEventsEnabled false, .addConsumer ⟨2⟩]
    ∃ opened ended, program.transaction = none ∧
      program.startTransaction "outer" = .ok (1, opened) ∧
      (run calls opened).2.endTransaction 1 true = .ok ended ∧
      (run calls opened).2.state ≠ program.state ∧
      ended.state = program.state ∧ ended.transaction = none := by
  intro program calls
  refine ⟨_, _, rfl, rfl, rfl, by decide, ?_⟩
  exact (@transaction_restores_or_keeps 1 program _ _ "outer" true rfl rfl calls rfl).2

end ImageImport.Program
