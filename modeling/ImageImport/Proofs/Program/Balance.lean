import ImageImport.Proofs.Program.Rollback

/-!
Contract: work that is done inside a transaction behind a shut gate, and that ends what it starts.

Work is any calls but those that open or shut the gate and those that give up a claim. It is
balanced if every successful end has a start of its own before it, and every start its end. The
depth is kept in the history of the calls, so that nothing is assumed of ids: an end that names the
transaction around the work succeeds only where that one is innermost, and this is where the depth
would fall below zero.

Owns: balanced histories, what work leaves alone, and the end of the transaction around the work.
Does not own: work that closes the program.
-/

namespace ImageImport.Program

/-- The calls that leave the gate and the claims on a program alone. -/
def Operation.IsWork : Operation → Prop
  | .setEventsEnabled _ | .release _ => False
  | _ => True

/-- How many transactions are open after a call, of those that the history has started; an end
beyond these has none. -/
def Performed.depth? (depth : Nat) : Performed → Option Nat
  | ⟨.start _, true⟩ => some (depth + 1)
  | ⟨.finish _ _, true⟩ => if depth = 0 then none else some (depth - 1)
  | _ => some depth

/-- Every successful end in the history has a start of its own before it, and every start its
end. -/
def Balanced (history : List Performed) : Prop :=
  history.foldlM Performed.depth? 0 = some 0

instance (history : List Performed) : Decidable (Balanced history) := by
  unfold Balanced
  infer_instance

/-- How many transactions are open. -/
def nestDepth (program : Program) : Nat :=
  (program.transaction.elim [] OpenTransaction.nest).length

/-! ## What work leaves alone -/

/-- Nothing was delivered behind the gate, which is shut, and no listener has left. -/
structure Silent (before after : Program) : Prop where
  shut : after.eventsEnabled = false
  deliveries_eq : after.deliveries = before.deliveries
  listeners_kept : ∃ joined, after.listeners = before.listeners ++ joined

theorem Silent.of_unchanged {before after : Program} (shut : before.eventsEnabled = false)
    (gate : after.eventsEnabled = before.eventsEnabled)
    (deliveries : after.deliveries = before.deliveries)
    (listeners : after.listeners = before.listeners) : Silent before after :=
  ⟨gate.trans shut, deliveries, [], listeners.trans (List.append_nil _).symm⟩

theorem Silent.trans {first second third : Program} (earlier : Silent first second)
    (later : Silent second third) : Silent first third := by
  obtain ⟨joined, listeners⟩ := earlier.listeners_kept
  obtain ⟨joinedLater, listenersLater⟩ := later.listeners_kept
  refine ⟨later.shut, later.deliveries_eq.trans earlier.deliveries_eq, joined ++ joinedLater, ?_⟩
  rw [listenersLater, listeners, List.append_assoc]

/-- Work is not heard behind a shut gate. -/
theorem Step.silent {program next : Program} {call : Performed} (step : Step program call next)
    (shut : program.eventsEnabled = false) (isWork : call.operation.IsWork) :
    Silent program next := by
  cases step with
  | settles commit held entries => exact .of_unchanged shut rfl (by simp [shut]) rfl
  | listens listener => exact ⟨shut, rfl, [listener], rfl⟩
  | gates enabled => exact isWork.elim
  | yields stays => exact isWork.elim
  | closes isOpen last => exact isWork.elim
  | _ => exact .of_unchanged shut rfl rfl rfl

theorem silent_run {program : Program} (shut : program.eventsEnabled = false)
    {operations : List Operation} (isWork : ∀ operation ∈ operations, operation.IsWork) :
    Silent program (run operations program).2 := by
  induction operations generalizing program with
  | nil => exact .of_unchanged shut rfl rfl rfl
  | cons operation rest inductionHypothesis =>
      have first := (step_of_perform program operation).silent shut (isWork operation (by simp))
      exact first.trans (inductionHypothesis first.shut fun other member =>
        isWork other (List.mem_cons_of_mem _ member))

/-! ## How deep a program stands in its nest -/

/-- A successful end takes one transaction off the nest. -/
theorem nestDepth_of_endTransaction {program next : Program} {id : Nat} {commit : Bool}
    (ended : program.endTransaction id commit = .ok next) :
    program.nestDepth = next.nestDepth + 1 := by
  obtain ⟨nest, description, outer, held, entries, ⟨rfl, deliveries, rfl⟩ | rfl⟩ :=
    endTransaction_cases ended
  · simp [nestDepth, held, entries]
  · simp [nestDepth, held, entries]

/-- A program that the calls of a history left so deep within the transaction around them. -/
structure Inside (outermost : Nat) (opening : ProgramState) (history : List Performed)
    (depth : Nat) (program : Program) : Prop where
  within : Within outermost opening history program
  depth_eq : program.nestDepth = depth + 1

section Steps

variable {outermost : Nat} {opening : ProgramState} {history : List Performed} {depth : Nat}
  {program : Program}

/-- A program within a transaction has a nest. -/
theorem Within.nestDepth_pos (within : Within outermost opening history program) :
    0 < program.nestDepth := by
  obtain ⟨nest, inner, description, held, entries, -⟩ := within.nested
  simp [nestDepth, held, entries]

/-- A call keeps count of the nest, unless it ends the transaction around the work. -/
theorem Inside.perform (inside : Inside outermost opening history depth program)
    {operation : Operation} (isWork : operation.IsWork) {next : Nat}
    (counted : Performed.depth? depth ⟨operation, isOk (operation.perform program).1⟩ =
      some next) :
    Inside outermost opening (history ++ [⟨operation, isOk (operation.perform program).1⟩]) next
      (operation.perform program).2 := by
  have within := inside.within
  obtain ⟨nest, inner, first, held, entries, -⟩ := within.nested
  have depth_eq := inside.depth_eq
  cases operation with
  | start description =>
      refine ⟨within.start description, ?_⟩
      have opened := startTransaction_of_nested within.isOpen held description
      simp only [Operation.perform, Attempt.ofUpdate, Attempt.apply_of, opened, Except.map]
        at counted ⊢
      obtain rfl := Option.some.inj counted
      simp only [nestDepth, held, Option.elim_some, List.length_cons] at depth_eq ⊢
      omega
  | finish id commit =>
      simp only [Operation.perform, Attempt.apply_ofChange] at counted ⊢
      cases ended : program.endTransaction id commit with
      | error failure =>
          rw [ended] at counted
          obtain rfl := Option.some.inj counted
          refine ⟨within.of_unchanged ?_ (fun _ => rfl) rfl rfl rfl rfl, depth_eq⟩
          cases commit <;> rfl
      | ok ended' =>
          rw [ended] at counted
          have shallower := nestDepth_of_endTransaction ended
          simp only [isOk, Performed.depth?] at counted
          rcases within.finish ended with ⟨-, idle, -⟩ | ⟨-, still⟩
          · -- With the outermost transaction ended, none of the work's own was open.
            simp only [nestDepth, idle, Option.elim_none, List.length_nil] at shallower
            simp only [nestDepth] at depth_eq
            rw [if_pos (by omega)] at counted
            contradiction
          · have positive := still.nestDepth_pos
            rw [if_neg (by omega)] at counted
            obtain rfl := Option.some.inj counted
            have counts : ended'.nestDepth = depth - 1 + 1 := by omega
            exact ⟨still, counts⟩
  | mutate mutation =>
      refine ⟨within.mutate mutation, ?_⟩
      obtain rfl := Option.some.inj counted
      have performed := Mutation.perform_of_nested within.isOpen held mutation
      simp only [nestDepth, held, Option.elim_some] at depth_eq
      simp only [Operation.perform, performed]
      cases mutation.change program.state <;> simpa [nestDepth] using depth_eq
  | addListener listener =>
      obtain rfl := Option.some.inj counted
      exact ⟨within.of_unchanged rfl (fun _ => rfl) rfl rfl rfl rfl, depth_eq⟩
  | addConsumer consumer =>
      obtain rfl := Option.some.inj counted
      obtain ⟨consumers, equal⟩ := program.addConsumer_frame consumer
      simp only [Operation.perform, equal]
      exact ⟨within.of_unchanged rfl (fun _ => rfl) rfl rfl rfl rfl, depth_eq⟩
  | setEventsEnabled enabled => exact isWork.elim
  | release consumer => exact isWork.elim

theorem Inside.run (inside : Inside outermost opening history depth program)
    {operations : List Operation} (isWork : ∀ operation ∈ operations, operation.IsWork)
    {last : Nat}
    (counted : (run operations program).1.foldlM Performed.depth? depth = some last) :
    Inside outermost opening (history ++ (run operations program).1) last
      (run operations program).2 := by
  induction operations generalizing history depth program with
  | nil =>
      obtain rfl := Option.some.inj counted
      simpa [Program.run] using inside
  | cons operation rest inductionHypothesis =>
      rw [Program.run, List.foldlM_cons, Option.bind_eq_bind, Option.bind_eq_some_iff] at counted
      obtain ⟨next, countedFirst, countedRest⟩ := counted
      have first := inside.perform (isWork operation (by simp)) countedFirst
      have others := inductionHypothesis first
        (fun other member => isWork other (List.mem_cons_of_mem _ member)) countedRest
      rw [List.append_assoc, List.singleton_append] at others
      exact others

/-- At no depth, the transaction around the work is alone in its nest. -/
theorem Inside.alone (inside : Inside outermost opening history 0 program) :
    ∃ nest description, program.transaction = some nest ∧
      nest.nest = [(outermost, description)] ∧ nest.atOpening = opening ∧
      nest.isAborted = history.any Performed.asksRollback := by
  obtain ⟨nest, inner, description, held, entries, atOpening, aborted, -⟩ := inside.within.nested
  have alone : inner = [] := by
    have depth_eq := inside.depth_eq
    rw [nestDepth, held, Option.elim_some, entries, List.length_append] at depth_eq
    exact List.length_eq_zero_iff.mp (by simpa using depth_eq)
  subst alone
  exact ⟨nest, description, held, entries, atOpening, aborted⟩

/-- Where nothing but the transaction around the work is open, its end succeeds. -/
theorem Inside.finish (inside : Inside outermost opening history 0 program)
    (shut : program.eventsEnabled = false) (commit : Bool) :
    program.endTransaction outermost commit = .ok { program with
      transaction := none
      state := if history.any Performed.asksRollback || !commit then opening
        else program.state } := by
  obtain ⟨nest, description, held, entries, atOpening, aborted⟩ := inside.alone
  simp [endTransaction_of_innermost held entries, settle_of_shut shut, atOpening, aborted]

end Steps

end ImageImport.Program
