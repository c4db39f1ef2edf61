import ImageImport.Program.Change

/-!
Contract: everything that can be done to a program from outside, as data.

A change is stated twice: as what it does to a bare state, and as what it does to a program, which
may refuse it. Inside a transaction of an open program the two agree, `perform_of_nested`. A change
of a table is any function of it.

Owns: changes, operations, runs of them with what succeeded, and the state that the successful
changes of a run make of another.
Does not own: what transactions do to that state.
-/

namespace ImageImport.Program

/-- A change of what transactions protect. -/
inductive Mutation : Type 1 where
  | setProperty (key value : String)
  | setAnalyzed (isAnalyzed : Bool)
  | setImageBase (base : Address)
  | addBlock (space : AddressSpace) (block : MemoryBlock)
  | editSymbols {α : Type} (edit : SymbolTable → Except Failure (α × SymbolTable))
  | editFunctions {α : Type} (edit : FunctionTable → Except Failure (α × FunctionTable))

namespace Mutation

/-- The change of a bare state, without transactions, events or owners. -/
def change : Mutation → ProgramState → Except Failure ProgramState
  | .setProperty key value, state =>
      .ok { state with properties := state.properties.insert key value }
  | .setAnalyzed isAnalyzed, state => .ok { state with isAnalyzed }
  | .setImageBase base, state =>
      if (findSpace? state.spaces base.space).isNone then .error (.invalidAddress base.text)
      else .ok { state with imageBase := some base }
  | .addBlock space block, state =>
      let known := state.spaces.any fun declared => declared.name == space.name
      if ¬ known ∧ ¬ space.isOverlay then
        .error (.invalidAddress ("space '" ++ space.name ++ "' is not part of this program"))
      else
        match state.memory.add space block with
        | .error failure => .error failure
        | .ok memory =>
            let spaces := if known then state.spaces else state.spaces ++ [space]
            .ok { state with memory, spaces }
  | .editSymbols edit, state =>
      match edit state.symbols with
      | .error failure => .error failure
      | .ok (_, symbols) => .ok { state with symbols }
  | .editFunctions edit, state =>
      match edit state.functions with
      | .error failure => .error failure
      | .ok (_, functions) => .ok { state with functions }

/-- What a change in a transaction leaves a note of, from whether it succeeds. The note of a table
is left before the table has accepted the edit. -/
def notes : Mutation → Bool → List String
  | .setProperty _ _, true => ["properties"]
  | .setAnalyzed _, true => ["analysis state"]
  | .setImageBase _, true => ["image base"]
  | .addBlock _ _, true => ["memory"]
  | .editSymbols _, _ => ["symbols"]
  | .editFunctions _, _ => ["functions"]
  | _, false => []

/-- An outcome without the value that it gives. -/
def forget {α : Type} : Except Failure α × Program → Except Failure Unit × Program
  | (.ok _, program) => (.ok (), program)
  | (.error failure, program) => (.error failure, program)

/-- The change of a program. -/
def perform : Mutation → Program → Except Failure Unit × Program
  | .setProperty key value, program =>
      (Attempt.ofChange fun program => program.setProperty key value).apply program
  | .setAnalyzed isAnalyzed, program =>
      (Attempt.ofChange fun program => program.setAnalyzed isAnalyzed).apply program
  | .setImageBase base, program =>
      (Attempt.ofChange fun program => program.setImageBase base).apply program
  | .addBlock space block, program =>
      (Attempt.ofChange fun program => program.addMemoryBlock space block).apply program
  | .editSymbols edit, program => forget (program.changeSymbols edit)
  | .editFunctions edit, program => forget (program.changeFunctions edit)

/-- In a transaction of an open program, a change does to the state what it does to a bare one, and
beside that it only leaves its notes. -/
theorem perform_of_nested {program : Program} {nest : OpenTransaction}
    (isOpen : program.isClosed = false) (held : program.transaction = some nest)
    (mutation : Mutation) :
    mutation.perform program =
      match mutation.change program.state with
      | .ok state =>
          (.ok (), { program with
            state
            transaction := some { nest with pending := nest.pending ++ mutation.notes true } })
      | .error failure =>
          (.error failure, { program with
            transaction := some
              { nest with pending := nest.pending ++ mutation.notes false } }) := by
  have ready := writable_of_nested isOpen held
  have unchanged : program =
      { program with transaction := some { nest with pending := nest.pending ++ [] } } := by
    rw [List.append_nil, ← held]
  cases mutation with
  | setProperty key value =>
      simp [perform, change, notes, Program.setProperty, changeState, ready,
        Attempt.apply_ofChange]
  | setAnalyzed isAnalyzed =>
      simp [perform, change, notes, Program.setAnalyzed, changeState, ready,
        Attempt.apply_ofChange]
  | setImageBase base =>
      cases found : findSpace? program.state.spaces base.space with
      | none =>
          simp only [notes]
          rw [← unchanged]
          simp [perform, change, Program.setImageBase, space?, found, Attempt.apply_ofChange]
      | some space =>
          simp [perform, change, notes, Program.setImageBase, space?, found, changeState, ready,
            Attempt.apply_ofChange]
  | addBlock space block =>
      have noRefusal : program.refusal? = none := by simp [refusal?, isOpen, held]
      simp only [perform, change, notes, addMemoryBlock, noRefusal, Attempt.apply_ofChange]
      by_cases foreign : ¬ (program.state.spaces.any fun declared => declared.name == space.name) ∧
          ¬ space.isOverlay
      · rw [← unchanged, if_pos foreign, if_pos foreign]
      · rw [if_neg foreign, if_neg foreign]
        cases program.state.memory.add space block with
        | error failure => rw [← unchanged]
        | ok memory => simp [noteChange, held]
  | editSymbols edit =>
      simp only [perform, change, notes, changeSymbols, ready]
      cases edit program.state.symbols <;> rfl
  | editFunctions edit =>
      simp only [perform, change, notes, changeFunctions, ready]
      cases edit program.state.functions <;> rfl

/-- A change that the program refuses fails, and leaves it as it is. -/
theorem perform_of_refused {program : Program} {failure : Failure}
    (refused : program.refusal? = some failure) (mutation : Mutation) :
    ∃ reason, mutation.perform program = (.error reason, program) := by
  have notReady : ∀ what, program.writable what = .error failure := by
    intro what
    rw [writable, refused]
  cases mutation with
  | setProperty key value =>
      simp [perform, Program.setProperty, changeState, notReady, Attempt.apply_ofChange]
  | setAnalyzed isAnalyzed =>
      simp [perform, Program.setAnalyzed, changeState, notReady, Attempt.apply_ofChange]
  | setImageBase base =>
      cases found : findSpace? program.state.spaces base.space with
      | none => simp [perform, Program.setImageBase, space?, found, Attempt.apply_ofChange]
      | some space =>
          simp [perform, Program.setImageBase, space?, found, changeState, notReady,
            Attempt.apply_ofChange]
  | addBlock space block => simp [perform, addMemoryBlock, refused, Attempt.apply_ofChange]
  | editSymbols edit => simp [perform, changeSymbols, notReady, forget]
  | editFunctions edit => simp [perform, changeFunctions, notReady, forget]

end Mutation

/-- One call on a program. -/
inductive Operation : Type 1 where
  | start (description : String)
  | finish (id : Nat) (commit : Bool)
  | mutate (mutation : Mutation)
  | setEventsEnabled (enabled : Bool)
  | addListener (listener : Listener)
  | addConsumer (consumer : Consumer)
  | release (consumer : Consumer)

/-- The call, and the program after it. -/
def Operation.perform : Operation → Program → Except Failure Unit × Program
  | .start description, program =>
      (Attempt.ofUpdate fun program => (program.startTransaction description).map fun done =>
        ((), done.2)).apply program
  | .finish id commit, program =>
      (Attempt.ofChange fun program => program.endTransaction id commit).apply program
  | .mutate mutation, program => mutation.perform program
  | .setEventsEnabled enabled, program => (.ok (), program.setEventsEnabled enabled)
  | .addListener listener, program => (.ok (), program.addListener listener)
  | .addConsumer consumer, program => (.ok (), program.addConsumer consumer)
  | .release consumer, program => (.ok (), (program.release consumer).2)

/-- A call that was made, and whether it succeeded. -/
structure Performed : Type 1 where
  operation : Operation
  succeeded : Bool

/-- Whether a transaction ended with the wish for a rollback. -/
def Performed.asksRollback : Performed → Bool
  | ⟨.finish _ false, succeeded⟩ => succeeded
  | _ => false

/-- What a call made of a bare state, if it changed it. -/
def Performed.produce (state : ProgramState) : Performed → ProgramState
  | ⟨.mutate mutation, true⟩ =>
      match mutation.change state with
      | .ok changed => changed
      | .error _ => state
  | _ => state

/-- The state that the successful changes of a history make of another. -/
def produced (state : ProgramState) (history : List Performed) : ProgramState :=
  history.foldl Performed.produce state

/-- Calls one after another, whatever becomes of each. -/
def run : List Operation → Program → List Performed × Program
  | [], program => ([], program)
  | operation :: rest, program =>
      let (result, next) := operation.perform program
      let (history, last) := run rest next
      (⟨operation, isOk result⟩ :: history, last)

theorem run_append (earlier later : List Operation) (program : Program) :
    run (earlier ++ later) program =
      ((run earlier program).1 ++ (run later (run earlier program).2).1,
        (run later (run earlier program).2).2) := by
  induction earlier generalizing program with
  | nil => rfl
  | cons operation rest inductionHypothesis =>
      simp only [List.cons_append, run, inductionHypothesis]

end ImageImport.Program
