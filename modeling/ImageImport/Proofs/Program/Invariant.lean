import Mathlib.Data.List.Induction
import ImageImport.Proofs.Memory.Layout
import ImageImport.Proofs.Program.Step

/-!
Contract: what every change of a bare state keeps, every run of calls on a program keeps.

A rollback brings back a state from before, so the invariant is carried for two states: the one that
the program has, and the one that its transaction was opened on.

Owns: `Program.Keeps` with its step and its run, what a change of a bare state can be, and the layout
of a program's memory as a case of both.
Does not own: invariants of owners and transactions.
-/

namespace ImageImport.Program

/-- A property of the state and of every state that a rollback can bring back. -/
structure Keeps (property : ProgramState → Prop) (program : Program) : Prop where
  current : property program.state
  atOpening : ∀ nest, program.transaction = some nest → property nest.atOpening

section

variable {property : ProgramState → Prop} {program : Program}

theorem keeps_of_idle (current : property program.state) (idle : program.transaction = none) :
    program.Keeps property :=
  ⟨current, by simp [idle]⟩

/-- A step keeps the property if the change that it makes of the state, where it makes one, does. -/
theorem Keeps.step {call : Performed} {next : Program} (keeps : program.Keeps property)
    (step : Step program call next)
    (changes : ∀ mutation state, call.operation = .mutate mutation →
      mutation.change program.state = .ok state → property program.state → property state) :
    next.Keeps property := by
  obtain ⟨current, atOpening⟩ := keeps
  cases step with
  | refused isRefused => exact ⟨current, atOpening⟩
  | opens description isOpen idle =>
      refine ⟨current, fun nest opened => ?_⟩
      obtain rfl := Option.some.inj opened
      exact current
  | joins description isOpen held =>
      have before := atOpening _ held
      refine ⟨current, fun nest joined => ?_⟩
      obtain rfl := Option.some.inj joined
      exact before
  | leaves commit held entries isNested =>
      have before := atOpening _ held
      refine ⟨current, fun nest left => ?_⟩
      obtain rfl := Option.some.inj left
      exact before
  | settles commit held entries =>
      refine keeps_of_idle ?_ rfl
      dsimp only
      split
      · exact atOpening _ held
      · exact current
  | changes isOpen held changed =>
      have before := atOpening _ held
      refine ⟨changes _ _ rfl changed current, fun nest noted => ?_⟩
      obtain rfl := Option.some.inj noted
      exact before
  | fails isOpen held failed =>
      have before := atOpening _ held
      refine ⟨current, fun nest noted => ?_⟩
      obtain rfl := Option.some.inj noted
      exact before
  | gates enabled => exact ⟨current, atOpening⟩
  | listens listener => exact ⟨current, atOpening⟩
  | claims consumer => exact ⟨current, atOpening⟩
  | yields stays => exact ⟨current, atOpening⟩
  | closes isOpen last =>
      refine keeps_of_idle ?_ rfl
      cases held : program.transaction with
      | none => exact current
      | some nest => exact atOpening nest held

/-- Whatever calls are made on a program, and whatever becomes of them, it keeps what the changes
among them keep on the states that they are made on. -/
theorem Keeps.run_of_changes (keeps : program.Keeps property) (operations : List Operation)
    (changes : ∀ earlier mutation later state,
      operations = earlier ++ .mutate mutation :: later →
      mutation.change (run earlier program).2.state = .ok state →
      property (run earlier program).2.state → property state) :
    (run operations program).2.Keeps property := by
  induction operations using List.reverseRecOn with
  | nil => exact keeps
  | append_singleton earlier operation inductionHypothesis =>
      have before := inductionHypothesis fun first mutation later state made =>
        changes first mutation (later ++ [operation]) state (by rw [made]; simp)
      rw [run_concat]
      refine before.step (step_of_perform _ operation) fun mutation state isMutation => ?_
      obtain rfl : operation = .mutate mutation := isMutation
      exact changes earlier mutation [] state rfl

theorem Keeps.run
    (changes : ∀ (mutation : Mutation) (state next : ProgramState), property state →
      mutation.change state = .ok next → property next)
    (keeps : program.Keeps property) (operations : List Operation) :
    (run operations program).2.Keeps property :=
  keeps.run_of_changes operations fun _ mutation _ state _ changed holds =>
    changes mutation _ state holds changed

end

/-! ## Changes of a bare state -/

/-- Everything that a change of a bare state can be, with what it asks for and the state after it. -/
inductive Mutation.Changes (state : ProgramState) : Mutation → ProgramState → Prop where
  | setsProperty (key value : String) :
      Changes state (.setProperty key value)
        { state with properties := state.properties.insert key value }
  | setsAnalyzed (isAnalyzed : Bool) :
      Changes state (.setAnalyzed isAnalyzed) { state with isAnalyzed }
  | setsImageBase {base : Address}
      (known : (findSpace? state.spaces base.space).isSome = true) :
      Changes state (.setImageBase base) { state with imageBase := some base }
  | addsBlock {space : AddressSpace} {block : MemoryBlock} {memory : Memory}
      (known : (findSpace? state.spaces space.name).isSome = true)
      (added : state.memory.add space block = .ok memory) :
      Changes state (.addBlock space block) { state with memory }
  /-- The space of the block is new, which only an overlay may be. -/
  | addsBlockAndSpace {space : AddressSpace} {block : MemoryBlock} {memory : Memory}
      (isNew : findSpace? state.spaces space.name = none) (overlay : space.isOverlay = true)
      (added : state.memory.add space block = .ok memory) :
      Changes state (.addBlock space block)
        { state with memory, spaces := state.spaces ++ [space] }
  | editsSymbols {α : Type} (edit : SymbolTable → Except Failure (α × SymbolTable))
      (symbols : SymbolTable) :
      Changes state (.editSymbols edit) { state with symbols }
  | editsFunctions {α : Type} (edit : FunctionTable → Except Failure (α × FunctionTable))
      (functions : FunctionTable) :
      Changes state (.editFunctions edit) { state with functions }

theorem Mutation.changes_of_change {mutation : Mutation} {state next : ProgramState}
    (changed : mutation.change state = .ok next) : Changes state mutation next := by
  cases mutation with
  | setProperty key value =>
      obtain rfl := Except.ok.inj changed
      exact .setsProperty key value
  | setAnalyzed isAnalyzed =>
      obtain rfl := Except.ok.inj changed
      exact .setsAnalyzed isAnalyzed
  | setImageBase base =>
      simp only [Mutation.change] at changed
      split at changed
      · contradiction
      · next known =>
          obtain rfl := Except.ok.inj changed
          exact .setsImageBase (by simpa [Option.isSome_iff_ne_none] using known)
  | addBlock space block =>
      simp only [Mutation.change, ← List.isSome_find?] at changed
      split at changed
      · contradiction
      · next admitted =>
          cases added : state.memory.add space block with
          | error failure =>
              rw [added] at changed
              contradiction
          | ok memory =>
              rw [added] at changed
              obtain rfl := Except.ok.inj changed
              by_cases known : (findSpace? state.spaces space.name).isSome = true
              · rw [if_pos (show (List.find? _ state.spaces).isSome = true from known)]
                exact .addsBlock known added
              · rw [if_neg (show ¬ (List.find? _ state.spaces).isSome = true from known)]
                have overlay : space.isOverlay = true := by
                  by_contra noOverlay
                  exact admitted ⟨known, noOverlay⟩
                exact .addsBlockAndSpace (Option.not_isSome_iff_eq_none.mp known) overlay added
  | editSymbols edit =>
      simp only [Mutation.change] at changed
      split at changed
      · contradiction
      · obtain rfl := Except.ok.inj changed
        exact .editsSymbols edit _
  | editFunctions edit =>
      simp only [Mutation.change] at changed
      split at changed
      · contradiction
      · obtain rfl := Except.ok.inj changed
        exact .editsFunctions edit _

/-! ## The layout of memory -/

/-- Of all changes, only a block that is added touches the memory, and with it the spaces if its own
is a new one. -/
theorem Mutation.change_memory_cases (mutation : Mutation) {state next : ProgramState}
    (changed : mutation.change state = .ok next) :
    (next.spaces = state.spaces ∧ next.memory = state.memory) ∨
      ∃ space block, mutation = .addBlock space block ∧
        state.memory.add space block = .ok next.memory ∧
        (((findSpace? state.spaces space.name).isSome = true ∧ next.spaces = state.spaces) ∨
          findSpace? state.spaces space.name = none ∧ space.isOverlay = true ∧
            next.spaces = state.spaces ++ [space]) := by
  cases changes_of_change changed with
  | addsBlock known added => exact .inr ⟨_, _, rfl, added, .inl ⟨known, rfl⟩⟩
  | addsBlockAndSpace isNew overlay added =>
      exact .inr ⟨_, _, rfl, added, .inr ⟨isNew, overlay, rfl⟩⟩
  | _ => exact .inl ⟨rfl, rfl⟩

/-- Every change keeps the layout. -/
theorem Mutation.change_keeps_layout (mutation : Mutation) (state next : ProgramState)
    (wellFormed : state.memory.WellFormed) (changed : mutation.change state = .ok next) :
    next.memory.WellFormed := by
  rcases mutation.change_memory_cases changed with ⟨-, same⟩ | ⟨space, block, -, added, -⟩
  · rw [same]
    exact wellFormed
  · exact wellFormed.add added

/-- A program that was made empty has a well-formed memory after any calls. -/
theorem wellFormed_memory_of_run (name : String) (language : Language) (compiler : String)
    (consumer : Consumer) (operations : List Operation) :
    (run operations (make name language compiler consumer)).2.memory.WellFormed := by
  have empty : (make name language compiler consumer).Keeps
      fun state => state.memory.WellFormed :=
    keeps_of_idle Memory.wellFormed_empty rfl
  exact (empty.run Mutation.change_keeps_layout operations).current

end ImageImport.Program
