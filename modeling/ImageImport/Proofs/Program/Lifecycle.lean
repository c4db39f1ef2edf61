import ImageImport.Proofs.Program.Invariant
import ImageImport.Proofs.Program.Ownership

/-!
Contract: transactions and owners of a program, from its creation through any calls to after its
close.

Ids count up and are never given back, so that the nest is ordered by them and an end is known by
its id alone. A program closes with its last claim, in the middle of a nest too, and goes back to
the state of the last moment at which it had no transaction.

Owns: the ids that a run gives out, the order of the nest, and what closing does to the state.
Does not own: what the end of a transaction makes of the state.
-/

namespace ImageImport.Program

/-! ## Ids -/

/-- The id that a call is given, if it starts a transaction. -/
def Operation.issued? : Operation → Program → Option Nat
  | .start description, program => (program.startTransaction description).toOption.map Prod.fst
  | _, _ => none

/-- The ids that calls one after another are given. -/
def issued : List Operation → Program → List Nat
  | [], _ => []
  | operation :: rest, program =>
      (operation.issued? program).toList ++ issued rest (operation.perform program).2

def Performed.startsTransaction : Performed → Bool
  | ⟨.start _, succeeded⟩ => succeeded
  | _ => false

/-- The id of the innermost open transaction. -/
def innermost? (program : Program) : Option Nat :=
  program.transaction.bind fun nest => nest.nest.head?.map Prod.fst

section Ids

variable {program next : Program} {call : Performed}

/-- Only a start uses up an id. -/
theorem Step.nextTransaction_eq (step : Step program call next) :
    next.nextTransaction = program.nextTransaction + if call.startsTransaction then 1 else 0 := by
  cases step with
  | @refused operation isRefused => cases operation <;> rfl
  | _ => rfl

/-- A call is given the next id, which is then used up, or none. -/
theorem issued?_cases (operation : Operation) (program : Program) :
    (operation.issued? program = some program.nextTransaction ∧
        (operation.perform program).2.nextTransaction = program.nextTransaction + 1) ∨
      operation.issued? program = none ∧
        (operation.perform program).2.nextTransaction = program.nextTransaction := by
  have counted := (step_of_perform program operation).nextTransaction_eq
  cases operation with
  | start description =>
      simp only [Operation.issued?, Operation.perform, Attempt.ofUpdate, Attempt.apply_of]
      by_cases isClosed : program.isClosed = true
      · rw [startTransaction_of_isClosed isClosed]
        exact .inr ⟨rfl, rfl⟩
      · rw [Bool.not_eq_true] at isClosed
        obtain ⟨nest, -, started⟩ := startTransaction_of_isOpen isClosed description
        rw [started]
        exact .inl ⟨rfl, rfl⟩
  | finish id commit => exact .inr ⟨rfl, counted⟩
  | mutate mutation => exact .inr ⟨rfl, counted⟩
  | setEventsEnabled enabled => exact .inr ⟨rfl, counted⟩
  | addListener listener => exact .inr ⟨rfl, counted⟩
  | addConsumer consumer => exact .inr ⟨rfl, counted⟩
  | release consumer => exact .inr ⟨rfl, counted⟩

/-- The ids that a run gives out are the numbers from the next id on. -/
theorem issued_eq (operations : List Operation) (program : Program) :
    ∃ count, issued operations program = List.range' program.nextTransaction count := by
  induction operations generalizing program with
  | nil => exact ⟨0, rfl⟩
  | cons operation rest inductionHypothesis =>
      obtain ⟨count, later⟩ := inductionHypothesis (operation.perform program).2
      rw [issued, later]
      rcases issued?_cases operation program with ⟨given, usedUp⟩ | ⟨notGiven, same⟩
      · rw [given, usedUp]
        exact ⟨count + 1, rfl⟩
      · rw [notGiven, same]
        exact ⟨count, rfl⟩

end Ids

/-! ## The nest -/

/-- The nest of a program, where it has one, is not empty, and each of its ids was given before
those that are further in and before the next one. -/
def Stacked (program : Program) : Prop :=
  ∀ nest, program.transaction = some nest → nest.nest ≠ [] ∧
    (program.nextTransaction :: nest.nest.map Prod.fst).Pairwise (· > ·)

section Nests

variable {program next : Program} {call : Performed}

theorem stacked_of_idle (idle : program.transaction = none) : program.Stacked := by
  intro nest held
  rw [idle] at held
  contradiction

theorem Stacked.step (stacked : program.Stacked) (step : Step program call next) :
    next.Stacked := by
  cases step with
  | refused isRefused => exact stacked
  | opens description isOpen idle =>
      intro nest opened
      obtain rfl := Option.some.inj opened
      simp
  | @joins description outer isOpen held =>
      obtain ⟨-, ordered⟩ := stacked outer held
      intro nest joined
      obtain rfl := Option.some.inj joined
      refine ⟨by simp, List.pairwise_cons.mpr ⟨?_, ordered⟩⟩
      intro id member
      rcases List.mem_cons.mp member with rfl | inOuter
      · exact Nat.lt_succ_self _
      · exact Nat.lt_succ_of_lt ((List.pairwise_cons.mp ordered).1 id inOuter)
  | @leaves id commit description outer inner held entries isNested =>
      obtain ⟨-, ordered⟩ := stacked inner held
      intro nest left
      obtain rfl := Option.some.inj left
      refine ⟨isNested, ordered.sublist ?_⟩
      rw [entries, List.map_cons]
      exact (List.sublist_cons_self _ _).cons_cons _
  | settles commit held entries => exact stacked_of_idle rfl
  | changes isOpen held changed =>
      have before := stacked _ held
      intro nest noted
      obtain rfl := Option.some.inj noted
      exact before
  | fails isOpen held failed =>
      have before := stacked _ held
      intro nest noted
      obtain rfl := Option.some.inj noted
      exact before
  | gates enabled => exact stacked
  | listens listener => exact stacked
  | claims consumer => exact stacked
  | yields stays => exact stacked
  | closes isOpen last => exact stacked_of_idle rfl

/-- From the outermost transaction inwards, the ids of a nest increase, up to below the next one. -/
theorem Stacked.ordered (stacked : program.Stacked) {nest : OpenTransaction}
    (held : program.transaction = some nest) :
    nest.nest ≠ [] ∧ (nest.nest.reverse.map Prod.fst).Pairwise (· < ·) ∧
      ∀ entry ∈ nest.nest, entry.1 < program.nextTransaction := by
  obtain ⟨nonempty, ordered⟩ := stacked nest held
  obtain ⟨below, decreasing⟩ := List.pairwise_cons.mp ordered
  refine ⟨nonempty, ?_, fun entry member => below entry.1 (List.mem_map_of_mem member)⟩
  rw [List.map_reverse, List.pairwise_reverse]
  exact decreasing

/-- An end succeeds for the innermost transaction and for no other. -/
theorem exists_endTransaction_iff {id : Nat} {commit : Bool} :
    (∃ ended, program.endTransaction id commit = .ok ended) ↔ program.innermost? = some id := by
  constructor
  · rintro ⟨ended, success⟩
    obtain ⟨nest, description, outer, held, entries⟩ := innermost_of_endTransaction success
    simp [innermost?, held, entries]
  · intro innermost
    simp only [innermost?, Option.bind_eq_some_iff, Option.map_eq_some_iff] at innermost
    obtain ⟨nest, held, ⟨first, description⟩, head, rfl⟩ := innermost
    obtain ⟨outer, entries⟩ := List.head?_eq_some_iff.mp head
    obtain ⟨state, transaction, deliveries, ended, -⟩ := endTransaction_frame held entries commit
    exact ⟨_, ended⟩

theorem finish_of_not_innermost {id : Nat} (other : program.innermost? ≠ some id) (commit : Bool) :
    ((Operation.finish id commit).perform program).2 = program := by
  simp only [Operation.perform, Attempt.apply_ofChange]
  cases ended : program.endTransaction id commit with
  | error failure => rfl
  | ok next => exact absurd (exists_endTransaction_iff.mp ⟨next, ended⟩) other

end Nests

/-! ## The last moment without a transaction -/

/-- Of a run, the calls up to the last moment at which the program had no transaction. -/
structure LastIdle (start : Program) (operations earlier : List Operation) : Prop where
  begins : earlier <+: operations
  idle : (run earlier start).2.hasTransaction = false
  since : ∀ longer, longer <+: operations → earlier.length < longer.length →
    (run longer start).2.hasTransaction = true

theorem lastIdle_of_idle {start : Program} {operations : List Operation}
    (idle : (run operations start).2.hasTransaction = false) :
    LastIdle start operations operations :=
  ⟨List.prefix_rfl, idle, fun _ begins isLonger => absurd begins.length_le (by omega)⟩

theorem LastIdle.concat {start : Program} {operations earlier : List Operation}
    (lastIdle : LastIdle start operations earlier) {operation : Operation}
    (held : (run (operations ++ [operation]) start).2.hasTransaction = true) :
    LastIdle start (operations ++ [operation]) earlier := by
  refine ⟨lastIdle.begins.trans (List.prefix_append _ _), lastIdle.idle, ?_⟩
  intro longer begins isLonger
  rcases List.prefix_concat_iff.mp begins with rfl | before
  · exact held
  · exact lastIdle.since longer before isLonger

/-- A transaction that is open after a step was opened by it, or was open before. -/
theorem Step.atOpening_cases {program next : Program} {call : Performed} {nest : OpenTransaction}
    (step : Step program call next) (held : next.transaction = some nest) :
    (program.transaction = none ∧ nest.atOpening = program.state) ∨
      ∃ before, program.transaction = some before ∧ nest.atOpening = before.atOpening := by
  cases step with
  | opens description isOpen idle =>
      obtain rfl := Option.some.inj held
      exact .inl ⟨idle, rfl⟩
  | joins description isOpen before =>
      obtain rfl := Option.some.inj held
      exact .inr ⟨_, before, rfl⟩
  | leaves commit before entries isNested =>
      obtain rfl := Option.some.inj held
      exact .inr ⟨_, before, rfl⟩
  | changes isOpen before changed =>
      obtain rfl := Option.some.inj held
      exact .inr ⟨_, before, rfl⟩
  | fails isOpen before failed =>
      obtain rfl := Option.some.inj held
      exact .inr ⟨_, before, rfl⟩
  | settles commit before entries => contradiction
  | closes isOpen last => contradiction
  | _ => exact .inr ⟨nest, held, rfl⟩

/-- The state that a rollback would bring back is that of the last moment without a transaction. -/
theorem exists_lastIdle {start : Program} (idle : start.transaction = none)
    (operations : List Operation) :
    ∃ earlier, LastIdle start operations earlier ∧
      (run operations start).2.transaction.elim (run operations start).2.state
        OpenTransaction.atOpening = (run earlier start).2.state := by
  induction operations using List.reverseRecOn with
  | nil =>
      refine ⟨[], lastIdle_of_idle ?_, ?_⟩
      · rw [run, hasTransaction, idle, Option.isSome_none]
      · rw [run, idle, Option.elim_none]
  | append_singleton operations operation inductionHypothesis =>
      cases held : (run (operations ++ [operation]) start).2.transaction with
      | none =>
          refine ⟨_, lastIdle_of_idle ?_, rfl⟩
          rw [hasTransaction, held, Option.isSome_none]
      | some nest =>
          have stillHeld : (run (operations ++ [operation]) start).2.hasTransaction = true := by
            rw [hasTransaction, held, Option.isSome_some]
          obtain ⟨earlier, lastIdle, opened⟩ := inductionHypothesis
          refine ⟨earlier, lastIdle.concat stillHeld, ?_⟩
          rw [run_concat] at held
          rw [Option.elim_some, ← opened]
          rcases (step_of_perform _ operation).atOpening_cases held with
            ⟨wasIdle, same⟩ | ⟨before, wasHeld, same⟩
          · rw [same, wasIdle, Option.elim_none]
          · rw [same, wasHeld, Option.elim_some]

/-! ## The close -/

section Closing

variable {program next : Program} {call : Performed}

/-- Of the steps of an open program, only the release of its last claim closes it, and that brings
back what a rollback would. -/
theorem Step.last_release_of_closed (step : Step program call next)
    (isOpen : program.isClosed = false) (closed : next.isClosed = true) :
    (∃ consumer, call.operation = .release consumer ∧ program.consumers = [consumer]) ∧
      next.state = program.transaction.elim program.state OpenTransaction.atOpening := by
  cases step with
  | @closes consumer _ last => exact ⟨⟨consumer, rfl, last⟩, rfl⟩
  | _ => simp [isOpen] at closed

theorem closes_of_last (isOpen : program.isClosed = false) {consumer : Consumer}
    (last : program.consumers = [consumer]) : (program.release consumer).2.isClosed = true := by
  have owned : program.isOwnedBy consumer = true := by simp [isOwnedBy, last]
  have nowClosed := @close_of_isOpen { program with consumers := [] } isOpen
  rw [release_of_last owned (by simp [last])]
  exact nowClosed.1

theorem closes_iff (isOpen : program.isClosed = false) (operation : Operation) :
    (operation.perform program).2.isClosed = true ↔
      ∃ last, operation = .release last ∧ program.consumers = [last] := by
  constructor
  · intro closed
    exact ((step_of_perform program operation).last_release_of_closed isOpen closed).1
  · rintro ⟨last, rfl, only⟩
    exact closes_of_last isOpen only

/-- No step brings a closed program back, or changes its state. -/
theorem Step.closed_stays (step : Step program call next) (wellFormed : program.WellFormed)
    (closed : program.isClosed = true) : next.isClosed = true ∧ next.state = program.state := by
  have idle := wellFormed.idle_of_isClosed closed
  cases step with
  | opens description isOpen _ => simp [isOpen] at closed
  | joins description isOpen held => simp [isOpen] at closed
  | leaves commit held entries isNested => simp [idle] at held
  | settles commit held entries => simp [idle] at held
  | changes isOpen held changed => simp [isOpen] at closed
  | fails isOpen held failed => simp [isOpen] at closed
  | closes isOpen last => simp [isOpen] at closed
  | _ => exact ⟨closed, rfl⟩

theorem closed_stays_of_run (wellFormed : program.WellFormed) (closed : program.isClosed = true)
    (operations : List Operation) :
    (run operations program).2.isClosed = true ∧
      (run operations program).2.state = program.state := by
  have kept := @kept_by_run
    (fun later => later.WellFormed ∧ later.isClosed = true ∧ later.state = program.state)
    (fun holds step =>
      have stays := step.closed_stays holds.1 holds.2.1
      ⟨holds.1.step step, stays.1, stays.2.trans holds.2.2⟩)
    program ⟨wellFormed, closed, rfl⟩ operations
  exact kept.2

/-- A closed program refuses every change. -/
theorem mutate_fails_of_closed (closed : program.isClosed = true) (mutation : Mutation) :
    isOk (mutation.perform program).1 = false := by
  have refused : program.refusal? = some (.programClosed program.name) := by
    simp [refusal?, closed]
  obtain ⟨reason, performed⟩ := mutation.perform_of_refused refused
  rw [performed]
  rfl

end Closing

/-- Whatever calls are made on a new program, no id is given twice, and a nest is not empty, is
ordered by its ids, and keeps the program open. Only the innermost transaction ends, and an end that
fails changes nothing. Nobody has two claims, and an open program has an owner: it closes with the
last claim, in the state of the last moment without a transaction. After that changes are refused,
and no calls change the state or open the program again. -/
theorem nest_and_owners_of_run (name : String) (language : Language) (compiler : String)
    (consumer : Consumer) (operations : List Operation) :
    let start := make name language compiler consumer
    let program := (run operations start).2
    (issued operations start).Nodup ∧
    (∀ nest, program.transaction = some nest →
      nest.nest ≠ [] ∧ (nest.nest.reverse.map Prod.fst).Pairwise (· < ·) ∧
      (∀ entry ∈ nest.nest, entry.1 < program.nextTransaction) ∧ program.isClosed = false) ∧
    (∀ id commit,
      ((∃ ended, program.endTransaction id commit = .ok ended) ↔ program.innermost? = some id) ∧
      (program.innermost? ≠ some id →
        ((Operation.finish id commit).perform program).2 = program)) ∧
    program.consumers.Nodup ∧
    (program.isClosed = false → program.consumers ≠ [] ∧ ∀ operation : Operation,
      ((operation.perform program).2.isClosed = true ↔
        ∃ last, operation = .release last ∧ program.consumers = [last]) ∧
      ((operation.perform program).2.isClosed = true →
        ∃ earlier, LastIdle start operations earlier ∧
          (operation.perform program).2.state = (run earlier start).2.state)) ∧
    (program.isClosed = true →
      (∀ mutation : Mutation, isOk (mutation.perform program).1 = false) ∧
      ∀ later, (run later program).2.isClosed = true ∧
        (run later program).2.state = program.state) := by
  intro start program
  have wellFormed : program.WellFormed := (wellFormed_make _ _ _ _).run operations
  have stacked : program.Stacked := kept_by_run Stacked.step (stacked_of_idle rfl) operations
  refine ⟨?_, ?_, ?_, wellFormed.consumers_nodup, ?_, ?_⟩
  · obtain ⟨count, ids⟩ := issued_eq operations start
    rw [ids]
    exact List.nodup_range'
  · intro nest held
    obtain ⟨nonempty, increasing, below⟩ := stacked.ordered held
    exact ⟨nonempty, increasing, below, wellFormed.isOpen_of_held held⟩
  · exact fun id commit =>
      ⟨exists_endTransaction_iff, fun other => finish_of_not_innermost other commit⟩
  · intro isOpen
    refine ⟨fun ownerless => ?_, fun operation => ⟨closes_iff isOpen operation, fun closed => ?_⟩⟩
    · have closed := wellFormed.isClosed_of_ownerless ownerless
      rw [isOpen] at closed
      contradiction
    · have step := step_of_perform program operation
      rw [(step.last_release_of_closed isOpen closed).2]
      exact exists_lastIdle rfl operations
  · exact fun closed => ⟨mutate_fails_of_closed closed, closed_stays_of_run wellFormed closed⟩

/-- Claims are made and given up inside a nest; the last one is given up there too. -/
theorem close_inside_a_nest :
    let start := make "image" (.make "target" ⟨"ram", .ram, 16, none⟩) "default" ⟨1⟩
    let calls : List Operation := [.start "outer", .mutate (.setProperty "kept" "no"),
      .start "inner", .finish 1 true, .addConsumer ⟨2⟩, .addConsumer ⟨2⟩, .release ⟨3⟩,
      .release ⟨1⟩]
    let program := (run calls start).2
    let closed := ((Operation.release ⟨2⟩).perform program).2
    program.innermost? = some 2 ∧ (∃ ended, program.endTransaction 2 false = .ok ended) ∧
      program.isClosed = false ∧ program.consumers = [⟨2⟩] ∧ closed.isClosed = true ∧
      (∃ earlier, LastIdle start calls earlier ∧ closed.state = (run earlier start).2.state) ∧
      program.state ≠ start.state ∧ closed.state = start.state := by
  intro start calls program closed
  obtain ⟨-, -, ends, -, whileOpen, -⟩ := nest_and_owners_of_run "image"
    (.make "target" ⟨"ram", .ram, 16, none⟩) "default" ⟨1⟩ calls
  have isOpen : program.isClosed = false := by decide
  have owners : program.consumers = [⟨2⟩] := by decide
  have innermost : program.innermost? = some 2 := by decide
  obtain ⟨closes, restores⟩ := (whileOpen isOpen).2 (.release ⟨2⟩)
  have nowClosed : closed.isClosed = true := closes.mpr ⟨⟨2⟩, rfl, owners⟩
  exact ⟨innermost, (ends 2 false).1.mpr innermost, isOpen, owners, nowClosed, restores nowClosed,
    by decide, by decide⟩

end ImageImport.Program
