import ImageImport.Proofs.Program.Balance
import ImageImport.Proofs.Program.Lifecycle

/-!
Contract: what the listeners of a program hear of a run of calls.

Each call has some events to tell of. Which these are is said here from the calls alone that led to
it, the gate and the claims, and not from what a program keeps of its changes in order to tell of
them later. All who are registered at that moment hear of each event, and nobody hears of any other.

Owns: the events of a call, the deliveries of a run, and what one registration receives of them.
Does not own: what becomes of the state.
-/

namespace ImageImport.Program

/-- What a call within a transaction leaves a note of. -/
def Performed.notes : Performed → List String
  | ⟨.mutate mutation, succeeded⟩ => mutation.notes succeeded
  | _ => []

def Performed.registers? : Performed → Option Listener
  | ⟨.addListener listener, _⟩ => some listener
  | _ => none

/-- A call of a run, with what came before it. -/
structure Moment : Type 1 where
  before : Program
  /-- All calls before this one. -/
  earlier : List Performed
  /-- Those of them that were made since the outermost open transaction was opened. -/
  inside : List Performed
  call : Performed

namespace Moment

/-- Whoever was registered by then, in that order. -/
def listeners (moment : Moment) : List Listener :=
  moment.earlier.filterMap Performed.registers?

/-- The events of a call. The end of an outermost transaction tells of every change in it, unless
there was a wish for a rollback in its nest or the gate is shut; the gate tells when it is opened,
and the last claim when it is given up. -/
def tells (moment : Moment) : List Event :=
  match moment.call with
  | ⟨.finish _ _, true⟩ =>
      if moment.before.nestDepth = 1 ∧ moment.before.eventsEnabled ∧
          ¬ (moment.inside ++ [moment.call]).any Performed.asksRollback then
        (moment.inside.flatMap Performed.notes).map .changed
      else []
  | ⟨.setEventsEnabled true, _⟩ =>
      if ¬ moment.before.eventsEnabled ∧ ¬ moment.before.isClosed then [.restored] else []
  | ⟨.release consumer, _⟩ =>
      if ¬ moment.before.isClosed ∧ moment.before.consumers = [consumer] then [.closed] else []
  | _ => []

/-- Who hears of what at that moment. -/
def deliveries (moment : Moment) : List (Listener × Event) :=
  moment.tells.flatMap fun event => moment.listeners.map fun listener => (listener, event)

end Moment

/-- The calls since the outermost open transaction was opened, with one more call. -/
def insideAfter (inside : List Performed) (call : Performed) (program next : Program) :
    List Performed :=
  if program.hasTransaction && next.hasTransaction then inside ++ [call] else []

/-- The moments of a run, from a program with the calls that led to it. -/
def moments : List Operation → Program → List Performed → List Performed → List Moment
  | [], _, _, _ => []
  | operation :: rest, program, earlier, inside =>
      let call : Performed := ⟨operation, isOk (operation.perform program).1⟩
      let next := (operation.perform program).2
      ⟨program, earlier, inside, call⟩ ::
        moments rest next (earlier ++ [call]) (insideAfter inside call program next)

/-- What one listener received. -/
def heardBy (listener : Listener) (deliveries : List (Listener × Event)) : List Event :=
  (deliveries.filter fun delivery => delivery.1 == listener).map Prod.snd

/-- The close comes at most once, and nothing comes after it. -/
def EndsWithClose (events : List Event) : Prop :=
  ∃ before, .closed ∉ before ∧ (events = before ∨ events = before ++ [.closed])

theorem EndsWithClose.prepend {events : List Event} (ends : EndsWithClose events)
    {first : List Event} (without : .closed ∉ first) : EndsWithClose (first ++ events) := by
  obtain ⟨before, notThere, rfl | rfl⟩ := ends
  · exact ⟨first ++ events, by simp [without, notThere], .inl rfl⟩
  · exact ⟨first ++ before, by simp [without, notThere], .inr (List.append_assoc ..).symm⟩

/-! ## What one call has to tell of -/

theorem asksRollback_finish (id : Nat) (commit : Bool) :
    (⟨.finish id commit, true⟩ : Performed).asksRollback = !commit := by
  cases commit <;> rfl

/-- A call tells of nothing, or of one of the three kinds of events, each with its guard. -/
theorem Moment.tells_cases (moment : Moment) :
    moment.tells = [] ∨
    (∃ id, moment.call = ⟨.finish id true, true⟩ ∧ moment.before.nestDepth = 1 ∧
      moment.before.eventsEnabled = true ∧ moment.inside.any Performed.asksRollback = false ∧
      moment.tells = (moment.inside.flatMap Performed.notes).map .changed) ∨
    (moment.before.eventsEnabled = false ∧ moment.before.isClosed = false ∧
      moment.tells = [.restored]) ∨
    ∃ consumer, moment.call.operation = .release consumer ∧ moment.before.isClosed = false ∧
      moment.before.consumers = [consumer] ∧ moment.tells = [.closed] := by
  obtain ⟨before, earlier, inside, operation, succeeded⟩ := moment
  cases operation with
  | finish id commit =>
      cases succeeded with
      | false => exact .inl rfl
      | true =>
          simp only [tells, List.any_append, List.any_cons, List.any_nil, asksRollback_finish]
          split
          · next told =>
              obtain ⟨outermost, enabled, noWish⟩ := told
              obtain ⟨noneInside, rfl⟩ : inside.any Performed.asksRollback = false ∧
                commit = true := by simpa using noWish
              exact .inr (.inl ⟨id, rfl, outermost, enabled, noneInside, rfl⟩)
          · exact .inl rfl
  | setEventsEnabled enabled =>
      cases enabled with
      | false => exact .inl rfl
      | true =>
          simp only [tells]
          split
          · next told =>
              obtain ⟨shut, isOpen⟩ := told
              exact .inr (.inr (.inl ⟨by simpa using shut, by simpa using isOpen, rfl⟩))
          · exact .inl rfl
  | release consumer =>
      simp only [tells]
      split
      · next told =>
          obtain ⟨isOpen, last⟩ := told
          exact .inr (.inr (.inr ⟨consumer, rfl, by simpa using isOpen, last, rfl⟩))
      · exact .inl rfl
  | _ => exact .inl rfl

/-- A call on a closed program has nothing to tell. -/
theorem Moment.tells_of_closed {moment : Moment} (wellFormed : moment.before.WellFormed)
    (closed : moment.before.isClosed = true) : moment.tells = [] := by
  rcases moment.tells_cases with nothing | ⟨id, -, outermost, -⟩ | ⟨-, isOpen, -⟩ |
    ⟨consumer, -, isOpen, -⟩
  · exact nothing
  · simp [nestDepth, wellFormed.idle_of_isClosed closed] at outermost
  · simp [closed] at isOpen
  · simp [closed] at isOpen

/-! ## What a program keeps in order to tell of it -/

/-- A program that was led to by these calls, of which the last ones were made since its outermost
open transaction was opened. -/
structure Accounted (earlier inside : List Performed) (program : Program) : Prop where
  wellFormed : program.WellFormed
  noted : ∀ nest, program.transaction = some nest →
    nest.pending = inside.flatMap Performed.notes ∧
      nest.isAborted = inside.any Performed.asksRollback
  registered : program.isClosed = false →
    program.listeners = earlier.filterMap Performed.registers?

section Steps

variable {program next : Program} {call : Performed} {earlier inside : List Performed}

theorem accounted_of_idle (wellFormed : program.WellFormed) (idle : program.transaction = none)
    (unheard : program.listeners = []) : Accounted [] [] program :=
  ⟨wellFormed, by simp [idle], fun _ => unheard⟩

/-- A transaction opens with nothing noted. -/
theorem Step.noted_of_idle (step : Step program call next) (idle : program.transaction = none)
    {nest : OpenTransaction} (held : next.transaction = some nest) :
    nest.pending = [] ∧ nest.isAborted = false := by
  cases step with
  | opens description isOpen _ =>
      obtain rfl := Option.some.inj held
      exact ⟨rfl, rfl⟩
  | settles commit _ entries => contradiction
  | closes isOpen last => contradiction
  | refused isRefused => simp [idle] at held
  | gates enabled => simp [idle] at held
  | listens listener => simp [idle] at held
  | claims consumer => simp [idle] at held
  | yields stays => simp [idle] at held
  | joins description isOpen before => simp [idle] at before
  | leaves commit before entries isNested => simp [idle] at before
  | changes isOpen before changed => simp [idle] at before
  | fails isOpen before failed => simp [idle] at before

/-- While a transaction stays open, each call adds its notes and its wish to what is kept of it. -/
theorem Step.noted_of_held (step : Step program call next) {nest later : OpenTransaction}
    (isOpen : program.isClosed = false) (held : program.transaction = some nest)
    (stillHeld : next.transaction = some later) :
    later.pending = nest.pending ++ call.notes ∧
      later.isAborted = (nest.isAborted || call.asksRollback) := by
  have unchanged (same : program.transaction = some later) {call : Performed}
      (noNotes : call.notes = []) (noWish : call.asksRollback = false) :
      later.pending = nest.pending ++ call.notes ∧
        later.isAborted = (nest.isAborted || call.asksRollback) := by
    obtain rfl := Option.some.inj (held.symm.trans same)
    simp [noNotes, noWish]
  cases step with
  | @refused operation isRefused =>
      cases operation with
      | mutate mutation => simp [Operation.IsRefused, refusal?, isOpen, held] at isRefused
      | finish id commit => cases commit <;> exact unchanged stillHeld rfl rfl
      | _ => exact unchanged stillHeld rfl rfl
  | opens description _ idle => simp [held] at idle
  | joins description _ before =>
      obtain rfl := Option.some.inj (held.symm.trans before)
      obtain rfl := Option.some.inj stillHeld
      simp [Performed.notes, Performed.asksRollback]
  | leaves commit before entries isNested =>
      obtain rfl := Option.some.inj (held.symm.trans before)
      obtain rfl := Option.some.inj stillHeld
      simp [Performed.notes, asksRollback_finish]
  | changes _ before changed =>
      obtain rfl := Option.some.inj (held.symm.trans before)
      obtain rfl := Option.some.inj stillHeld
      simp [Performed.notes, Performed.asksRollback]
  | fails _ before failed =>
      obtain rfl := Option.some.inj (held.symm.trans before)
      obtain rfl := Option.some.inj stillHeld
      simp [Performed.notes, Performed.asksRollback]
  | settles commit before entries => contradiction
  | closes _ last => contradiction
  | gates enabled => exact unchanged stillHeld rfl rfl
  | listens listener => exact unchanged stillHeld rfl rfl
  | claims consumer => exact unchanged stillHeld rfl rfl
  | yields stays => exact unchanged stillHeld rfl rfl

/-- Listeners stay until the program closes. -/
theorem Step.listeners_eq (step : Step program call next) (stillOpen : next.isClosed = false) :
    next.listeners = program.listeners ++ call.registers?.toList := by
  cases step with
  | @refused operation isRefused =>
      cases operation with
      | addListener listener => exact isRefused.elim
      | _ => simp [Performed.registers?]
  | closes isOpen last => contradiction
  | _ => simp [Performed.registers?]

/-- What a program keeps goes on to agree with the calls that led to it. -/
theorem Accounted.step (accounted : Accounted earlier inside program)
    (step : Step program call next) :
    Accounted (earlier ++ [call]) (insideAfter inside call program next) next := by
  have wellFormed := accounted.wellFormed
  refine ⟨wellFormed.step step, fun later stillHeld => ?_, fun stillOpen => ?_⟩
  · cases held : program.transaction with
    | none =>
        have opened := step.noted_of_idle held stillHeld
        simpa [insideAfter, hasTransaction, held] using opened
    | some nest =>
        obtain ⟨pending, aborted⟩ := accounted.noted nest held
        have added := step.noted_of_held (wellFormed.isOpen_of_held held) held stillHeld
        simpa [insideAfter, hasTransaction, held, stillHeld, pending, aborted] using added
  · have isOpen : program.isClosed = false := by
      rw [← Bool.not_eq_true]
      intro closed
      have stays := (step.closed_stays wellFormed closed).1
      rw [stillOpen] at stays
      contradiction
    rw [step.listeners_eq stillOpen, accounted.registered isOpen]
    cases registers : call.registers? <;> simp [registers]

/-- A call delivers what it has to tell of to those who are registered. -/
theorem Accounted.deliveries_eq (accounted : Accounted earlier inside program)
    (step : Step program call next) :
    next.deliveries =
      program.deliveries ++ (Moment.mk program earlier inside call).deliveries := by
  have wellFormed := accounted.wellFormed
  have silent {moment : Moment} (nothing : moment.tells = []) :
      program.deliveries = program.deliveries ++ moment.deliveries := by
    rw [Moment.deliveries, nothing, List.flatMap_nil, List.append_nil]
  cases step with
  | @refused operation isRefused =>
      cases operation with
      | start description => exact silent rfl
      | finish id commit => exact silent rfl
      | mutate mutation => exact silent rfl
      | setEventsEnabled enabled => exact isRefused.elim
      | addListener listener => exact isRefused.elim
      | addConsumer consumer => exact isRefused.elim
      | release consumer => exact isRefused.elim
  | opens description isOpen idle => exact silent rfl
  | joins description isOpen held => exact silent rfl
  | leaves commit held entries isNested =>
      refine silent (if_neg fun told => isNested ?_)
      simpa [nestDepth, held, entries] using told.1
  | @settles id commit description nest held entries =>
      obtain ⟨pending, aborted⟩ := accounted.noted nest held
      have registered := accounted.registered (wellFormed.isOpen_of_held held)
      have outermost : program.nestDepth = 1 := by simp [nestDepth, held, entries]
      have tells : (Moment.mk program earlier inside ⟨.finish id commit, true⟩).tells =
          (if nest.isAborted || !commit || !program.eventsEnabled then [] else nest.pending).map
            .changed := by
        simp only [Moment.tells, outermost, List.any_append, List.any_cons, List.any_nil,
          asksRollback_finish, ← aborted, ← pending]
        cases nest.isAborted <;> cases commit <;> cases program.eventsEnabled <;> simp
      simp only [Moment.deliveries, Moment.listeners, tells, ← registered, List.flatMap_map]
  | changes isOpen held changed => exact silent rfl
  | fails isOpen held failed => exact silent rfl
  | gates enabled =>
      by_cases restores :
          (enabled && !program.eventsEnabled && !program.isClosed) = true
      · obtain ⟨⟨rfl, shut⟩, isOpen⟩ : (enabled = true ∧ program.eventsEnabled = false) ∧
          program.isClosed = false := by simpa using restores
        simp [Moment.deliveries, Moment.listeners, Moment.tells, shut, isOpen,
          accounted.registered isOpen]
      · rw [if_neg restores, List.append_nil]
        refine silent ?_
        cases enabled with
        | false => rfl
        | true => exact if_neg (by simpa using restores)
  | listens listener => exact silent rfl
  | claims consumer => exact silent rfl
  | @yields consumer stays =>
      refine silent (if_neg fun told => ?_)
      have only : program.consumers = [consumer] := told.2
      exact told.1 (stays (by simp [only]) (by simp [only]))
  | closes isOpen last =>
      simp [Moment.deliveries, Moment.listeners, Moment.tells, isOpen, last,
        accounted.registered isOpen]

/-- A change that is told of is kept. -/
theorem Step.kept_of_commit {id : Nat} (step : Step program ⟨.finish id true, true⟩ next)
    (accounted : Accounted earlier inside program) (outermost : program.nestDepth = 1)
    (noWish : inside.any Performed.asksRollback = false) :
    next.state = program.state ∧ program.isClosed = false := by
  cases step with
  | leaves _ held entries isNested =>
      refine absurd ?_ isNested
      simpa [nestDepth, held, entries] using outermost
  | settles _ held entries =>
      have aborted := (accounted.noted _ held).2
      refine ⟨?_, accounted.wellFormed.isOpen_of_held held⟩
      simp [aborted, noWish]

end Steps

/-! ## What a run has to tell of -/

section Runs

variable {program : Program} {earlier inside : List Performed}

theorem length_moments (operations : List Operation) (program : Program)
    (earlier inside : List Performed) :
    (moments operations program earlier inside).length = operations.length := by
  induction operations generalizing program earlier inside with
  | nil => rfl
  | cons operation rest inductionHypothesis =>
      rw [moments, List.length_cons, inductionHypothesis, List.length_cons]

theorem moments_append (first second : List Operation) (program : Program)
    (earlier inside : List Performed) :
    ∃ insideThen, moments (first ++ second) program earlier inside =
      moments first program earlier inside ++
        moments second (run first program).2 (earlier ++ (run first program).1) insideThen := by
  induction first generalizing program earlier inside with
  | nil => exact ⟨inside, by simp [moments, run]⟩
  | cons operation rest inductionHypothesis =>
      obtain ⟨insideThen, later⟩ := inductionHypothesis (operation.perform program).2
        (earlier ++ [⟨operation, isOk (operation.perform program).1⟩])
        (insideAfter inside ⟨operation, isOk (operation.perform program).1⟩ program
          (operation.perform program).2)
      refine ⟨insideThen, ?_⟩
      rw [List.cons_append, moments, later, moments]
      simp [run]

/-- At each moment of a run, what the program keeps agrees with the calls that led to it. -/
theorem Accounted.moments (accounted : Accounted earlier inside program)
    (operations : List Operation) :
    ∀ moment ∈ moments operations program earlier inside,
      Accounted moment.earlier moment.inside moment.before ∧
        Step moment.before moment.call (moment.call.operation.perform moment.before).2 := by
  induction operations generalizing program earlier inside with
  | nil => simp [Program.moments]
  | cons operation rest inductionHypothesis =>
      have step := step_of_perform program operation
      intro moment member
      rcases List.mem_cons.mp member with rfl | later
      · exact ⟨accounted, step⟩
      · exact inductionHypothesis (accounted.step step) moment later

/-- A run delivers what its calls have to tell of, and nothing else. -/
theorem Accounted.deliveries_of_run (accounted : Accounted earlier inside program)
    (operations : List Operation) :
    (run operations program).2.deliveries = program.deliveries ++
      (Program.moments operations program earlier inside).flatMap Moment.deliveries := by
  induction operations generalizing program earlier inside with
  | nil => simp [Program.moments, run]
  | cons operation rest inductionHypothesis =>
      have step := step_of_perform program operation
      have later := inductionHypothesis (accounted.step step)
      rw [accounted.deliveries_eq step, List.append_assoc] at later
      exact later

/-- Calls on a closed program have nothing to tell. -/
theorem moments_tell_nothing (wellFormed : program.WellFormed) (closed : program.isClosed = true)
    (operations : List Operation) :
    (moments operations program earlier inside).flatMap Moment.tells = [] := by
  induction operations generalizing program earlier inside with
  | nil => rfl
  | cons operation rest inductionHypothesis =>
      have step := step_of_perform program operation
      rw [moments, List.flatMap_cons, Moment.tells_of_closed wellFormed closed, List.nil_append]
      exact inductionHypothesis (wellFormed.step step) (step.closed_stays wellFormed closed).1

/-- A run tells of the close at most once, and of nothing after it. -/
theorem moments_end_with_close (wellFormed : program.WellFormed) (operations : List Operation) :
    EndsWithClose ((moments operations program earlier inside).flatMap Moment.tells) := by
  induction operations generalizing program earlier inside with
  | nil => exact ⟨[], List.not_mem_nil, .inl rfl⟩
  | cons operation rest inductionHypothesis =>
      have after := wellFormed.step (step_of_perform program operation)
      rw [moments, List.flatMap_cons]
      rcases Moment.tells_cases ⟨program, earlier, inside, _⟩ with
        nothing | ⟨id, -, -, -, -, changes⟩ | ⟨-, -, restored⟩ |
        ⟨consumer, isRelease, isOpen, last, closed⟩
      · rw [nothing, List.nil_append]
        exact inductionHypothesis after
      · rw [changes]
        exact (inductionHypothesis after).prepend (by simp)
      · rw [restored]
        exact (inductionHypothesis after).prepend (by simp)
      · obtain rfl : operation = .release consumer := isRelease
        rw [closed, moments_tell_nothing after (closes_of_last isOpen last)]
        exact ⟨[], List.not_mem_nil, .inr rfl⟩

end Runs

/-! ## What one registration receives -/

section Registrations

variable {program : Program} {earlier inside : List Performed} {listener : Listener}

/-- Of what is delivered at a moment, a listener receives each event once for each time that it was
registered. -/
theorem heardBy_deliveries (listener : Listener) (moment : Moment) :
    heardBy listener moment.deliveries =
      moment.tells.flatMap (List.replicate (moment.listeners.count listener)) := by
  unfold Moment.deliveries
  induction moment.tells with
  | nil => rfl
  | cons event rest inductionHypothesis =>
      simp only [heardBy, List.flatMap_cons, List.filter_append, List.map_append]
        at inductionHypothesis ⊢
      rw [inductionHypothesis]
      simp [List.filter_map, Function.comp_def, List.filter_beq]

theorem heardBy_append (listener : Listener) (first second : List (Listener × Event)) :
    heardBy listener (first ++ second) = heardBy listener first ++ heardBy listener second := by
  simp [heardBy]

theorem heardBy_flatMap (listener : Listener) (told : List Moment) :
    heardBy listener (told.flatMap Moment.deliveries) =
      told.flatMap fun moment => heardBy listener moment.deliveries := by
  simp [heardBy, List.filter_flatMap, List.map_flatMap]

theorem count_registers (listener : Listener) {operation : Operation}
    (other : operation ≠ .addListener listener) (succeeded : Bool) :
    (([⟨operation, succeeded⟩] : List Performed).filterMap Performed.registers?).count listener =
      0 := by
  cases operation with
  | addListener registered =>
      have different : registered ≠ listener := fun same => other (by rw [same])
      simp [Performed.registers?, different]
  | _ => rfl

/-- Calls that do not register a listener leave it as often registered as it was. -/
theorem count_registers_of_run {operations : List Operation}
    (notAgain : ∀ operation ∈ operations, operation ≠ .addListener listener) :
    ((run operations program).1.filterMap Performed.registers?).count listener = 0 := by
  induction operations generalizing program with
  | nil => rfl
  | cons operation rest inductionHypothesis =>
      have first : (run (operation :: rest) program).1 =
          [⟨operation, isOk (operation.perform program).1⟩] ++
            (run rest (operation.perform program).2).1 := rfl
      rw [first, List.filterMap_append, List.count_append, count_registers listener
        (notAgain operation (.head _)), Nat.zero_add]
      exact inductionHypothesis fun other isLater => notAgain other (.tail _ isLater)

theorem count_listeners_of_moments {operations : List Operation}
    (notAgain : ∀ operation ∈ operations, operation ≠ .addListener listener) :
    ∀ moment ∈ moments operations program earlier inside,
      moment.listeners.count listener =
        (earlier.filterMap Performed.registers?).count listener := by
  induction operations generalizing program earlier inside with
  | nil => simp [moments]
  | cons operation rest inductionHypothesis =>
      intro moment member
      rcases List.mem_cons.mp member with rfl | later
      · rfl
      · have notLater : ∀ other ∈ rest, other ≠ .addListener listener :=
          fun other isLater => notAgain other (.tail _ isLater)
        rw [inductionHypothesis notLater moment later, List.filterMap_append, List.count_append,
          count_registers listener (notAgain operation (.head _)), Nat.add_zero]

/-- While a listener is registered once, it receives all that there is to tell of. -/
theorem heardBy_of_registered {told : List Moment}
    (registered : ∀ moment ∈ told, moment.listeners.count listener = 1) :
    heardBy listener (told.flatMap Moment.deliveries) = told.flatMap Moment.tells := by
  rw [heardBy_flatMap]
  refine List.flatMap_congr fun moment member => ?_
  rw [heardBy_deliveries, registered moment member]
  exact List.flatMap_singleton' moment.tells

theorem heardBy_of_unregistered {told : List Moment}
    (unregistered : ∀ moment ∈ told, moment.listeners.count listener = 0) :
    heardBy listener (told.flatMap Moment.deliveries) = [] := by
  rw [heardBy_flatMap, List.flatMap_eq_nil_iff]
  intro moment member
  rw [heardBy_deliveries, unregistered moment member]
  simp

/-- A listener that is registered between two runs, and at no other time, receives all that the
second run has to tell of. -/
theorem heardBy_of_registered_once {earlier later : List Operation}
    (accounted : Accounted [] [] program) (unheard : program.deliveries = [])
    (once : ∀ operation ∈ earlier ++ later, operation ≠ .addListener listener) :
    let operations := earlier ++ .addListener listener :: later
    let since := (moments operations program [] []).drop (earlier.length + 1)
    heardBy listener (run operations program).2.deliveries = since.flatMap Moment.tells ∧
      ∃ calls inside, since = moments later ((run earlier program).2.addListener listener)
        calls inside := by
  intro operations since
  have notBefore : ∀ operation ∈ earlier, operation ≠ .addListener listener :=
    fun operation member => once operation (List.mem_append_left _ member)
  have notAfter : ∀ operation ∈ later, operation ≠ .addListener listener :=
    fun operation member => once operation (List.mem_append_right _ member)
  let call : Performed := ⟨.addListener listener, true⟩
  let calls := (run earlier program).1 ++ [call]
  obtain ⟨insideThen, insideLater, split⟩ : ∃ insideThen insideLater,
      moments operations program [] [] =
        (moments earlier program [] [] ++
          [⟨(run earlier program).2, (run earlier program).1, insideThen, call⟩]) ++
          moments later ((run earlier program).2.addListener listener) calls insideLater := by
    obtain ⟨insideThen, whole⟩ :=
      moments_append earlier (.addListener listener :: later) program [] []
    exact ⟨insideThen, _, whole.trans (List.append_cons ..)⟩
  have since_eq :
      since = moments later ((run earlier program).2.addListener listener) calls insideLater := by
    simp only [since]
    rw [split, List.drop_left' (by simp [length_moments])]
  refine ⟨?_, calls, insideLater, since_eq⟩
  rw [accounted.deliveries_of_run operations, unheard, List.nil_append, split, List.flatMap_append,
    heardBy_append, heardBy_of_unregistered, List.nil_append, since_eq]
  · refine heardBy_of_registered fun moment member => ?_
    rw [count_listeners_of_moments notAfter moment member, List.filterMap_append,
      List.count_append, count_registers_of_run notBefore]
    simp [call, Performed.registers?]
  · intro moment member
    rcases List.mem_append.mp member with before | now
    · rw [count_listeners_of_moments notBefore moment before]
      rfl
    · obtain rfl := List.mem_singleton.mp now
      exact count_registers_of_run notBefore

end Registrations

/-- Whatever calls are made on a new program, each event that a call has to tell of reaches everyone
registered by then, and nothing else is delivered. So a listener that is registered once receives,
in order, what the calls after its registration have to tell of. A change that it hears of was noted
in a transaction that nobody wanted rolled back and whose end kept the state; the close comes at
most once, with nothing after it, and on a closed program nothing is heard. -/
theorem heard_from_registration (name : String) (language : Language) (compiler : String)
    (consumer : Consumer) :
    let start := make name language compiler consumer
    (∀ operations, (run operations start).2.deliveries =
      (moments operations start [] []).flatMap Moment.deliveries) ∧
    ∀ earlier listener later,
      (∀ operation ∈ earlier ++ later, operation ≠ .addListener listener) →
      let operations := earlier ++ .addListener listener :: later
      let since := (moments operations start [] []).drop (earlier.length + 1)
      let heard := heardBy listener (run operations start).2.deliveries
      heard = since.flatMap Moment.tells ∧
      (∀ what, .changed what ∈ heard → ∃ moment ∈ since, ∃ id,
        moment.call = ⟨.finish id true, true⟩ ∧ moment.before.nestDepth = 1 ∧
        moment.inside.any Performed.asksRollback = false ∧
        what ∈ moment.inside.flatMap Performed.notes ∧
        ((Operation.finish id true).perform moment.before).2.state = moment.before.state ∧
        moment.before.isClosed = false) ∧
      EndsWithClose heard ∧
      ((run earlier start).2.isClosed = true → heard = []) := by
  intro start
  have new : Accounted [] [] start := accounted_of_idle (wellFormed_make _ _ _ _) rfl rfl
  refine ⟨fun operations => new.deliveries_of_run operations, ?_⟩
  intro earlier listener later once operations since heard
  obtain ⟨all, calls, inside, since_eq⟩ : heard = since.flatMap Moment.tells ∧
      ∃ calls inside, since = moments later ((run earlier start).2.addListener listener)
        calls inside :=
    heardBy_of_registered_once new rfl once
  have registered : ((run earlier start).2.addListener listener).WellFormed :=
    ((wellFormed_make _ _ _ _).run earlier).step (.listens listener)
  refine ⟨all, fun what told => ?_, ?_, fun closed => ?_⟩
  · rw [all, List.mem_flatMap] at told
    obtain ⟨moment, isLater, toldThen⟩ := told
    obtain ⟨accounted, step⟩ := new.moments operations moment (List.mem_of_mem_drop isLater)
    rcases moment.tells_cases with nothing | ⟨id, ends, outermost, -, noWish, changes⟩ |
      ⟨-, -, restored⟩ | ⟨consumer, -, -, -, closed⟩
    · simp [nothing] at toldThen
    · rw [ends] at step
      obtain ⟨kept, isOpen⟩ := step.kept_of_commit accounted outermost noWish
      refine ⟨moment, isLater, id, ends, outermost, noWish, ?_, kept, isOpen⟩
      simpa [changes] using toldThen
    · simp [restored] at toldThen
    · simp [closed] at toldThen
  · rw [all, since_eq]
    exact moments_end_with_close registered later
  · rw [all, since_eq]
    exact moments_tell_nothing registered closed later

/-- A listener that joins within a transaction hears of all its changes, one that the table did not
accept too, once it is committed behind a gate that was shut for a while; it hears nothing of what
is rolled back, and of the close in spite of a shut gate. -/
theorem heard_from_within_a_transaction :
    let start := make "image" (.make "target" ⟨"ram", .ram, 16, none⟩) "default" ⟨1⟩
    let earlier : List Operation := [.start "outer", .mutate (.setProperty "kept" "yes")]
    let later : List Operation := [.start "inner",
      .mutate (.editSymbols fun _ => (.error .cancelled : Except Failure (Unit × SymbolTable))),
      .setEventsEnabled false,
      .finish 2 true, .setEventsEnabled true, .finish 1 true,
      .start "undone", .mutate (.setAnalyzed true), .finish 3 false,
      .start "closed over", .mutate (.setAnalyzed true), .setEventsEnabled false, .release ⟨1⟩,
      .setEventsEnabled true]
    let operations := earlier ++ .addListener ⟨7⟩ :: later
    let heard := heardBy ⟨7⟩ (run operations start).2.deliveries
    (∀ operation ∈ earlier ++ later, operation ≠ .addListener ⟨7⟩) ∧
      heard = ((moments operations start [] []).drop 3).flatMap Moment.tells ∧
      heard = [.restored, .changed "properties", .changed "symbols", .closed] ∧
      EndsWithClose heard := by
  intro start earlier later operations heard
  have once : ∀ operation ∈ earlier ++ later, operation ≠ .addListener ⟨7⟩ := by
    simp [earlier, later]
  obtain ⟨all, -, ends, -⟩ := (heard_from_registration "image"
    (.make "target" ⟨"ram", .ram, 16, none⟩) "default" ⟨1⟩).2 earlier ⟨7⟩ later once
  exact ⟨once, all, by decide, ends⟩

end ImageImport.Program
