import ImageImport.Load.Protocol
import ImageImport.Proofs.Program.Balance

/-!
Contract: what becomes of a program that a source is loaded into.

Where a merge is work that ends the transactions it starts, its answer is what the load answers, and
listeners hear once that the program is restored. Whatever a merge does, a load that reports success
leaves the state that the merge made, unless the merge rolled something back on its way.

Owns: the program that a loader is handed, the calls that a merge comes to, and the program after
it.
Does not own: what a particular loader merges.
-/

namespace ImageImport

open Program

variable {κ σ : Type}

namespace Loader

/-- The program as a merge is handed it: behind a shut gate, in a transaction of its own. -/
def handedOver (loader : Loader κ σ) (program : Program) : Program :=
  { program with
    eventsEnabled := false
    transaction := some
      ⟨[(program.nextTransaction, "Loading - " ++ loader.name)], program.state, false, []⟩
    nextTransaction := program.nextTransaction + 1 }

/-- What a merge answers, and what it leaves behind. -/
def merge (loader : Loader κ σ) (source : ByteSource) (spec : LoadSpec)
    (options : List LoadOption) (program : Program) (surroundings : Surroundings σ) :
    Except Failure Bool × Program × Surroundings σ :=
  (loader.mergeInto source spec options).apply (loader.handedOver program, surroundings)

/-- The program after a load, from how it was before and how the merge left it. -/
def takenBack (program worked : Program) (isKept : Bool) : Program :=
  { worked with
    transaction := none
    state := if isKept then worked.state else program.state
    eventsEnabled := true
    deliveries := program.deliveries ++
      worked.listeners.map fun listener => (listener, .restored) }

/-- A merge does to the program what these calls do. -/
def MergesBy (loader : Loader κ σ) (source : ByteSource) (spec : LoadSpec)
    (options : List LoadOption) (program : Program) (surroundings : Surroundings σ)
    (operations : List Operation) : Prop :=
  (loader.merge source spec options program surroundings).2.1 =
    (run operations (loader.handedOver program)).2

/-- A merge does to the program what these calls do: work that ends the transactions it starts. -/
structure WorksBy (loader : Loader κ σ) (source : ByteSource) (spec : LoadSpec)
    (options : List LoadOption) (program : Program) (surroundings : Surroundings σ)
    (operations : List Operation) : Prop where
  made : loader.MergesBy source spec options program surroundings operations
  isWork : ∀ operation ∈ operations, operation.IsWork
  balanced : Balanced (run operations (loader.handedOver program)).1

/-- A loader whose merge makes calls on the program, whatever becomes of each, and then answers. -/
def performing (operations : List Operation) (answer : Except Failure Bool) : Loader κ σ where
  name := "performing"
  overridesPrimaryName := true
  extract _ _ := pure []
  mergeInto _ _ _ :=
    .of fun (program, surroundings) => (answer, (run operations program).2, surroundings)
  fixups _ := pure ()
  defaultOptions _ := []
  validateOptions _ := .ok ()

end Loader

section

variable {loader : Loader κ σ} {source : ByteSource} {spec : LoadSpec}
  {options : List LoadOption} {program : Program} {surroundings : Surroundings σ}
  {operations : List Operation}

theorem startTransaction_handedOver (isOpen : program.isClosed = false)
    (idle : program.transaction = none) :
    (program.setEventsEnabled false).startTransaction ("Loading - " ++ loader.name) =
      .ok (program.nextTransaction, loader.handedOver program) := by
  rw [setEventsEnabled_false]
  exact @startTransaction_of_idle { program with eventsEnabled := false } isOpen idle _

/-- A program is handed over at the start of a transaction that it was not in before. -/
theorem within_handedOver (isOpen : program.isClosed = false) (idle : program.transaction = none) :
    Within program.nextTransaction program.state [] (loader.handedOver program) := by
  have shutIdle : (program.setEventsEnabled false).transaction = none := by
    rw [setEventsEnabled_false]
    exact idle
  have within := within_of_startTransaction shutIdle
    (@startTransaction_handedOver κ σ loader program isOpen idle)
  rw [setEventsEnabled_false] at within
  exact within

/-- A load into an open program is the merge, the end of the transaction around it, and the opening
of the gate. -/
theorem loadInto_apply (isComplete : spec.isComplete = true)
    (isOpen : program.isClosed = false) (idle : program.transaction = none) :
    (loadInto loader source spec options).apply (program, surroundings) =
      let merged := loader.merge source spec options program surroundings
      match merged.2.1.endTransaction program.nextTransaction (mergeCommits merged.1) with
      | .ok finished => (merged.1, finished.setEventsEnabled true, merged.2.2)
      | .error failure =>
          (beforeEnd merged.1 (.error failure), merged.2.1.setEventsEnabled true, merged.2.2) := by
  have started := @startTransaction_handedOver κ σ loader program isOpen idle
  simp only [loadInto, Attempt.apply_of, isComplete, isOpen, bracket, started, Loader.merge]
  generalize (loader.mergeInto source spec options).apply
    (loader.handedOver program, surroundings) = merged
  obtain ⟨answer, worked, after⟩ := merged
  cases worked.endTransaction program.nextTransaction (mergeCommits answer) with
  | error failure => rfl
  | ok finished => cases answer <;> rfl

/-- A load into a program keeps the state that the work of a merge left behind if the merge reports
success and has asked for no rollback on its way. -/
theorem loadInto_of_worksBy (isComplete : spec.isComplete = true)
    (isOpen : program.isClosed = false) (idle : program.transaction = none)
    (worksBy : loader.WorksBy source spec options program surroundings operations) :
    (loadInto loader source spec options).apply (program, surroundings) =
      ((loader.merge source spec options program surroundings).1,
        Loader.takenBack program (loader.merge source spec options program surroundings).2.1
          (mergeCommits (loader.merge source spec options program surroundings).1 &&
            !(run operations (loader.handedOver program)).1.any Performed.asksRollback),
        (loader.merge source spec options program surroundings).2.2) := by
  have made : (loader.merge source spec options program surroundings).2.1 = _ := worksBy.made
  have inside : Inside program.nextTransaction program.state [] 0 (loader.handedOver program) :=
    ⟨within_handedOver isOpen idle, rfl⟩
  have silent := @silent_run (loader.handedOver program) rfl _ worksBy.isWork
  have last := inside.run worksBy.isWork worksBy.balanced
  rw [List.nil_append, ← made] at last
  rw [← made] at silent
  have ended := last.finish silent.shut
    (mergeCommits (loader.merge source spec options program surroundings).1)
  simp only [loadInto_apply isComplete isOpen idle, ended]
  rw [setEventsEnabled_true_of_shut]
  · cases mergeCommits (loader.merge source spec options program surroundings).1 <;>
      cases (run operations (loader.handedOver program)).1.any Performed.asksRollback <;>
      simp only [silent.deliveries_eq] <;> rfl
  · exact silent.shut
  · exact last.within.isOpen

/-- Whatever a merge does and answers, the load answers the same, and listeners, those that came in
meanwhile too, hear once that the program is restored. Unless the merge reports success, nothing of
what it did to the state is left. -/
theorem loadInto_restores_what_is_not_merged (isComplete : spec.isComplete = true)
    (isOpen : program.isClosed = false) (idle : program.transaction = none)
    (worksBy : loader.WorksBy source spec options program surroundings operations) :
    let merged := loader.merge source spec options program surroundings
    let done := (loadInto loader source spec options).apply (program, surroundings)
    let finished := done.2.1
    done.1 = merged.1 ∧
    (done.1 ≠ .ok true → finished.state = program.state) ∧
    finished.transaction = none ∧ finished.eventsEnabled = true ∧
    (∃ joined, finished.listeners = program.listeners ++ joined) ∧
    finished.deliveries = program.deliveries ++
      finished.listeners.map fun listener => (listener, .restored) := by
  intro merged done finished
  have outcome := loadInto_of_worksBy isComplete isOpen idle worksBy
  have answer : done.1 = merged.1 := congrArg (fun done => done.1) outcome
  have taken : finished = Loader.takenBack program merged.2.1 _ :=
    congrArg (fun done => done.2.1) outcome
  have made : merged.2.1 = _ := worksBy.made
  have silent := @silent_run (loader.handedOver program) rfl _ worksBy.isWork
  rw [← made] at silent
  refine ⟨answer, fun notMerged => ?_, ?_⟩
  · have refused : mergeCommits merged.1 = false := by
      rw [answer] at notMerged
      cases reported : merged.1 with
      | error failure => rfl
      | ok wasMerged =>
          rw [reported] at notMerged
          simpa [mergeCommits] using notMerged
    rw [taken, refused]
    rfl
  · rw [taken]
    exact ⟨rfl, rfl, silent.listeners_kept, rfl⟩

/-- A merge that is cancelled after a change, a refused one, a transaction that it ended itself and
an end out of turn, all behind a gate that was shut before, with a listener that comes in
meanwhile. -/
theorem cancelled_merge_is_restored :
    let calls : List Operation := [.mutate (.setProperty "Merge" "partial"), .start "inner",
      .mutate (.setAnalyzed true), .mutate (.setImageBase ⟨"rom", .ram, 0, 16, none⟩),
      .addListener ⟨8⟩, .finish 1 true, .finish 2 true, .finish 2 true]
    let loader : Loader Unit Unit := .performing calls (.error .cancelled)
    let spec : LoadSpec := ⟨.make "target" ⟨"ram", .ram, 16, none⟩, "default", true⟩
    let program := ((make "image" spec.language "default" ⟨1⟩).addListener ⟨7⟩).setEventsEnabled
      false
    let surroundings : Surroundings Unit := ⟨0, .empty, .make none, ()⟩
    let merged := loader.merge (.ofBytes [0]) spec [] program surroundings
    let done := (loadInto loader (.ofBytes [0]) spec []).apply (program, surroundings)
    spec.isComplete = true ∧ program.isClosed = false ∧ program.transaction = none ∧
      loader.WorksBy (.ofBytes [0]) spec [] program surroundings calls ∧
      merged.2.1.state ≠ program.state ∧
      done.1 = .error .cancelled ∧ done.2.1.state = program.state ∧
      done.2.1.deliveries = [(⟨7⟩, .restored), (⟨8⟩, .restored)] := by
  intro calls loader spec program surroundings merged done
  have isWork : ∀ operation ∈ calls, operation.IsWork := by simp [calls, Operation.IsWork]
  have worksBy : loader.WorksBy (.ofBytes [0]) spec [] program surroundings calls :=
    ⟨rfl, isWork, rfl⟩
  obtain ⟨answer, restored, -, -, -, delivered⟩ :=
    loadInto_restores_what_is_not_merged rfl rfl rfl worksBy
  have notMerged : done.1 ≠ .ok true := by
    rw [answer]
    exact nofun
  exact ⟨rfl, rfl, rfl, worksBy, by decide, answer, restored notMerged, delivered⟩

/-- A merge that rolls back one of its own transactions, and reports success all the same, is lost:
the load answers that it succeeded, and the state is the one from before. -/
theorem success_is_lost_by_nested_rollback :
    let calls : List Operation :=
      [.mutate (.setProperty "Merge" "partial"), .start "inner", .finish 2 false]
    let loader : Loader Unit Unit := .performing calls (.ok true)
    let spec : LoadSpec := ⟨.make "target" ⟨"ram", .ram, 16, none⟩, "default", true⟩
    let program := Program.make "image" spec.language "default" ⟨1⟩
    let surroundings : Surroundings Unit := ⟨0, .empty, .make none, ()⟩
    let merged := loader.merge (.ofBytes [0]) spec [] program surroundings
    let done := (loadInto loader (.ofBytes [0]) spec []).apply (program, surroundings)
    spec.isComplete = true ∧ program.isClosed = false ∧ program.transaction = none ∧
      loader.WorksBy (.ofBytes [0]) spec [] program surroundings calls ∧
      done.1 = .ok true ∧ done.2.1.state ≠ merged.2.1.state := by
  intro calls loader spec program surroundings merged done
  have isWork : ∀ operation ∈ calls, operation.IsWork := by simp [calls, Operation.IsWork]
  exact ⟨rfl, rfl, rfl, ⟨rfl, isWork, rfl⟩, rfl, by decide⟩

/-- If a load reports success, the state is what the merge left behind, unless the merge rolled back
a transaction of its own: any rollback in a nest is one of the whole nest. Then it is the state from
before the load. Nothing is assumed of what the merge does. -/
theorem loadInto_keeps_success_unless_rolled_back (isComplete : spec.isComplete = true)
    (isOpen : program.isClosed = false) (idle : program.transaction = none)
    (mergesBy : loader.MergesBy source spec options program surroundings operations) :
    let merged := loader.merge source spec options program surroundings
    let done := (loadInto loader source spec options).apply (program, surroundings)
    done.1 = .ok true →
      done.2.1.state =
        if (run operations (loader.handedOver program)).1.any Performed.asksRollback
        then program.state else merged.2.1.state := by
  intro merged done succeeded
  have made : merged.2.1 = (run operations (loader.handedOver program)).2 := mergesBy
  have outcome : done = _ := loadInto_apply isComplete isOpen idle
  have within : Within program.nextTransaction program.state [] (loader.handedOver program) :=
    within_handedOver isOpen idle
  cases ended : merged.2.1.endTransaction program.nextTransaction (mergeCommits merged.1) with
  | error failure =>
      -- A merge that reports success cannot hide that its transaction had no end.
      have answer : done.1 = beforeEnd merged.1 (.error failure) := by
        rw [outcome]
        simp only [merged, ended]
      rw [succeeded] at answer
      cases reported : merged.1 <;> rw [reported] at answer <;> contradiction
  | ok finished =>
      have taken : done = (merged.1, finished.setEventsEnabled true, merged.2.2) := by
        rw [outcome]
        simp only [merged, ended]
      have reported : merged.1 = .ok true := by rw [← succeeded, taken]
      have kept : done.2.1.state = finished.state := by
        obtain ⟨deliveries, opened⟩ := finished.setEventsEnabled_frame true
        rw [taken, opened]
      rw [made, reported] at ended
      rcases within.run operations with still | past
      · rcases still.finish ended with ⟨-, -, -, settled⟩ | ⟨notOutermost, -⟩
        · rw [kept, settled, made, mergeCommits, Bool.not_true, Bool.or_false, List.nil_append]
        · exact absurd rfl notOutermost
      · exact absurd ended past.not_ended

/-- A success is kept past a change that was refused and a transaction that the merge ended
itself. -/
theorem merge_with_inner_commit_is_kept :
    let calls : List Operation := [.mutate (.setProperty "Merge" "whole"), .start "inner",
      .mutate (.setAnalyzed true), .mutate (.setImageBase ⟨"rom", .ram, 0, 16, none⟩),
      .finish 2 true]
    let loader : Loader Unit Unit := .performing calls (.ok true)
    let spec : LoadSpec := ⟨.make "target" ⟨"ram", .ram, 16, none⟩, "default", true⟩
    let program := make "image" spec.language "default" ⟨1⟩
    let surroundings : Surroundings Unit := ⟨0, .empty, .make none, ()⟩
    let merged := loader.merge (.ofBytes [0]) spec [] program surroundings
    let done := (loadInto loader (.ofBytes [0]) spec []).apply (program, surroundings)
    spec.isComplete = true ∧ program.isClosed = false ∧ program.transaction = none ∧
      loader.MergesBy (.ofBytes [0]) spec [] program surroundings calls ∧ done.1 = .ok true ∧
      done.2.1.state = merged.2.1.state ∧ merged.2.1.state ≠ program.state := by
  intro calls loader spec program surroundings merged done
  have mergesBy : loader.MergesBy (.ofBytes [0]) spec [] program surroundings calls := rfl
  have kept := loadInto_keeps_success_unless_rolled_back rfl rfl rfl mergesBy rfl
  exact ⟨rfl, rfl, rfl, mergesBy, rfl, kept, by decide⟩

end

end ImageImport
