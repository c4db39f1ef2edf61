import ImageImport.Proofs.Program.Step

/-!
Contract: what every program made by its own operations is like, and what a release does to it.

Owns: `Program.WellFormed`, kept by every step, and the two promises of a release: the claim is gone,
and a program without owners is closed with nothing left open.
-/

namespace ImageImport.Program

/-- No consumer has two claims, a closed program has no transaction, and one without owners is
closed. -/
structure WellFormed (program : Program) : Prop where
  consumers_nodup : program.consumers.Nodup
  idle_of_isClosed : program.isClosed = true → program.transaction = none
  isClosed_of_ownerless : program.consumers = [] → program.isClosed = true

theorem wellFormed_make (name : String) (language : Language) (compiler : String)
    (consumer : Consumer) : (make name language compiler consumer).WellFormed :=
  ⟨by simp [make], fun _ => rfl, by simp [make]⟩

section Steps

variable {program next : Program} {call : Performed}

/-- A program with a transaction is open. -/
theorem WellFormed.isOpen_of_held (wellFormed : program.WellFormed) {nest : OpenTransaction}
    (held : program.transaction = some nest) : program.isClosed = false := by
  rw [← Bool.not_eq_true]
  intro isClosed
  have idle := wellFormed.idle_of_isClosed isClosed
  rw [held] at idle
  contradiction

/-- Closing leaves a program closed and idle, if no closed one has a transaction. -/
theorem close_closes (idle : program.isClosed = true → program.transaction = none) :
    program.close.isClosed = true ∧ program.close.transaction = none ∧
      program.close.consumers = program.consumers := by
  by_cases isClosed : program.isClosed = true
  · rw [close_of_isClosed isClosed]
    exact ⟨isClosed, idle isClosed, rfl⟩
  · rw [Bool.not_eq_true] at isClosed
    obtain ⟨closed, nowIdle, sameConsumers, -⟩ := close_of_isOpen isClosed
    exact ⟨closed, nowIdle, sameConsumers⟩

/-- Every step keeps a program well formed. -/
theorem WellFormed.step (wellFormed : program.WellFormed) (step : Step program call next) :
    next.WellFormed := by
  have ⟨distinct, idleOfClosed, closedOfOwnerless⟩ := wellFormed
  cases step with
  | refused isRefused => exact wellFormed
  | opens description isOpen idle => exact ⟨distinct, by simp [isOpen], closedOfOwnerless⟩
  | joins description isOpen held => exact ⟨distinct, by simp [isOpen], closedOfOwnerless⟩
  | leaves commit held entries isNested =>
      exact ⟨distinct, by simp [wellFormed.isOpen_of_held held], closedOfOwnerless⟩
  | settles commit held entries => exact ⟨distinct, fun _ => rfl, closedOfOwnerless⟩
  | changes isOpen held changed => exact ⟨distinct, by simp [isOpen], closedOfOwnerless⟩
  | fails isOpen held failed => exact ⟨distinct, by simp [isOpen], closedOfOwnerless⟩
  | gates enabled => exact ⟨distinct, idleOfClosed, closedOfOwnerless⟩
  | listens listener => exact ⟨distinct, idleOfClosed, closedOfOwnerless⟩
  | claims consumer =>
      by_cases owned : consumer ∈ program.consumers
      · simpa only [if_pos owned] using wellFormed
      · simp only [if_neg owned]
        refine ⟨List.nodup_append.mpr ⟨distinct, by simp, ?_⟩, idleOfClosed, by simp⟩
        rintro owner member other isNew rfl
        exact owned (List.mem_singleton.mp isNew ▸ member)
  | @yields consumer stays =>
      refine ⟨distinct.erase consumer, idleOfClosed, fun ownerless => ?_⟩
      by_cases owned : consumer ∈ program.consumers
      · exact stays owned ownerless
      · rw [List.erase_of_not_mem owned] at ownerless
        exact closedOfOwnerless ownerless
  | closes isOpen last => exact ⟨List.nodup_nil, fun _ => rfl, fun _ => rfl⟩

/-- So every run of operations from a new program ends in a well-formed one. -/
theorem WellFormed.run (wellFormed : program.WellFormed) (operations : List Operation) :
    (run operations program).2.WellFormed :=
  kept_by_run WellFormed.step wellFormed operations

end Steps

section Releases

variable {program : Program}

theorem WellFormed.release (wellFormed : program.WellFormed) (consumer : Consumer) :
    (program.release consumer).2.WellFormed :=
  wellFormed.step (step_of_release program consumer)

/-- After a release the consumer has no claim, whether there was one or not. -/
theorem WellFormed.not_owned_of_release (wellFormed : program.WellFormed) (consumer : Consumer) :
    (program.release consumer).2.isOwnedBy consumer = false := by
  by_cases owned : program.isOwnedBy consumer = true
  · by_cases last : program.consumers.erase consumer = []
    · rw [release_of_last owned last]
      have idle := wellFormed.idle_of_isClosed
      obtain ⟨-, -, sameConsumers⟩ := @close_closes { program with consumers := [] } idle
      simp [isOwnedBy, sameConsumers]
    · rw [release_of_shared owned last]
      simp [isOwnedBy, wellFormed.consumers_nodup.mem_erase_iff]
  · rw [Bool.not_eq_true] at owned
    rw [release_of_not_owned owned]
    exact owned

/-- A release adds no owner. -/
theorem WellFormed.release_consumers_subset (wellFormed : program.WellFormed)
    (consumer : Consumer) : (program.release consumer).2.consumers ⊆ program.consumers := by
  by_cases owned : program.isOwnedBy consumer = true
  · by_cases last : program.consumers.erase consumer = []
    · rw [release_of_last owned last]
      have idle := wellFormed.idle_of_isClosed
      obtain ⟨-, -, sameConsumers⟩ := @close_closes { program with consumers := [] } idle
      simp [sameConsumers]
    · rw [release_of_shared owned last]
      exact List.erase_subset
  · rw [release_of_not_owned (Bool.eq_false_iff.mpr owned)]
    exact List.Subset.refl _

/-- Once a consumer's claim is given up, a program with no other owner is closed, with no
transaction open. -/
theorem WellFormed.closed_of_release (wellFormed : program.WellFormed) {consumer : Consumer}
    (only : ∀ owner ∈ program.consumers, owner = consumer) :
    (program.release consumer).2.isClosed = true ∧
      (program.release consumer).2.transaction = none := by
  have ownerless : (program.release consumer).2.consumers = [] := by
    rw [List.eq_nil_iff_forall_not_mem]
    intro owner stays
    have same : owner = consumer :=
      only owner (wellFormed.release_consumers_subset consumer stays)
    subst same
    have gone : owner ∉ (program.release owner).2.consumers := by
      simpa [isOwnedBy] using wellFormed.not_owned_of_release owner
    exact gone stays
  have after := wellFormed.release consumer
  have closed := after.isClosed_of_ownerless ownerless
  exact ⟨closed, after.idle_of_isClosed closed⟩

end Releases

end ImageImport.Program
