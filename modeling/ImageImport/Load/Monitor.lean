import ImageImport.Failure

/-!
Contract: cancellation and progress of a load.

Cancellation is seen only where a load polls for it. A monitor may have a deadline, which is told
here by the polls that are left before it has passed.

Owns: polling, and the progress counters.
Does not own: where a load polls.
-/

namespace ImageImport

structure Monitor where
  isCancelled : Bool
  /-- How many polls come before the deadline, where there is one. -/
  pollsLeft : Option Nat
  progress : UInt64
  maximum : UInt64
  message : String
deriving DecidableEq, Repr

namespace Monitor

def make (pollsLeft : Option Nat) : Monitor := ⟨false, pollsLeft, 0, 0, ""⟩

def cancel (monitor : Monitor) : Monitor := { monitor with isCancelled := true }

def clearCancelled (monitor : Monitor) : Monitor := { monitor with isCancelled := false }

/-- Whether the load is to stop. A deadline that has passed cancels for good. -/
def poll (monitor : Monitor) : Bool × Monitor :=
  if monitor.isCancelled then (true, monitor)
  else
    match monitor.pollsLeft with
    | none => (false, monitor)
    | some 0 => (true, monitor.cancel)
    | some (left + 1) => (false, { monitor with pollsLeft := some left })

/-- A poll that fails when the load is to stop. -/
def check (monitor : Monitor) : Except Failure Unit × Monitor :=
  match monitor.poll with
  | (true, polled) => (.error .cancelled, polled)
  | (false, polled) => (.ok (), polled)

/-- A poll fails in one way only. -/
theorem eq_cancelled_of_check {monitor : Monitor} {failure : Failure}
    (refused : monitor.check.1 = .error failure) : failure = .cancelled := by
  unfold check at refused
  split at refused
  · exact (Except.error.inj refused).symm
  · contradiction

/-- A monitor that is not cancelled and has no deadline. -/
structure Quiet (monitor : Monitor) : Prop where
  notCancelled : monitor.isCancelled = false
  noDeadline : monitor.pollsLeft = none

theorem Quiet.poll_eq {monitor : Monitor} (quiet : monitor.Quiet) :
    monitor.poll = (false, monitor) := by
  simp [poll, quiet.notCancelled, quiet.noDeadline]

theorem Quiet.check_eq {monitor : Monitor} (quiet : monitor.Quiet) :
    monitor.check = (.ok (), monitor) := by
  rw [check, quiet.poll_eq]

/-- A monitor that is not cancelled, and will not be in the next so many polls. -/
structure Lasts (monitor : Monitor) (polls : Nat) : Prop where
  notCancelled : monitor.isCancelled = false
  polls_le : ∀ left, monitor.pollsLeft = some left → polls ≤ left

theorem Quiet.lasts {monitor : Monitor} (quiet : monitor.Quiet) (polls : Nat) :
    monitor.Lasts polls :=
  ⟨quiet.notCancelled, by simp [quiet.noDeadline]⟩

/-- A poll takes one off the polls that a monitor lasts for. -/
theorem Lasts.check {monitor : Monitor} {polls : Nat} (lasts : monitor.Lasts (polls + 1)) :
    monitor.check.1 = .ok () ∧ monitor.check.2.Lasts polls := by
  cases deadline : monitor.pollsLeft with
  | none =>
      have quiet : monitor.Quiet := ⟨lasts.notCancelled, deadline⟩
      rw [quiet.check_eq]
      exact ⟨rfl, quiet.lasts polls⟩
  | some left =>
      have enough := lasts.polls_le left deadline
      obtain ⟨fewer, rfl⟩ : ∃ fewer, left = fewer + 1 := ⟨left - 1, by omega⟩
      have polled : monitor.check = (.ok (), { monitor with pollsLeft := some fewer }) := by
        simp [Monitor.check, poll, lasts.notCancelled, deadline]
      rw [polled]
      refine ⟨rfl, lasts.notCancelled, fun next same => ?_⟩
      obtain rfl := Option.some.inj same
      omega

def setMessage (monitor : Monitor) (message : String) : Monitor := { monitor with message }

/-- Sets how far there is to go, from the start again. -/
def setMaximum (monitor : Monitor) (maximum : UInt64) : Monitor :=
  { monitor with maximum, progress := 0 }

/-- Counts up; the counter wraps around at 2^64. -/
def advance (monitor : Monitor) (amount : UInt64) : Monitor :=
  { monitor with progress := monitor.progress + amount }

end Monitor

end ImageImport
