import ImageImport.Load.Surroundings

/-!
Contract: storing a program under the first name that is free.

The names tried are the one asked for, and then that name with 0, 1, 2 and so on behind it. The load
may be cancelled before each of them.

Owns: one attempt, and the search. The search has no bound of its own: it goes on for as long as the
storage finds names taken.
-/

namespace ImageImport.Storage

variable {κ σ : Type}

inductive Attempted where
  | stored
  | taken
  /-- The storage failed otherwise than by a taken name. -/
  | refused (failure : Failure)
deriving DecidableEq, Repr

/-- The name of an attempt; the first is the name asked for. -/
def attemptName (name : String) : Nat → String
  | 0 => name
  | n + 1 => name ++ Text.decimal n

/-- What the answer of a storage means for the search. Only cancellation is a failure of it. -/
def verdict : Except Failure Unit → Except Failure Attempted
  | .ok () => .ok .stored
  | .error (.duplicateName _) => .ok .taken
  | .error .cancelled => .error .cancelled
  | .error failure => .ok (.refused failure)

theorem verdict_error_cases (failure : Failure) :
    (∃ name, failure = .duplicateName name) ∨ failure = .cancelled ∨
      verdict (.error failure) = .ok (.refused failure) := by
  cases failure with
  | duplicateName name => exact .inl ⟨name, rfl⟩
  | cancelled => exact .inr (.inl rfl)
  | _ => exact .inr (.inr rfl)

/-- What an attempt leaves in the log. -/
def Attempted.messages (tried : String) : Attempted → List String
  | .refused failure => ["Unexpected exception creating file: " ++ tried, failure.report]
  | _ => []

@[simp] theorem Attempted.messages_stored (tried : String) :
    Attempted.stored.messages tried = [] := rfl

@[simp] theorem Attempted.messages_taken (tried : String) :
    Attempted.taken.messages tried = [] := rfl

def tryName (storage : Storage κ σ) (folder : κ) (tried : String) (program : Program) :
    Attempt (Surroundings σ) Attempted := do
  Surroundings.checkCancelled
  let answer ← (Surroundings.storing (storage.createFile folder tried program)).outcome
  match verdict answer with
  | .error failure => throw failure
  | .ok attempted =>
      Surroundings.addMessages (attempted.messages tried)
      return attempted

theorem tryName_apply (storage : Storage κ σ) (folder : κ) (tried : String) (program : Program)
    (before : Surroundings σ) :
    (storage.tryName folder tried program).apply before =
      match Surroundings.checkCancelled.apply before with
      | (.error failure, polled) => (.error failure, polled)
      | (.ok (), polled) =>
          match (Surroundings.storing (storage.createFile folder tried program)).apply polled with
          | (answer, after) =>
              match verdict answer with
              | .error failure => (.error failure, after)
              | .ok attempted =>
                  (.ok attempted,
                    { after with log := after.log.addAll (attempted.messages tried) }) := by
  rw [tryName, Attempt.apply_bind]
  cases Surroundings.checkCancelled.apply before with
  | mk result polled =>
    cases result with
    | error failure => rfl
    | ok _ =>
      simp only [Attempt.apply_bind, Attempt.apply_outcome]
      cases (Surroundings.storing (storage.createFile folder tried program)).apply polled with
      | mk answer after => cases judged : verdict answer <;> simp only [] <;> rfl

/-- Tries the names from an attempt on, until one is not taken. -/
def saveFrom (storage : Storage κ σ) (folder : κ) (name : String) (program : Program)
    (attempt : Nat) (surroundings : Surroundings σ) : Except Failure Bool × Surroundings σ :=
  match (storage.tryName folder (attemptName name attempt) program).apply surroundings with
  | (.error failure, after) => (.error failure, after)
  | (.ok .stored, after) => (.ok true, after)
  | (.ok (.refused _), after) => (.ok false, after)
  | (.ok .taken, after) => storage |>.saveFrom folder name program (attempt + 1) after
partial_fixpoint

/-- Stores a program under the first free name. Gives false, and says why in the log, where the
storage fails otherwise than by a taken name. -/
def saveUnderFreeName (storage : Storage κ σ) (folder : κ) (name : String) (program : Program) :
    Attempt (Surroundings σ) Bool :=
  .of (storage.saveFrom folder name program 0)

end ImageImport.Storage
