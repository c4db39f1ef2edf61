import ImageImport.Failure

/-!
Contract: steps that read and change a state and may fail on the way.

What a step has changed before it fails stays changed: undoing is the business of transactions.
-/

namespace ImageImport

/-- A function from a state to an outcome and the state after it. -/
abbrev Attempt (σ α : Type) : Type := ExceptT Failure (StateM σ) α

namespace Attempt

variable {σ α : Type}

def apply (step : Attempt σ α) (state : σ) : Except Failure α × σ :=
  step.run.run state

/-- The step that a function describes. -/
def of (run : σ → Except Failure α × σ) : Attempt σ α :=
  ExceptT.mk fun state => run state

/-- A step that leaves the state as it was when it fails. -/
def ofUpdate (update : σ → Except Failure (α × σ)) : Attempt σ α :=
  of fun state =>
    match update state with
    | .ok (value, next) => (.ok value, next)
    | .error failure => (.error failure, state)

/-- A step that only changes the state, and leaves it as it was when it fails. -/
def ofChange (change : σ → Except Failure σ) : Attempt σ Unit :=
  of fun state =>
    match change state with
    | .ok next => (.ok (), next)
    | .error failure => (.error failure, state)

def ofExcept (result : Except Failure α) : Attempt σ α :=
  of fun state => (result, state)

def onPart {ω : Type} (part : ω → σ) (setPart : ω → σ → ω) (step : Attempt σ α) : Attempt ω α :=
  of fun whole => let (result, next) := step.apply (part whole); (result, setPart whole next)

/-- The outcome of a step, as a step that does not fail. -/
def outcome (step : Attempt σ α) : Attempt σ (Except Failure α) :=
  of fun state => let (result, next) := step.apply state; (.ok result, next)

/-- Steps one after another, whatever becomes of each: their outcomes, and the state after all. -/
def each : List (Attempt σ α) → σ → List (Except Failure α) × σ
  | [], state => ([], state)
  | step :: rest, state =>
      let (result, next) := step.apply state
      let (results, last) := each rest next
      (result :: results, last)

/-! ## What each step does to a state -/

@[simp] theorem apply_of (run : σ → Except Failure α × σ) (state : σ) :
    (of run).apply state = run state := rfl

@[simp] theorem apply_pure (value : α) (state : σ) :
    (pure value : Attempt σ α).apply state = (.ok value, state) := rfl

@[simp] theorem apply_throw (failure : Failure) (state : σ) :
    (throw failure : Attempt σ α).apply state = (.error failure, state) := rfl

@[simp] theorem apply_get (state : σ) :
    (get : Attempt σ σ).apply state = (.ok state, state) := rfl

@[simp] theorem apply_modify (change : σ → σ) (state : σ) :
    (modify change : Attempt σ PUnit).apply state = (.ok (), change state) := rfl

/-- A step after another is taken only if that one does not fail. -/
theorem apply_bind {β : Type} (step : Attempt σ α) (next : α → Attempt σ β) (state : σ) :
    (step >>= next).apply state =
      match step.apply state with
      | (.ok value, after) => (next value).apply after
      | (.error failure, after) => (.error failure, after) := by
  show (ExceptT.bindCont next (step state).1 (step state).2) = _
  unfold apply ExceptT.run StateT.run
  cases step state with
  | mk result after => cases result <;> rfl

theorem apply_ofUpdate (update : σ → Except Failure (α × σ)) (state : σ) :
    (ofUpdate update).apply state =
      match update state with
      | .ok (value, next) => (.ok value, next)
      | .error failure => (.error failure, state) := by
  rw [ofUpdate, apply_of]

theorem apply_ofChange (change : σ → Except Failure σ) (state : σ) :
    (ofChange change).apply state =
      match change state with
      | .ok next => (.ok (), next)
      | .error failure => (.error failure, state) := by
  rw [ofChange, apply_of]

@[simp] theorem apply_onPart {ω : Type} (part : ω → σ) (setPart : ω → σ → ω)
    (step : Attempt σ α) (whole : ω) :
    (onPart part setPart step).apply whole =
      ((step.apply (part whole)).1, setPart whole (step.apply (part whole)).2) := rfl

@[simp] theorem apply_outcome (step : Attempt σ α) (state : σ) :
    step.outcome.apply state = (.ok (step.apply state).1, (step.apply state).2) := rfl

end Attempt

end ImageImport
