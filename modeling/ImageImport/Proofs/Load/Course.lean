import ImageImport.Load.Protocol

/-!
Contract: the course of a load, from one poll to the next.

Between two polls a load takes up a candidate, or tries one name for the candidate that it has taken
up. The moments keep what the load itself forgets: how each candidate was made, and every call that
was made to store it.

Owns: moments and turns, and that a load ends as its moments say.
Does not own: what holds at every moment.
-/

namespace ImageImport.Load

variable {κ σ : Type}

/-- A call to store a program, and its answer. -/
structure SaveCall (κ : Type) where
  folder : κ
  name : String
  program : Program
  answer : Except Failure Unit

/-- A candidate that a load is done with. -/
structure Finished (κ : Type) where
  /-- The candidate as the loader made it. -/
  original : Candidate κ
  candidate : Candidate κ
  isKept : Bool
  /-- The calls that were made to store it, in order. -/
  calls : List (SaveCall κ)

def Finished.progressed (finished : Finished κ) : Progressed κ :=
  ⟨finished.candidate, finished.isKept⟩

/-- A labelled candidate that is being stored; the names tried so far were all taken. -/
structure Saving (κ : Type) where
  original : Candidate κ
  candidate : Candidate κ
  folder : κ
  calls : List (SaveCall κ)

/-- A load before a poll, or after its last one. -/
structure Moment (κ σ : Type) where
  finished : List (Finished κ)
  saving : Option (Saving κ)
  waiting : List (Candidate κ)
  surroundings : Surroundings σ

/-- What comes after a moment. -/
inductive Turn (κ σ : Type) where
  | goes (next : Moment κ σ)
  /-- A failure, and the candidates that were not finished, as they stand. -/
  | stops (failure : Failure) (unfinished : List (Candidate κ)) (after : Surroundings σ)
  | ends

/-- A load whose loader has made its candidates. -/
structure Work (κ σ : Type) where
  storage : Storage κ σ
  loader : Loader κ σ
  request : LoadRequest
  extracted : List (Candidate κ)
  /-- What the loader left of the surroundings. -/
  opening : Surroundings σ

/-- The surroundings with one more candidate counted. -/
def countUp (surroundings : Surroundings σ) : Surroundings σ :=
  { surroundings with monitor := surroundings.monitor.advance 1 }

namespace Work

variable (work : Work κ σ)

/-- The surroundings with the line for the candidate at an index set. -/
def announce (index : Nat) (candidate : Candidate κ) (surroundings : Surroundings σ) :
    Surroundings σ :=
  { surroundings with
    monitor := surroundings.monitor.setMessage
      (progressText candidate.program index work.extracted.length) }

/-- The next candidate is labelled; without a destination it is finished. -/
def takeUp (moment : Moment κ σ) (candidate : Candidate κ) (rest : List (Candidate κ)) :
    Turn κ σ :=
  match Surroundings.checkCancelled.apply moment.surroundings with
  | (.error failure, polled) => .stops failure (candidate :: rest) polled
  | (.ok (), polled) =>
      match (label work.request.options).apply
          (candidate, work.announce moment.finished.length candidate polled) with
      | (.error failure, labelled, after) => .stops failure (labelled :: rest) after
      | (.ok (), labelled, after) =>
          match labelled.destination with
          | none =>
              .goes ⟨moment.finished ++ [⟨candidate, labelled, true, []⟩], none, rest,
                countUp after⟩
          | some folder =>
              .goes ⟨moment.finished, some ⟨candidate, labelled, folder, []⟩, rest, after⟩

/-- The name that is tried next for the candidate at an index. -/
def nextName (index : Nat) (saving : Saving κ) : String :=
  Storage.attemptName (fileName work.loader work.request saving.candidate.program index)
    saving.calls.length

/-- The next call for the candidate at an index, after a poll. -/
def call (index : Nat) (saving : Saving κ) (polled : Surroundings σ) :
    Except Failure Unit × Surroundings σ :=
  (Surroundings.storing (work.storage.createFile saving.folder (work.nextName index saving)
    saving.candidate.program)).apply polled

/-- The next call for the candidate at an index, once it is answered. -/
def record (index : Nat) (saving : Saving κ) (answer : Except Failure Unit) : SaveCall κ :=
  ⟨saving.folder, work.nextName index saving, saving.candidate.program, answer⟩

/-- One more name is tried for the candidate that is being stored. -/
def tryNext (moment : Moment κ σ) (saving : Saving κ) : Turn κ σ :=
  match Surroundings.checkCancelled.apply moment.surroundings with
  | (.error failure, polled) => .stops failure (saving.candidate :: moment.waiting) polled
  | (.ok (), polled) =>
      let (answer, after) := work.call moment.finished.length saving polled
      let calls := saving.calls ++ [work.record moment.finished.length saving answer]
      match Storage.verdict answer with
      | .error failure => .stops failure (saving.candidate :: moment.waiting) after
      | .ok .taken =>
          .goes ⟨moment.finished, some { saving with calls }, moment.waiting, after⟩
      | .ok .stored =>
          .goes ⟨moment.finished ++ [⟨saving.original, saving.candidate, true, calls⟩], none,
            moment.waiting, countUp after⟩
      | .ok (.refused failure) =>
          let messages := (Storage.Attempted.refused failure).messages
            (work.nextName moment.finished.length saving)
          .goes ⟨moment.finished ++ [⟨saving.original,
              letGo work.request.consumer saving.candidate, false, calls⟩], none, moment.waiting,
            countUp { after with log := after.log.addAll messages }⟩

def turn (moment : Moment κ σ) : Turn κ σ :=
  match moment.saving, moment.waiting with
  | some saving, _ => work.tryNext moment saving
  | none, candidate :: rest => work.takeUp moment candidate rest
  | none, [] => .ends

/-- The surroundings once the progress is set to count the candidates. -/
def started : Surroundings σ :=
  { work.opening with
    monitor := work.opening.monitor.setMaximum work.extracted.length.toUInt64 }

def first : Moment κ σ := ⟨[], none, work.extracted, work.started⟩

/-- The moments that the load comes to. -/
inductive Reaches : Moment κ σ → Prop where
  | first : Reaches work.first
  | turn {moment next : Moment κ σ} (reached : Reaches moment)
      (turned : work.turn moment = .goes next) : Reaches next

end Work

/-! ## The same steps in the load -/

/-- What a candidate and its surroundings come to once it is known whether it was stored. -/
def settle (consumer : Consumer) (candidate : Candidate κ) :
    Except Failure Bool × Surroundings σ → Except Failure Bool × Candidate κ × Surroundings σ
  | (.error failure, after) => (.error failure, candidate, after)
  | (.ok isKept, after) =>
      (.ok isKept, if isKept then candidate else letGo consumer candidate, countUp after)

namespace Work

variable (work : Work κ σ)

/-- Stores a labelled candidate, if it has a destination. -/
def save (index : Nat) (labelled : Candidate κ) (surroundings : Surroundings σ) :
    Except Failure Bool × Surroundings σ :=
  match labelled.destination with
  | none => (.ok true, surroundings)
  | some folder =>
      work.storage.saveFrom folder
        (fileName work.loader work.request labelled.program index) labelled.program 0 surroundings

theorem finish_apply (index : Nat) (candidate : Candidate κ) (before : Surroundings σ) :
    (finish work.storage work.loader work.request index work.extracted.length).apply
        (candidate, before) =
      match Surroundings.checkCancelled.apply before with
      | (.error failure, polled) => (.error failure, candidate, polled)
      | (.ok (), polled) =>
          match (label work.request.options).apply
              (candidate, work.announce index candidate polled) with
          | (.error failure, labelled, after) => (.error failure, labelled, after)
          | (.ok (), labelled, after) =>
              settle work.request.consumer labelled (work.save index labelled after) := by
  unfold finish
  rw [Attempt.apply_bind]
  simp only [around, Attempt.apply_of]
  cases Surroundings.checkCancelled.apply before with
  | mk result polled =>
  cases result with
  | error failure => rfl
  | ok _ =>
  simp only [Attempt.apply_bind, Attempt.apply_get, Surroundings.changeMonitor, Attempt.apply_of,
    announce]
  cases (label work.request.options).apply _ with
  | mk result labelled =>
  cases result with
  | error failure => rfl
  | ok _ =>
  obtain ⟨labelled, after⟩ := labelled
  simp only [save]
  cases labelled.destination with
  | none => rfl
  | some folder =>
  simp only [Storage.saveUnderFreeName, Attempt.apply_of, Attempt.apply_bind]
  cases work.storage.saveFrom folder _ _ _ _ with
  | mk result saved =>
  cases result with
  | error failure => rfl
  | ok isKept => cases isKept <;> rfl

/-- The rest of a load, where the candidates so far are done. -/
def resume (finished : List (Finished κ)) (waiting : List (Candidate κ))
    (surroundings : Surroundings σ) :
    Except Failure Unit × List (Progressed κ) × Surroundings σ :=
  let (result, others, last) := finishAll work.storage work.loader work.request
    work.extracted.length finished.length waiting surroundings
  (result, finished.map Finished.progressed ++ others, last)

/-- The rest of a load, where one more candidate is done or has failed. -/
def resumeWith (finished : List (Finished κ)) (original : Candidate κ)
    (waiting : List (Candidate κ)) : Except Failure Bool × Candidate κ × Surroundings σ →
      Except Failure Unit × List (Progressed κ) × Surroundings σ
  | (.error failure, candidate, after) =>
      (.error failure, finished.map Finished.progressed ++
        (candidate :: waiting).map fun other => ⟨other, true⟩, after)
  | (.ok isKept, candidate, after) =>
      work.resume (finished ++ [⟨original, candidate, isKept, []⟩]) waiting after

/-- What the candidates come to from a moment on. -/
def conclude (moment : Moment κ σ) :
    Except Failure Unit × List (Progressed κ) × Surroundings σ :=
  match moment.saving with
  | none => work.resume moment.finished moment.waiting moment.surroundings
  | some saving =>
      work.resumeWith moment.finished saving.original moment.waiting
        (settle work.request.consumer saving.candidate
          (work.storage.saveFrom saving.folder
            (fileName work.loader work.request saving.candidate.program moment.finished.length)
            saving.candidate.program saving.calls.length moment.surroundings))

/-- What a turn leaves to be concluded. -/
def concludeTurn (moment : Moment κ σ) : Turn κ σ →
    Except Failure Unit × List (Progressed κ) × Surroundings σ
  | .goes next => work.conclude next
  | .stops failure unfinished after =>
      (.error failure, moment.finished.map Finished.progressed ++
        unfinished.map fun other => ⟨other, true⟩, after)
  | .ends => (.ok (), moment.finished.map Finished.progressed, moment.surroundings)

theorem resume_nil (finished : List (Finished κ)) (surroundings : Surroundings σ) :
    work.resume finished [] surroundings =
      (.ok (), finished.map Finished.progressed, surroundings) := by
  simp [resume, finishAll]

theorem resume_cons (finished : List (Finished κ)) (candidate : Candidate κ)
    (rest : List (Candidate κ)) (surroundings : Surroundings σ) :
    work.resume finished (candidate :: rest) surroundings =
      work.resumeWith finished candidate rest
        ((finish work.storage work.loader work.request finished.length
          work.extracted.length).apply (candidate, surroundings)) := by
  rw [resume, finishAll]
  cases (finish work.storage work.loader work.request finished.length work.extracted.length).apply
    (candidate, surroundings) with
  | mk result after =>
    cases result with
    | error failure => rfl
    | ok isKept => simp [resumeWith, resume, Finished.progressed]

/-- What is known of the calls so far has no part in how a load goes on. -/
theorem resume_calls (finished : List (Finished κ)) (original candidate : Candidate κ)
    (isKept : Bool) (calls : List (SaveCall κ)) (waiting : List (Candidate κ))
    (surroundings : Surroundings σ) :
    work.resume (finished ++ [⟨original, candidate, isKept, []⟩]) waiting surroundings =
      work.resume (finished ++ [⟨original, candidate, isKept, calls⟩]) waiting surroundings := by
  simp [resume, Finished.progressed]

theorem conclude_takeUp (moment : Moment κ σ) (candidate : Candidate κ)
    (rest : List (Candidate κ)) :
    work.resume moment.finished (candidate :: rest) moment.surroundings =
      work.concludeTurn moment (work.takeUp moment candidate rest) := by
  rw [resume_cons, finish_apply, takeUp]
  cases Surroundings.checkCancelled.apply moment.surroundings with
  | mk result polled =>
  cases result with
  | error failure => rfl
  | ok _ =>
  simp only []
  cases (label work.request.options).apply _ with
  | mk result labelled =>
  obtain ⟨labelled, after⟩ := labelled
  cases result with
  | error failure => rfl
  | ok _ =>
  simp only [save]
  cases labelled.destination with
  | none => rfl
  | some folder => rfl

theorem conclude_tryNext (moment : Moment κ σ) (saving : Saving κ)
    (held : moment.saving = some saving) :
    work.conclude moment = work.concludeTurn moment (work.tryNext moment saving) := by
  rw [conclude, held]
  simp only []
  rw [Storage.saveFrom, Storage.tryName_apply, tryNext]
  cases Surroundings.checkCancelled.apply moment.surroundings with
  | mk result polled =>
  cases result with
  | error failure => rfl
  | ok _ =>
  simp only [call, nextName]
  cases (Surroundings.storing (work.storage.createFile saving.folder _ _)).apply polled with
  | mk answer after =>
  simp only []
  cases Storage.verdict answer with
  | error failure => rfl
  | ok attempted =>
  cases attempted with
  | stored =>
      simp only [Storage.Attempted.messages, Log.addAll_nil, settle, if_true, resumeWith,
        concludeTurn, conclude]
      exact work.resume_calls moment.finished _ _ true _ _ _
  | taken =>
      simp only [Storage.Attempted.messages, Log.addAll_nil, concludeTurn, conclude,
        List.length_append, List.length_singleton]
  | refused failure =>
      simp only [settle, Bool.false_eq_true, if_false, resumeWith, concludeTurn, conclude]
      exact work.resume_calls moment.finished _ _ false _ _ _

/-- A load ends as it does from the next moment on. -/
theorem conclude_turn (moment : Moment κ σ) :
    work.conclude moment = work.concludeTurn moment (work.turn moment) := by
  cases held : moment.saving with
  | some saving => rw [work.conclude_tryNext moment saving held, turn, held]
  | none =>
      rw [conclude, turn, held]
      cases moment.waiting with
      | nil => exact work.resume_nil moment.finished moment.surroundings
      | cons candidate rest => exact work.conclude_takeUp moment candidate rest

variable {work} {moment : Moment κ σ}

/-- A load ends as it does from any moment that it comes to. -/
theorem Reaches.conclude_eq (reached : work.Reaches moment) :
    work.conclude work.first = work.conclude moment := by
  induction reached with
  | first => rfl
  | turn _ turned inductionHypothesis =>
      rw [inductionHypothesis, conclude_turn, turned, concludeTurn]

/-- A load comes to its candidates. -/
structure BegunFrom (work : Work κ σ) (folder : Option κ) (before : Surroundings σ) : Prop where
  isComplete : work.request.spec.isComplete = true
  made : (candidates work.storage work.loader work.request folder).apply before =
    (.ok work.extracted, work.opening)

variable {folder : Option κ} {before : Surroundings σ}

theorem finishAll_first (reached : work.Reaches moment) :
    finishAll work.storage work.loader work.request work.extracted.length 0 work.extracted
      work.started = work.concludeTurn moment (work.turn moment) := by
  rw [← conclude_turn, ← reached.conclude_eq]
  rfl

/-- A load that comes to a failure gives up every claim and returns that failure. -/
theorem BegunFrom.load_of_stops (begun : work.BegunFrom folder before)
    (reached : work.Reaches moment) {failure : Failure} {unfinished : List (Candidate κ)}
    {after : Surroundings σ} (turned : work.turn moment = .stops failure unfinished after) :
    load work.storage work.loader work.request folder before =
      (abort work.request.consumer (moment.finished.map Finished.progressed ++
        unfinished.map fun other => ⟨other, true⟩) failure, after) := by
  have finishes := finishAll_first reached
  rw [turned, concludeTurn] at finishes
  rw [load, if_neg (by simp [begun.isComplete]), begun.made]
  simp only []
  rw [← started, finishes]

/-- A load whose candidates are all finished has the fixups left. -/
theorem BegunFrom.load_of_ends (begun : work.BegunFrom folder before)
    (reached : work.Reaches moment) (turned : work.turn moment = .ends) :
    load work.storage work.loader work.request folder before =
      match (work.loader.fixups work.request.options).apply
          (moment.finished.map Finished.candidate, moment.surroundings) with
      | (result, fixed, after) =>
          let progressed := List.zipWith (fun candidate earlier => ⟨candidate, earlier.isKept⟩)
            fixed moment.finished
          match result with
          | .error failure => (abort work.request.consumer progressed failure, after)
          | .ok () =>
              (⟨.ok ((progressed.filter Progressed.isKept).map Progressed.candidate),
                rejected progressed⟩, after) := by
  have finishes := finishAll_first reached
  rw [turned, concludeTurn] at finishes
  have handed : (moment.finished.map Finished.progressed).map Progressed.candidate =
      moment.finished.map Finished.candidate := by
    rw [List.map_map]
    rfl
  rw [load, if_neg (by simp [begun.isComplete]), begun.made]
  simp only []
  rw [← started, finishes]
  simp only [handed]
  simp only [List.zipWith_map_right]
  rfl

/-- A load of programs that are there beforehand, by a loader that only hands them on. -/
def given (storage : Storage κ σ) (candidates : List (Candidate κ)) (opening : Surroundings σ) :
    Work κ σ where
  storage := storage
  loader :=
    { name := "given", overridesPrimaryName := true
      extract := fun _ _ => pure candidates
      mergeInto := fun _ _ _ => pure false
      fixups := fun _ => pure ()
      defaultOptions := fun _ => []
      validateOptions := fun _ => .ok () }
  request :=
    ⟨.ofBytes [], "image", ⟨.make "target" ⟨"ram", .ram, 16, none⟩, "default", true⟩, [], ⟨1⟩, ""⟩
  extracted := candidates
  opening := opening

theorem given_begun (storage : Storage κ σ) (candidates : List (Candidate κ))
    (opening : Surroundings σ) : (given storage candidates opening).BegunFrom none opening :=
  ⟨rfl, rfl⟩

end Work

end ImageImport.Load
