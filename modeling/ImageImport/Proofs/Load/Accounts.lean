import ImageImport.Proofs.Load.Course
import ImageImport.Proofs.Program.Labelling
import ImageImport.Proofs.Program.Ownership
import ImageImport.Proofs.Store.Laws

/-!
Contract: what holds at every moment of a load, whatever the storage answers.

Every candidate is finished, being stored or waiting, in the order in which the loader made them. What
is finished went one of three ways, and what the log has more than at the start is what these ways
leave there.

Owns: what each turn does, and the invariant that every turn keeps.
Does not own: whether a load comes to its end.
-/

namespace ImageImport.Load

variable {κ σ φ : Type}

/-! ## Labelling -/

/-- A labelled candidate beside the one that the loader made. -/
structure Labelled (original labelled : Candidate κ) : Prop where
  wasOpen : original.program.isClosed = false
  isOpen : labelled.program.isClosed = false
  destination : labelled.destination = original.destination
  name : labelled.program.name = original.program.name
  consumers : labelled.program.consumers = original.program.consumers
  eventsEnabled : labelled.program.eventsEnabled = true
  idle : original.program.transaction = none → labelled.program.transaction = none

theorem label_of_isOpen {candidate : Candidate κ} (isOpen : candidate.program.isClosed = false)
    (options : List LoadOption) (surroundings : Surroundings σ) :
    ∃ labelled, (label options).apply (candidate, surroundings) =
      (.ok (), labelled, surroundings) ∧ Labelled candidate labelled := by
  obtain ⟨state, transaction, nextTransaction, deliveries, done, idle⟩ :=
    Program.applyProcessorLabels_of_isOpen isOpen options
  let marked := { candidate.program with state, transaction, nextTransaction, deliveries }
  obtain ⟨heard, opened⟩ := marked.setEventsEnabled_frame true
  refine ⟨{ candidate with program := marked.setEventsEnabled true }, ?_, ?_⟩
  · simp only [label, Attempt.apply_of, done, marked]
  · rw [opened]
    exact ⟨isOpen, isOpen, rfl, rfl, rfl, rfl, idle⟩

theorem label_of_isClosed {candidate : Candidate κ} (isClosed : candidate.program.isClosed = true)
    (options : List LoadOption) (surroundings : Surroundings σ) :
    (label options).apply (candidate, surroundings) =
      (.error (.programClosed candidate.program.name), candidate, surroundings) := by
  simp only [label, Attempt.apply_of, Program.applyProcessorLabels_of_isClosed isClosed]

theorem Labelled.isOwnedBy {original labelled : Candidate κ}
    (labels : Labelled original labelled) (consumer : Consumer) :
    labelled.program.isOwnedBy consumer = original.program.isOwnedBy consumer := by
  rw [Program.isOwnedBy, Program.isOwnedBy, labels.consumers]

theorem Labelled.wellFormed {original labelled : Candidate κ}
    (labels : Labelled original labelled) (wellFormed : original.program.WellFormed) :
    labelled.program.WellFormed := by
  refine ⟨labels.consumers ▸ wellFormed.consumers_nodup, ?_, ?_⟩
  · simp [labels.isOpen]
  · rw [labels.consumers, labels.isOpen, ← labels.wasOpen]
    exact wellFormed.isClosed_of_ownerless

/-! ## What a turn does -/

/-- The surroundings after a poll. -/
def polled (surroundings : Surroundings σ) : Surroundings σ :=
  { surroundings with monitor := surroundings.monitor.poll.2 }

theorem checkCancelled_of_quiet {surroundings : Surroundings σ}
    (quiet : surroundings.monitor.poll.1 = false) :
    Surroundings.checkCancelled.apply surroundings = (.ok (), polled surroundings) := by
  simp only [Surroundings.checkCancelled, Attempt.apply_of, Monitor.check, polled]
  cases poll : surroundings.monitor.poll with
  | mk cancelled monitor =>
      rw [poll] at quiet
      subst quiet
      rfl

theorem checkCancelled_of_cancelled {surroundings : Surroundings σ}
    (cancelled : surroundings.monitor.poll.1 = true) :
    Surroundings.checkCancelled.apply surroundings =
      (.error .cancelled, polled surroundings) := by
  simp only [Surroundings.checkCancelled, Attempt.apply_of, Monitor.check, polled]
  cases poll : surroundings.monitor.poll with
  | mk seen monitor =>
      rw [poll] at cancelled
      subst cancelled
      rfl

namespace Work

variable (work : Work κ σ)

variable {work} in
/-- A call to the storage leaves the log alone. -/
theorem log_of_call {moment : Moment κ σ} {saving : Saving κ} {answer : Except Failure Unit}
    {after : Surroundings σ} (called : work.call moment.finished.length saving
      (polled moment.surroundings) = (answer, after)) :
    after.log = moment.surroundings.log :=
  (congrArg (fun outcome => outcome.2.log) called).symm

/-- How a load goes on. -/
inductive Advances (moment : Moment κ σ) : Moment κ σ → Prop where
  | keeps {candidate labelled : Candidate κ} {rest : List (Candidate κ)}
      (idle : moment.saving = none) (waits : moment.waiting = candidate :: rest)
      (labels : Labelled candidate labelled) (nowhere : candidate.destination = none) :
      Advances moment
        ⟨moment.finished ++ [⟨candidate, labelled, true, []⟩], none, rest,
          countUp (work.announce moment.finished.length candidate (polled moment.surroundings))⟩
  | takesUp {candidate labelled : Candidate κ} {rest : List (Candidate κ)} {folder : κ}
      (idle : moment.saving = none) (waits : moment.waiting = candidate :: rest)
      (labels : Labelled candidate labelled) (somewhere : candidate.destination = some folder) :
      Advances moment
        ⟨moment.finished, some ⟨candidate, labelled, folder, []⟩, rest,
          work.announce moment.finished.length candidate (polled moment.surroundings)⟩
  | findsTaken {saving : Saving κ} {name : String} {after : Surroundings σ}
      (held : moment.saving = some saving)
      (called : work.call moment.finished.length saving (polled moment.surroundings) =
        (.error (.duplicateName name), after)) :
      Advances moment
        ⟨moment.finished, some { saving with calls := saving.calls ++
          [work.record moment.finished.length saving (.error (.duplicateName name))] },
          moment.waiting, after⟩
  | stores {saving : Saving κ} {after : Surroundings σ} (held : moment.saving = some saving)
      (called : work.call moment.finished.length saving (polled moment.surroundings) =
        (.ok (), after)) :
      Advances moment
        ⟨moment.finished ++ [⟨saving.original, saving.candidate, true,
          saving.calls ++ [work.record moment.finished.length saving (.ok ())]⟩], none,
          moment.waiting, countUp after⟩
  | givesUp {saving : Saving κ} {failure : Failure} {after : Surroundings σ}
      (held : moment.saving = some saving)
      (called : work.call moment.finished.length saving (polled moment.surroundings) =
        (.error failure, after))
      (refusal : Storage.verdict (.error failure) = .ok (.refused failure)) :
      Advances moment
        ⟨moment.finished ++ [⟨saving.original, letGo work.request.consumer saving.candidate,
          false, saving.calls ++ [work.record moment.finished.length saving (.error failure)]⟩],
          none, moment.waiting,
          countUp { after with log := after.log.addAll ((Storage.Attempted.refused failure).messages
            (work.nextName moment.finished.length saving)) }⟩

/-- How a load comes to a failure. -/
inductive Fails (moment : Moment κ σ) :
    Failure → List (Candidate κ) → Surroundings σ → Prop where
  | isCancelled (cancelled : moment.surroundings.monitor.poll.1 = true) :
      Fails moment .cancelled
        (moment.saving.toList.map Saving.candidate ++ moment.waiting)
        (polled moment.surroundings)
  | isClosed {candidate : Candidate κ} {rest : List (Candidate κ)}
      (idle : moment.saving = none) (waits : moment.waiting = candidate :: rest)
      (isClosed : candidate.program.isClosed = true) :
      Fails moment (.programClosed candidate.program.name) (candidate :: rest)
        (work.announce moment.finished.length candidate (polled moment.surroundings))
  | answersCancelled {saving : Saving κ} {after : Surroundings σ}
      (held : moment.saving = some saving)
      (called : work.call moment.finished.length saving (polled moment.surroundings) =
        (.error .cancelled, after)) :
      Fails moment .cancelled (saving.candidate :: moment.waiting) after

/-- A turn goes on, comes to a failure, or finds nothing left to do. -/
def Does (moment : Moment κ σ) : Turn κ σ → Prop
  | .goes next => work.Advances moment next
  | .stops failure unfinished after => work.Fails moment failure unfinished after
  | .ends => moment.saving = none ∧ moment.waiting = []

theorem takeUp_does {moment : Moment κ σ} {candidate : Candidate κ} {rest : List (Candidate κ)}
    (idle : moment.saving = none) (waits : moment.waiting = candidate :: rest) :
    work.Does moment (work.takeUp moment candidate rest) := by
  unfold takeUp
  cases cancelled : moment.surroundings.monitor.poll.1 with
  | true =>
      rw [checkCancelled_of_cancelled cancelled]
      have fails : work.Fails moment _ _ _ := .isCancelled cancelled
      rwa [idle, waits] at fails
  | false =>
      rw [checkCancelled_of_quiet cancelled]
      simp only []
      cases isClosed : candidate.program.isClosed with
      | true =>
          rw [label_of_isClosed isClosed]
          exact .isClosed idle waits isClosed
      | false =>
          obtain ⟨labelled, done, labels⟩ := label_of_isOpen isClosed work.request.options
            (work.announce moment.finished.length candidate (polled moment.surroundings))
          rw [done]
          simp only [labels.destination]
          cases destination : candidate.destination with
          | none => exact .keeps idle waits labels destination
          | some folder => exact .takesUp idle waits labels destination

theorem tryNext_does {moment : Moment κ σ} {saving : Saving κ}
    (held : moment.saving = some saving) : work.Does moment (work.tryNext moment saving) := by
  unfold tryNext
  cases cancelled : moment.surroundings.monitor.poll.1 with
  | true =>
      rw [checkCancelled_of_cancelled cancelled]
      have fails : work.Fails moment _ _ _ := .isCancelled cancelled
      rwa [held] at fails
  | false =>
      rw [checkCancelled_of_quiet cancelled]
      simp only []
      cases called : work.call moment.finished.length saving (polled moment.surroundings) with
      | mk answer after =>
      cases answer with
      | ok _ => exact .stores held called
      | error failure =>
      rcases Storage.verdict_error_cases failure with ⟨name, rfl⟩ | rfl | refusal
      · exact .findsTaken held called
      · exact .answersCancelled held called
      · simp only [refusal]
        exact .givesUp held called refusal

theorem turn_does (moment : Moment κ σ) : work.Does moment (work.turn moment) := by
  cases held : moment.saving with
  | some saving =>
      rw [turn, held]
      exact work.tryNext_does held
  | none =>
      cases waits : moment.waiting with
      | nil =>
          rw [turn, held, waits]
          exact ⟨held, waits⟩
      | cons candidate rest =>
          rw [turn, held, waits]
          exact work.takeUp_does held waits

/-! ## What every turn keeps -/

/-- The names tried so far for a labelled candidate, each found taken. -/
structure Tried (index : Nat) (saving : Saving κ) : Prop where
  labels : Labelled saving.original saving.candidate
  destination : saving.original.destination = some saving.folder
  calls : ∀ (number : Nat) (call : SaveCall κ), saving.calls[number]? = some call →
    ∃ name, call = ⟨saving.folder,
      Storage.attemptName (fileName work.loader work.request saving.candidate.program index) number,
      saving.candidate.program, .error (.duplicateName name)⟩

/-- The ways in which the candidate at an index is finished. -/
inductive Accounted (index : Nat) : Finished κ → Prop where
  | kept {original labelled : Candidate κ} (labels : Labelled original labelled)
      (nowhere : original.destination = none) : Accounted index ⟨original, labelled, true, []⟩
  | stored {saving : Saving κ} (tried : work.Tried index saving) :
      Accounted index ⟨saving.original, saving.candidate, true,
        saving.calls ++ [work.record index saving (.ok ())]⟩
  | givenUp {saving : Saving κ} {failure : Failure} (tried : work.Tried index saving)
      (refusal : Storage.verdict (.error failure) = .ok (.refused failure)) :
      Accounted index ⟨saving.original, letGo work.request.consumer saving.candidate, false,
        saving.calls ++ [work.record index saving (.error failure)]⟩

end Work

/-- What a call leaves in the log. -/
def SaveCall.messages (call : SaveCall κ) : List String :=
  match Storage.verdict call.answer with
  | .ok attempted => attempted.messages call.name
  | .error _ => []

/-- What the calls for a candidate leave in the log. -/
def Finished.messages (finished : Finished κ) : List String :=
  finished.calls.flatMap SaveCall.messages

namespace Work

variable (work : Work κ σ)

/-- The invariant of a load. -/
structure Sound (moment : Moment κ σ) : Prop where
  order : moment.finished.map Finished.original ++
    moment.saving.toList.map Saving.original ++ moment.waiting = work.extracted
  accounted : ∀ (index : Nat) (finished : Finished κ), moment.finished[index]? = some finished →
    work.Accounted index finished
  tried : ∀ saving, moment.saving = some saving → work.Tried moment.finished.length saving
  log : moment.surroundings.log.messages =
    work.opening.log.messages ++ moment.finished.flatMap Finished.messages

theorem sound_first : work.Sound work.first where
  order := rfl
  accounted := by simp [first]
  tried := by simp [first]
  log := by simp [first, started]

variable {work} {index : Nat} {saving : Saving κ}

theorem getElem?_concat_cases {α : Type} {list : List α} {number : Nat} {each last : α}
    (found : (list ++ [last])[number]? = some each) :
    list[number]? = some each ∨ number = list.length ∧ each = last := by
  by_cases earlier : number < list.length
  · rw [List.getElem?_append_left earlier] at found
    exact .inl found
  · rw [List.getElem?_append_right (Nat.le_of_not_lt earlier),
      List.getElem?_singleton] at found
    split at found
    · exact .inr ⟨by omega, (Option.some.inj found).symm⟩
    · contradiction

theorem Tried.taken (tried : work.Tried index saving) (name : String) :
    work.Tried index { saving with calls := saving.calls ++
      [work.record index saving (.error (.duplicateName name))] } := by
  refine ⟨tried.labels, tried.destination, fun number call made => ?_⟩
  rcases getElem?_concat_cases made with earlier | ⟨rfl, rfl⟩
  · exact tried.calls number call earlier
  · exact ⟨name, rfl⟩

/-- Only the last call for a candidate is told of, since the names before it were taken. -/
theorem Tried.messages (tried : work.Tried index saving) (original candidate : Candidate κ)
    (isKept : Bool) (last : SaveCall κ) :
    Finished.messages ⟨original, candidate, isKept, saving.calls ++ [last]⟩ = last.messages := by
  have silent : saving.calls.flatMap SaveCall.messages = [] := by
    rw [List.flatMap_eq_nil_iff]
    intro call made
    obtain ⟨number, made⟩ := List.mem_iff_getElem?.mp made
    obtain ⟨name, rfl⟩ := tried.calls number call made
    rfl
  simp [Finished.messages, silent]

/-- One more candidate is finished. -/
theorem Sound.finishes {moment : Moment κ σ} (sound : work.Sound moment) {last : Finished κ}
    {waiting : List (Candidate κ)} {after : Surroundings σ}
    (order : moment.saving.toList.map Saving.original ++ moment.waiting =
      last.original :: waiting)
    (accounted : work.Accounted moment.finished.length last)
    (log : after.log.messages = moment.surroundings.log.messages ++ last.messages) :
    work.Sound ⟨moment.finished ++ [last], none, waiting, after⟩ := by
  refine ⟨?_, ?_, by simp, ?_⟩
  · rw [← sound.order, List.append_assoc _ _ moment.waiting, order]
    simp
  · intro index each found
    rcases getElem?_concat_cases found with earlier | ⟨rfl, rfl⟩
    · exact sound.accounted index each earlier
    · exact accounted
  · rw [log, sound.log]
    simp

theorem Sound.advances {moment next : Moment κ σ} (sound : work.Sound moment)
    (advances : work.Advances moment next) : work.Sound next := by
  cases advances with
  | keeps idle waits labels nowhere =>
      refine sound.finishes ?_ (.kept labels nowhere) ?_
      · rw [idle, waits]
        rfl
      · simp [Finished.messages, countUp, announce, polled]
  | takesUp idle waits labels somewhere =>
      refine ⟨?_, sound.accounted, ?_, ?_⟩
      · rw [← sound.order, idle, waits]
        simp
      · rintro saving ⟨⟩
        exact ⟨labels, somewhere, by simp⟩
      · exact sound.log
  | @findsTaken saving name after held called =>
      refine ⟨?_, sound.accounted, ?_, ?_⟩
      · rw [← sound.order, held]
        rfl
      · rintro _ ⟨⟩
        exact (sound.tried saving held).taken name
      · rw [log_of_call called, sound.log]
  | @stores saving after held called =>
      have tried := sound.tried saving held
      refine sound.finishes ?_ (.stored tried) ?_
      · rw [held]
        rfl
      · rw [tried.messages, countUp, log_of_call called]
        simp [SaveCall.messages, record, Storage.verdict, Storage.Attempted.messages]
  | @givesUp saving failure after held called refusal =>
      have tried := sound.tried saving held
      refine sound.finishes ?_ (.givenUp tried refusal) ?_
      · rw [held]
        rfl
      · rw [tried.messages, countUp, log_of_call called]
        simp [SaveCall.messages, record, refusal, Log.addAll]

/-- The invariant holds at every moment that a load comes to. -/
theorem Reaches.sound {moment : Moment κ σ} (reached : work.Reaches moment) :
    work.Sound moment := by
  induction reached with
  | first => exact work.sound_first
  | @turn moment next _ turned inductionHypothesis =>
      have does := work.turn_does moment
      rw [turned] at does
      exact inductionHypothesis.advances does

end Work

/-! ## What the storage holds -/

/-- The files of the calls that succeeded. -/
def savedFiles {storage : Storage κ σ} (view : storage.FileView φ) (finished : List (Finished κ)) :
    Set φ :=
  {file | ∃ each ∈ finished, ∃ call ∈ each.calls,
    call.answer = .ok () ∧ view.file call.folder call.name call.program = file}

section Files

variable {storage : Storage κ σ} {view : storage.FileView φ} {finished : List (Finished κ)}
  {last : Finished κ}

theorem savedFiles_concat_of_none (none : ∀ call ∈ last.calls, call.answer ≠ .ok ()) :
    savedFiles view (finished ++ [last]) = savedFiles view finished := by
  ext file
  simp only [savedFiles, Set.mem_ofPred_eq, List.mem_append, List.mem_singleton]
  constructor
  · rintro ⟨each, earlier | rfl, call, made, succeeded, same⟩
    · exact ⟨each, earlier, call, made, succeeded, same⟩
    · exact absurd succeeded (none call made)
  · rintro ⟨each, earlier, others⟩
    exact ⟨each, .inl earlier, others⟩

theorem savedFiles_concat_of_last {earlier : List (SaveCall κ)} {stored : SaveCall κ}
    (calls : last.calls = earlier ++ [stored])
    (none : ∀ call ∈ earlier, call.answer ≠ .ok ()) (succeeded : stored.answer = .ok ()) :
    savedFiles view (finished ++ [last]) =
      insert (view.file stored.folder stored.name stored.program) (savedFiles view finished) := by
  ext file
  simp only [savedFiles, Set.mem_ofPred_eq, Set.mem_insert_iff, List.mem_append,
    List.mem_singleton]
  constructor
  · rintro ⟨each, earlierOne | rfl, call, made, answered, same⟩
    · exact .inr ⟨each, earlierOne, call, made, answered, same⟩
    · rw [calls, List.mem_append, List.mem_singleton] at made
      rcases made with before | rfl
      · exact absurd answered (none call before)
      · exact .inl same.symm
  · rintro (rfl | ⟨each, earlierOne, others⟩)
    · exact ⟨last, .inr rfl, stored, by simp [calls], succeeded, rfl⟩
    · exact ⟨each, .inl earlierOne, others⟩

end Files

namespace Work

variable {work : Work κ σ} {index : Nat} {saving : Saving κ} {moment : Moment κ σ}

theorem createFile_of_call {answer : Except Failure Unit} {after : Surroundings σ}
    (called : work.call moment.finished.length saving (polled moment.surroundings) =
      (answer, after)) :
    (work.storage.createFile saving.folder (work.nextName moment.finished.length saving)
        saving.candidate.program).apply
        ((polled moment.surroundings).monitor, moment.surroundings.store) =
      (answer, after.monitor, after.store) := by
  obtain ⟨rfl, rfl⟩ := Prod.mk.inj called
  rfl

theorem Tried.unanswered (tried : work.Tried index saving) :
    ∀ call ∈ saving.calls, call.answer ≠ .ok () := by
  intro call made
  obtain ⟨number, made⟩ := List.mem_iff_getElem?.mp made
  obtain ⟨name, rfl⟩ := tried.calls number call made
  simp

theorem Tried.unanswered_concat (tried : work.Tried index saving) (failure : Failure) :
    ∀ call ∈ saving.calls ++ [work.record index saving (.error failure)],
      call.answer ≠ .ok () := by
  intro call made
  rw [List.mem_append, List.mem_singleton] at made
  rcases made with earlier | rfl
  · exact tried.unanswered call earlier
  · simp [record]

/-- The files at a moment are those of the start, and those of the calls that succeeded. -/
theorem Reaches.files (reached : work.Reaches moment) (view : work.storage.FileView φ) :
    view.files moment.surroundings.store =
      view.files work.opening.store ∪ savedFiles view moment.finished := by
  induction reached with
  | first => simp [Work.first, started, savedFiles]
  | @turn moment next reached turned inductionHypothesis =>
      have does := work.turn_does moment
      rw [turned] at does
      cases does with
      | keeps idle waits labels nowhere =>
          rw [savedFiles_concat_of_none (by simp), ← inductionHypothesis]
          rfl
      | takesUp idle waits labels somewhere =>
          rw [← inductionHypothesis]
          rfl
      | findsTaken held called =>
          rw [view.files_of_error (createFile_of_call called), inductionHypothesis]
      | stores held called =>
          have tried := reached.sound.tried _ held
          rw [countUp, view.files_of_ok (createFile_of_call called), inductionHypothesis,
            savedFiles_concat_of_last rfl tried.unanswered rfl, Set.union_insert]
          rfl
      | givesUp held called refusal =>
          have tried := reached.sound.tried _ held
          rw [countUp, view.files_of_error (createFile_of_call called), inductionHypothesis,
            savedFiles_concat_of_none (tried.unanswered_concat _)]

end Work

end ImageImport.Load
