import ImageImport.Proofs.Load.Accounts

/-!
Contract: what a load gives when nothing stops it, whatever the storage takes and refuses.

The load keeps the candidates that have no destination and those that were stored. It lets go of the
others and says why. A refusal of one candidate has no part in what becomes of the next.

Owns: what is promised of each candidate, that an undisturbed load ends, and what it then gives.
Does not own: loads that fail.
-/

namespace ImageImport.Load

variable {κ σ : Type}

/-- A candidate as a loader is to make it. -/
structure Ready (consumer : Consumer) (candidate : Candidate κ) : Prop where
  wellFormed : candidate.program.WellFormed
  isOpen : candidate.program.isClosed = false
  owned : candidate.program.isOwnedBy consumer = true
  idle : candidate.program.transaction = none

/-- A loader that makes new programs makes ready candidates. -/
theorem ready_make (name : String) (language : Language) (compiler : String)
    (consumer : Consumer) (destination : Option κ) :
    Ready consumer ⟨.make name language compiler consumer, destination⟩ :=
  ⟨Program.wellFormed_make name language compiler consumer, rfl,
    by simp [Program.isOwnedBy, Program.make], rfl⟩

namespace Work

variable (work : Work κ σ)

/-- Nothing stops a load: no poll finds it cancelled, no call is answered with a cancellation, and
the names that are found taken come to an end. -/
structure Undisturbed : Prop where
  quiet : ∀ moment, work.Reaches moment → work.turn moment ≠ .ends →
    moment.surroundings.monitor.poll.1 = false
  uncancelled : ∀ moment saving, work.Reaches moment → moment.saving = some saving →
    (work.call moment.finished.length saving (polled moment.surroundings)).1 ≠ .error .cancelled
  finite : ∃ bound, ∀ moment saving, work.Reaches moment → moment.saving = some saving →
    saving.calls.length ≤ bound

/-- What is promised of the candidate at an index. -/
structure Promised (index : Nat) (finished : Finished κ) : Prop where
  destination : finished.candidate.destination = finished.original.destination
  isKept_iff : finished.isKept = true ↔ finished.original.destination = none ∨
    ∃ call ∈ finished.calls, call.answer = .ok ()
  /-- A program that is kept can be worked with, and is the one that was stored. -/
  kept : finished.isKept = true →
    finished.candidate.program.isClosed = false ∧
    finished.candidate.program.isOwnedBy work.request.consumer = true ∧
    finished.candidate.program.eventsEnabled = true ∧
    finished.candidate.program.transaction = none ∧
    (∀ call ∈ finished.calls, call.program = finished.candidate.program) ∧
    finished.messages = []
  /-- A program that is not kept is let go, with two messages about the last call for it. -/
  dropped : finished.isKept = false →
    finished.candidate.program.isOwnedBy work.request.consumer = false ∧
    ∃ call failure, finished.calls.getLast? = some call ∧ call.answer = .error failure ∧
      finished.messages = ["Unexpected exception creating file: " ++ call.name, failure.report]
  folder : ∀ call ∈ finished.calls, finished.original.destination = some call.folder
  called : finished.original.destination ≠ none → finished.calls ≠ []
  /-- The first name is the caller's or the program's own; the others are made from it. -/
  names : ∀ (number : Nat) (call : SaveCall κ), finished.calls[number]? = some call →
    call.name = Storage.attemptName
      (if index = 0 ∧ work.loader.overridesPrimaryName then work.request.name
        else finished.original.program.name) number

variable {work} {index : Nat} {saving : Saving κ} {moment : Moment κ σ}

/-! ## What the accounts promise -/

theorem fileName_of_labelled {original labelled : Candidate κ}
    (labels : Labelled original labelled) :
    fileName work.loader work.request labelled.program index =
      if index = 0 ∧ work.loader.overridesPrimaryName then work.request.name
      else original.program.name := by
  rw [fileName, labels.name]

/-- The last call is like those before it. -/
theorem Tried.calls_concat (tried : work.Tried index saving) (answer : Except Failure Unit)
    {number : Nat} {call : SaveCall κ}
    (made : (saving.calls ++ [work.record index saving answer])[number]? = some call) :
    call.folder = saving.folder ∧ call.program = saving.candidate.program ∧
      call.name = Storage.attemptName
        (if index = 0 ∧ work.loader.overridesPrimaryName then work.request.name
          else saving.original.program.name) number := by
  rw [← fileName_of_labelled tried.labels]
  rcases getElem?_concat_cases made with earlier | ⟨rfl, rfl⟩
  · obtain ⟨name, rfl⟩ := tried.calls number call earlier
    exact ⟨rfl, rfl, rfl⟩
  · exact ⟨rfl, rfl, rfl⟩

theorem Tried.of_mem_concat (tried : work.Tried index saving) (answer : Except Failure Unit)
    {call : SaveCall κ} (made : call ∈ saving.calls ++ [work.record index saving answer]) :
    saving.original.destination = some call.folder ∧
      call.program = saving.candidate.program := by
  obtain ⟨number, made⟩ := List.mem_iff_getElem?.mp made
  obtain ⟨folder, program, -⟩ := tried.calls_concat answer made
  exact ⟨folder ▸ tried.destination, program⟩

theorem Accounted.promised {finished : Finished κ} (accounted : work.Accounted index finished)
    (ready : Ready work.request.consumer finished.original) : work.Promised index finished := by
  cases accounted with
  | kept labels nowhere =>
      refine ⟨labels.destination, by simp [nowhere], fun _ => ?_, by simp, by simp, by simp [nowhere],
        by simp⟩
      refine ⟨labels.isOpen, ?_, labels.eventsEnabled, labels.idle ready.idle, by simp, rfl⟩
      rw [labels.isOwnedBy, ready.owned]
  | @stored saving tried =>
      refine ⟨tried.labels.destination, ?_, fun _ => ?_, by simp, ?_, by simp, ?_⟩
      · exact ⟨fun _ => .inr ⟨_, List.mem_append_right _ (List.mem_singleton_self _), rfl⟩,
          fun _ => rfl⟩
      · refine ⟨tried.labels.isOpen, ?_, tried.labels.eventsEnabled,
          tried.labels.idle ready.idle, ?_, ?_⟩
        · rw [tried.labels.isOwnedBy, ready.owned]
        · exact fun call made => (tried.of_mem_concat _ made).2
        · rw [tried.messages]
          rfl
      · exact fun call made => (tried.of_mem_concat _ made).1
      · exact fun number call made => (tried.calls_concat _ made).2.2
  | @givenUp saving failure tried refusal =>
      refine ⟨tried.labels.destination, ?_, by simp, fun _ => ⟨?_, ?_⟩, ?_, by simp, ?_⟩
      · simp only [Bool.false_eq_true, false_iff, not_or, not_exists, not_and]
        exact ⟨by simp [tried.destination], tried.unanswered_concat failure⟩
      · exact (tried.labels.wellFormed ready.wellFormed).not_owned_of_release _
      · refine ⟨_, failure, List.getLast?_concat, rfl, ?_⟩
        rw [tried.messages]
        simp [SaveCall.messages, record, refusal, Storage.Attempted.messages]
      · exact fun call made => (tried.of_mem_concat _ made).1
      · exact fun number call made => (tried.calls_concat _ made).2.2

/-! ## An undisturbed load ends -/

/-- What is left to do, where no more names are found taken than the bound. -/
def left (bound : Nat) (moment : Moment κ σ) : Nat :=
  moment.waiting.length * (bound + 2) +
    moment.saving.elim 0 fun saving => bound + 1 - saving.calls.length

theorem Reaches.left_lt (reached : work.Reaches moment) {next : Moment κ σ}
    (turned : work.turn moment = .goes next) {bound : Nat}
    (few : ∀ moment saving, work.Reaches moment → moment.saving = some saving →
      saving.calls.length ≤ bound) : left bound next < left bound moment := by
  have does := work.turn_does moment
  rw [turned] at does
  cases does with
  | keeps idle waits labels nowhere =>
      simp only [left, idle, waits, List.length_cons, Option.elim_none]
      rw [Nat.succ_mul]
      omega
  | takesUp idle waits labels somewhere =>
      simp only [left, idle, waits, List.length_cons, Option.elim_none, Option.elim_some,
        List.length_nil]
      rw [Nat.succ_mul]
      omega
  | findsTaken held called =>
      have fewer := few _ _ (reached.turn turned) rfl
      simp only [left, held, Option.elim_some, List.length_append, List.length_singleton] at fewer ⊢
      omega
  | stores held called =>
      have fewer := few _ _ reached held
      simp only [left, held, Option.elim_some, Option.elim_none]
      omega
  | givesUp held called refusal =>
      have fewer := few _ _ reached held
      simp only [left, held, Option.elim_some, Option.elim_none]
      omega

/-- Nothing stops a load whose candidates are open, if it is undisturbed. -/
theorem Undisturbed.goes_on (undisturbed : work.Undisturbed)
    (ready : ∀ candidate ∈ work.extracted, Ready work.request.consumer candidate)
    (reached : work.Reaches moment) {failure : Failure} {unfinished : List (Candidate κ)}
    {after : Surroundings σ} : work.turn moment ≠ .stops failure unfinished after := by
  intro turned
  have does := work.turn_does moment
  rw [turned] at does
  cases does with
  | isCancelled cancelled =>
      have quiet := undisturbed.quiet moment reached (by simp [turned])
      rw [cancelled] at quiet
      contradiction
  | @isClosed candidate rest idle waits isClosed =>
      have waiting : candidate ∈ work.extracted := by
        rw [← reached.sound.order, waits]
        simp
      rw [(ready candidate waiting).isOpen] at isClosed
      contradiction
  | answersCancelled held called =>
      exact undisturbed.uncancelled moment _ reached held (congrArg Prod.fst called)

theorem Undisturbed.ends_from (undisturbed : work.Undisturbed)
    (ready : ∀ candidate ∈ work.extracted, Ready work.request.consumer candidate) {bound : Nat}
    (few : ∀ moment saving, work.Reaches moment → moment.saving = some saving →
      saving.calls.length ≤ bound) (moment : Moment κ σ) (reached : work.Reaches moment) :
    ∃ last, work.Reaches last ∧ work.turn last = .ends := by
  cases turned : work.turn moment with
  | goes next => exact undisturbed.ends_from ready few next (reached.turn turned)
  | stops failure unfinished after => exact absurd turned (undisturbed.goes_on ready reached)
  | ends => exact ⟨moment, reached, turned⟩
termination_by left bound moment
decreasing_by exact reached.left_lt turned few

theorem Undisturbed.ends (undisturbed : work.Undisturbed)
    (ready : ∀ candidate ∈ work.extracted, Ready work.request.consumer candidate) :
    ∃ last, work.Reaches last ∧ work.turn last = .ends := by
  obtain ⟨bound, few⟩ := undisturbed.finite
  exact undisturbed.ends_from ready few work.first .first

/-! ## When a load is undisturbed -/

theorem polled_of_quiet {surroundings : Surroundings σ} (quiet : surroundings.monitor.Quiet) :
    polled surroundings = surroundings := by
  rw [polled, quiet.poll_eq]

theorem call_of_steady {rank : σ → Nat} (steady : work.storage.Steady rank)
    {answer : Except Failure Unit} {after : Surroundings σ}
    (called : work.call moment.finished.length saving (polled moment.surroundings) =
      (answer, after)) :
    after.monitor = (polled moment.surroundings).monitor ∧ answer ≠ .error .cancelled ∧
      rank after.store ≤ rank moment.surroundings.store ∧
      ∀ other, answer = .error (.duplicateName other) →
        rank after.store < rank moment.surroundings.store := by
  have created := createFile_of_call called
  obtain ⟨answer', store, made, uncancelled, falls, fallsMore⟩ := steady saving.folder
    (work.nextName moment.finished.length saving) saving.candidate.program
    (polled moment.surroundings).monitor moment.surroundings.store
  rw [created] at made
  obtain ⟨rfl, sameMonitor, rfl⟩ := by simpa using made
  exact ⟨sameMonitor, uncancelled, falls, fallsMore⟩

/-- A steady storage disturbs no monitor, and uses up its rank. -/
theorem Reaches.quiet (reached : work.Reaches moment) {rank : σ → Nat}
    (steady : work.storage.Steady rank) (quiet : work.opening.monitor.Quiet) :
    moment.surroundings.monitor.Quiet ∧
      (moment.saving.elim 0 fun saving => saving.calls.length) +
        rank moment.surroundings.store ≤ rank work.opening.store := by
  induction reached with
  | first => exact ⟨⟨quiet.notCancelled, quiet.noDeadline⟩, by simp [Work.first, started]⟩
  | @turn moment next reached turned inductionHypothesis =>
      obtain ⟨still, used⟩ := inductionHypothesis
      have does := work.turn_does moment
      rw [turned] at does
      cases does with
      | keeps idle waits labels nowhere =>
          rw [polled_of_quiet still]
          exact ⟨⟨still.notCancelled, still.noDeadline⟩, by simpa [idle, countUp, announce] using used⟩
      | takesUp idle waits labels somewhere =>
          rw [polled_of_quiet still]
          exact ⟨⟨still.notCancelled, still.noDeadline⟩, by simpa [idle, countUp, announce] using used⟩
      | findsTaken held called =>
          obtain ⟨sameMonitor, -, -, falls⟩ := call_of_steady steady called
          rw [polled_of_quiet still] at sameMonitor
          have fewer := falls _ rfl
          rw [held] at used
          simp only [Option.elim_some, List.length_append, List.length_singleton] at used ⊢
          exact ⟨sameMonitor ▸ still, by omega⟩
      | stores held called =>
          obtain ⟨sameMonitor, -, falls, -⟩ := call_of_steady steady called
          rw [polled_of_quiet still] at sameMonitor
          simp only [countUp, Option.elim_none]
          exact ⟨⟨sameMonitor ▸ still.notCancelled, sameMonitor ▸ still.noDeadline⟩, by omega⟩
      | givesUp held called refusal =>
          obtain ⟨sameMonitor, -, falls, -⟩ := call_of_steady steady called
          rw [polled_of_quiet still] at sameMonitor
          simp only [countUp, Option.elim_none]
          exact ⟨⟨sameMonitor ▸ still.notCancelled, sameMonitor ▸ still.noDeadline⟩, by omega⟩

/-- So a load with a steady storage and a quiet monitor is undisturbed. -/
theorem undisturbed_of_steady {rank : σ → Nat} (steady : work.storage.Steady rank)
    (quiet : work.opening.monitor.Quiet) : work.Undisturbed := by
  refine ⟨fun moment reached _ => ?_, fun moment saving reached held => ?_, ?_⟩
  · rw [(reached.quiet steady quiet).1.poll_eq]
  · cases called : work.call moment.finished.length saving (polled moment.surroundings) with
    | mk answer after => exact (call_of_steady steady called).2.1
  · refine ⟨rank work.opening.store, fun moment saving reached held => ?_⟩
    have used := (reached.quiet steady quiet).2
    rw [held, Option.elim_some] at used
    omega

/-! ## What a load gives -/

/-- A load that nothing stops keeps what has no destination and what was stored, and lets go of the
rest. -/
theorem BegunFrom.load_keeps_what_is_stored {folder : Option κ} {before : Surroundings σ}
    (begun : work.BegunFrom folder before)
    (ready : ∀ candidate ∈ work.extracted, Ready work.request.consumer candidate)
    (unchanging : ∀ state,
      (work.loader.fixups work.request.options).apply state = (.ok (), state))
    (undisturbed : work.Undisturbed) :
    ∃ last, work.Reaches last ∧
      load work.storage work.loader work.request folder before =
        (⟨.ok ((last.finished.filter Finished.isKept).map Finished.candidate),
          (last.finished.filter fun finished => !finished.isKept).map fun finished =>
            finished.candidate.program⟩, last.surroundings) ∧
      last.finished.map Finished.original = work.extracted ∧
      (∀ (index : Nat) (finished : Finished κ), last.finished[index]? = some finished →
        work.Promised index finished) ∧
      last.surroundings.log.messages =
        work.opening.log.messages ++ last.finished.flatMap Finished.messages ∧
      ∀ (φ : Type) (view : work.storage.FileView φ), view.files last.surroundings.store =
        view.files work.opening.store ∪ savedFiles view last.finished := by
  obtain ⟨last, reached, ended⟩ := undisturbed.ends ready
  have sound := reached.sound
  have nothingLeft := work.turn_does last
  rw [ended] at nothingLeft
  obtain ⟨idle, waits⟩ := nothingLeft
  have order := sound.order
  rw [idle, waits] at order
  simp only [Option.toList_none, List.map_nil, List.append_nil] at order
  refine ⟨last, reached, ?_, order, fun index finished found => ?_, sound.log,
    fun _ view => reached.files view⟩
  · rw [begun.load_of_ends reached ended, unchanging]
    have same : List.zipWith (fun candidate (earlier : Finished κ) =>
        (⟨candidate, earlier.isKept⟩ : Progressed κ))
        (last.finished.map Finished.candidate) last.finished =
          last.finished.map Finished.progressed := by
      rw [List.zipWith_map_left, List.zipWith_self]
      rfl
    simp only [same, rejected, List.filter_map, List.map_map]
    rfl
  · have made : finished.original ∈ work.extracted := by
      rw [← order]
      exact List.mem_map_of_mem (List.mem_of_getElem? found)
    exact (sound.accounted index finished found).promised (ready _ made)

/-- A load of three programs, of which one is refused and the last finds its name taken. -/
def mixed : Work String (List (Option String)) :=
  let program name := Program.make name (.make "target" ⟨"ram", .ram, 16, none⟩) "default" ⟨1⟩
  given .scripted
    [⟨program "loose", none⟩, ⟨program "large", some "images"⟩, ⟨program "small", some "images"⟩]
    ⟨0, .empty, .make none, [some "full", none]⟩

theorem mixed_load_ends :
    (∃ moment, mixed.Reaches moment ∧ mixed.turn moment = .ends ∧
      moment.finished.map (fun finished => (finished.isKept, finished.calls.length)) =
        [(true, 0), (false, 1), (true, 2)]) ∧
    ∃ last, mixed.Reaches last ∧
      (load mixed.storage mixed.loader mixed.request none mixed.opening).1.result =
        .ok ((last.finished.filter Finished.isKept).map Finished.candidate) ∧
      last.finished.map Finished.original = mixed.extracted ∧
      ∀ (index : Nat) (finished : Finished String), last.finished[index]? = some finished →
        mixed.Promised index finished := by
  have begun : mixed.BegunFrom none mixed.opening := given_begun _ _ _
  have ready : ∀ candidate ∈ mixed.extracted, Ready mixed.request.consumer candidate := by
    intro candidate made
    simp only [mixed, given, List.mem_cons, List.not_mem_nil, or_false] at made
    rcases made with rfl | rfl | rfl <;> exact ready_make _ _ _ _ _
  have quiet : mixed.opening.monitor.Quiet := ⟨rfl, rfl⟩
  have undisturbed : mixed.Undisturbed := undisturbed_of_steady Storage.scripted_steady quiet
  obtain ⟨last, reached, loaded, order, promised, -⟩ :=
    begun.load_keeps_what_is_stored ready (fun _ => rfl) undisturbed
  have run : mixed.Reaches _ := .turn (.turn (.turn (.turn (.turn (.turn .first rfl) rfl) rfl) rfl)
    rfl) rfl
  exact ⟨⟨_, run, rfl, rfl⟩, last, reached, by rw [loaded], order, promised⟩

end Work

end ImageImport.Load
