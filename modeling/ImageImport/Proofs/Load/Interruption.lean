import ImageImport.Proofs.Load.Accounts
import Mathlib.Data.List.Forall2

/-!
Contract: what is left of a load that fails once its loader has made the candidates.

The load may fail at any poll, at the answer to any call, at a candidate that is already closed, or in
the fixups. By then some candidates are stored, some are let go and some are untouched; the consumer
gives up its claim on each of them. Files stay as they were at the failure.

Owns: the ways to fail, what the guard of a load does, and what a failed load leaves.
-/

namespace ImageImport.Program

theorem close_name (program : Program) : program.close.name = program.name := by
  unfold close
  split
  · rfl
  · cases program.transaction <;> rfl

theorem release_name (program : Program) (consumer : Consumer) :
    (program.release consumer).2.name = program.name := by
  obtain ⟨consumers, released | closed⟩ := program.release_cases consumer
  · rw [released]
  · rw [closed, close_name]

end ImageImport.Program

namespace ImageImport.Load

variable {κ σ φ : Type}

/-! ## What the guard of a failed load does -/

/-- All candidates are let go, those that were not wanted first. -/
theorem abort_dropped_perm (consumer : Consumer) (progressed : List (Progressed κ))
    (failure : Failure) :
    (abort consumer progressed failure).dropped.Perm
      (progressed.map fun each => (each.candidate.program.release consumer).2) := by
  let release := fun each : Progressed κ => { each with candidate := letGo consumer each.candidate }
  let program := fun each : Progressed κ => each.candidate.program
  have split : (((progressed.map release).filter fun each => !each.isKept) ++
      (progressed.map release).filter Progressed.isKept).Perm (progressed.map release) :=
    List.perm_append_comm.trans (List.filter_append_perm _ _)
  have mapped := split.map program
  rw [List.map_append, List.map_map] at mapped
  exact mapped

/-- What a load makes of a candidate that it does not store for good. -/
structure ComesFrom (original candidate : Candidate κ) : Prop where
  name : candidate.program.name = original.program.name
  destination : candidate.destination = original.destination
  owners : candidate.program.consumers ⊆ original.program.consumers

theorem ComesFrom.refl (candidate : Candidate κ) : ComesFrom candidate candidate :=
  ⟨rfl, rfl, List.Subset.refl _⟩

theorem Labelled.comesFrom {original labelled : Candidate κ}
    (labels : Labelled original labelled) : ComesFrom original labelled :=
  ⟨labels.name, labels.destination, labels.consumers ▸ List.Subset.refl _⟩

namespace Work

variable {work : Work κ σ} {moment : Moment κ σ} {index : Nat}

theorem Accounted.stands {finished : Finished κ} (accounted : work.Accounted index finished)
    (wellFormed : finished.original.program.WellFormed) :
    finished.candidate.program.WellFormed ∧
      ComesFrom finished.original finished.candidate := by
  cases accounted with
  | kept labels nowhere => exact ⟨labels.wellFormed wellFormed, labels.comesFrom⟩
  | stored tried => exact ⟨tried.labels.wellFormed wellFormed, tried.labels.comesFrom⟩
  | givenUp tried refusal =>
      have labelled := tried.labels.wellFormed wellFormed
      have comes := tried.labels.comesFrom
      refine ⟨labelled.release work.request.consumer, ?_, comes.destination, ?_⟩
      · rw [letGo, Program.release_name, comes.name]
      · exact List.Subset.trans (labelled.release_consumers_subset _) comes.owners

end Work

/-! ## The candidates at a moment -/

/-- The candidates of a load as they stand, in the order in which they were made. -/
def Moment.candidates (moment : Moment κ σ) : List (Candidate κ) :=
  moment.finished.map Finished.candidate ++
    (moment.saving.toList.map Saving.candidate ++ moment.waiting)

namespace Work

variable {work : Work κ σ} {moment : Moment κ σ}

theorem Sound.finished_stand (sound : work.Sound moment)
    (wellFormed : ∀ candidate ∈ work.extracted, candidate.program.WellFormed) :
    ∀ finished ∈ moment.finished, finished.candidate.program.WellFormed ∧
      ComesFrom finished.original finished.candidate := by
  intro finished member
  obtain ⟨index, found⟩ := List.mem_iff_getElem?.mp member
  refine (sound.accounted index finished found).stands (wellFormed _ ?_)
  rw [← sound.order, List.append_assoc]
  exact List.mem_append_left _ (List.mem_map_of_mem member)

theorem Sound.comesFrom (sound : work.Sound moment)
    (wellFormed : ∀ candidate ∈ work.extracted, candidate.program.WellFormed) :
    List.Forall₂ ComesFrom work.extracted moment.candidates := by
  rw [← sound.order, Moment.candidates, List.append_assoc]
  refine List.rel_append ?_ (List.rel_append ?_ ?_)
  · rw [List.forall₂_map_left_iff, List.forall₂_map_right_iff, List.forall₂_same]
    exact fun finished member => (sound.finished_stand wellFormed finished member).2
  · rw [List.forall₂_map_left_iff, List.forall₂_map_right_iff, List.forall₂_same]
    exact fun saving held => (sound.tried saving (Option.mem_toList.mp held)).labels.comesFrom
  · exact List.forall₂_same.mpr fun candidate _ => .refl candidate

theorem Sound.wellFormed (sound : work.Sound moment)
    (wellFormed : ∀ candidate ∈ work.extracted, candidate.program.WellFormed) :
    ∀ candidate ∈ moment.candidates, candidate.program.WellFormed := by
  intro candidate member
  simp only [Moment.candidates, List.mem_append, List.mem_map] at member
  rcases member with ⟨finished, made, rfl⟩ | ⟨saving, held, rfl⟩ | waits
  · exact (sound.finished_stand wellFormed finished made).1
  · have tried := sound.tried saving (Option.mem_toList.mp held)
    refine tried.labels.wellFormed (wellFormed _ ?_)
    rw [← sound.order]
    exact List.mem_append_left _ (List.mem_append_right _ (List.mem_map_of_mem held))
  · refine wellFormed _ ?_
    rw [← sound.order]
    exact List.mem_append_right _ waits

/-! ## Where a load stops -/

/-- A failing turn leaves the candidates as they were. -/
theorem Fails.unfinished_eq {failure : Failure} {unfinished : List (Candidate κ)}
    {after : Surroundings σ} (fails : work.Fails moment failure unfinished after) :
    moment.finished.map Finished.candidate ++ unfinished = moment.candidates := by
  cases fails with
  | isCancelled cancelled => rfl
  | isClosed idle waits isClosed => rw [Moment.candidates, idle, waits]; rfl
  | answersCancelled held called => rw [Moment.candidates, held]; rfl

/-- A failing turn stores nothing. -/
theorem Fails.files_eq {failure : Failure} {unfinished : List (Candidate κ)}
    {after : Surroundings σ} (fails : work.Fails moment failure unfinished after)
    (view : work.storage.FileView φ) :
    view.files after.store = view.files moment.surroundings.store := by
  cases fails with
  | isCancelled cancelled => rfl
  | isClosed idle waits isClosed => rfl
  | answersCancelled held called => exact view.files_of_error (createFile_of_call called)

/-- The ways for a load to fail: what failed, what is finished by then, the candidates as the load
itself left them and as they stand, and the surroundings that the failing step leaves. -/
inductive Interrupted (work : Work κ σ) (view : work.storage.FileView φ) : Failure →
    List (Finished κ) → List (Candidate κ) → List (Candidate κ) → Surroundings σ → Prop where
  /-- A poll finds the load cancelled, a call is answered so, or a candidate is closed. -/
  | onTheWay {moment : Moment κ σ} {failure : Failure} {unfinished : List (Candidate κ)}
      {after : Surroundings σ} (reached : work.Reaches moment)
      (turned : work.turn moment = .stops failure unfinished after) :
      Interrupted work view failure moment.finished
        (moment.finished.map Finished.candidate ++ unfinished)
        (moment.finished.map Finished.candidate ++ unfinished) after
  /-- The fixups fail. They may do to the programs what programs allow, and store nothing. -/
  | inFixups {moment : Moment κ σ} {failure : Failure} {fixed : List (Candidate κ)}
      {after : Surroundings σ} (reached : work.Reaches moment)
      (turned : work.turn moment = .ends)
      (failed : (work.loader.fixups work.request.options).apply
        (moment.finished.map Finished.candidate, moment.surroundings) =
          (.error failure, fixed, after))
      (inPlace : fixed.length = moment.finished.length)
      (wellFormed : ∀ candidate ∈ fixed, candidate.program.WellFormed)
      (storesNothing : view.files after.store = view.files moment.surroundings.store) :
      Interrupted work view failure moment.finished
        (moment.finished.map Finished.candidate) fixed after

variable {folder : Option κ} {before : Surroundings σ} {view : work.storage.FileView φ}
  {failure : Failure} {finished : List (Finished κ)} {handed standing : List (Candidate κ)}
  {last : Surroundings σ}

/-- What the guard does, told of the candidates as they stand. -/
theorem abort_lets_go (consumer : Consumer) {progressed : List (Progressed κ)}
    (stands : progressed.map Progressed.candidate = standing)
    (wellFormed : ∀ candidate ∈ standing, candidate.program.WellFormed) (failure : Failure) :
    (abort consumer progressed failure).dropped.Perm
        (standing.map fun candidate => (candidate.program.release consumer).2) ∧
      ∀ program ∈ (abort consumer progressed failure).dropped,
        program.isOwnedBy consumer = false := by
  have dropped := abort_dropped_perm consumer progressed failure
  have same : (progressed.map fun each => (each.candidate.program.release consumer).2) =
      standing.map fun candidate => (candidate.program.release consumer).2 := by
    rw [← stands, List.map_map]
    rfl
  rw [same] at dropped
  refine ⟨dropped, fun program member => ?_⟩
  obtain ⟨candidate, stays, rfl⟩ := List.mem_map.mp (dropped.mem_iff.mp member)
  exact (wellFormed candidate stays).not_owned_of_release consumer

theorem Interrupted.wellFormed
    (interrupted : work.Interrupted view failure finished handed standing last)
    (wellFormed : ∀ candidate ∈ work.extracted, candidate.program.WellFormed) :
    ∀ candidate ∈ standing, candidate.program.WellFormed := by
  cases interrupted with
  | @onTheWay moment failure unfinished after reached turned =>
      have fails := work.turn_does moment
      rw [turned] at fails
      rw [fails.unfinished_eq]
      exact reached.sound.wellFormed wellFormed
  | inFixups reached turned failed inPlace wellFormed storesNothing => exact wellFormed

/-- What holds of a load when it fails. -/
theorem Interrupted.sound
    (interrupted : work.Interrupted view failure finished handed standing last)
    (wellFormed : ∀ candidate ∈ work.extracted, candidate.program.WellFormed) :
    List.Forall₂ ComesFrom work.extracted handed ∧ standing.length = handed.length ∧
      view.files last.store = view.files work.opening.store ∪ savedFiles view finished ∧
      finished.map Finished.original <+: work.extracted ∧
      ∀ (index : Nat) (each : Finished κ), finished[index]? = some each →
        work.Accounted index each := by
  cases interrupted with
  | @onTheWay moment failure unfinished after reached turned =>
      have sound := reached.sound
      have fails := work.turn_does moment
      rw [turned] at fails
      refine ⟨?_, rfl, ?_, ?_, sound.accounted⟩
      · rw [fails.unfinished_eq]
        exact sound.comesFrom wellFormed
      · rw [fails.files_eq view, reached.files view]
      · rw [← sound.order, List.append_assoc]
        exact List.prefix_append _ _
  | @inFixups moment failure fixed after reached turned failed inPlace fixedWellFormed
      storesNothing =>
      have sound := reached.sound
      have nothingLeft := work.turn_does moment
      rw [turned] at nothingLeft
      obtain ⟨idle, waits⟩ := nothingLeft
      refine ⟨?_, by simp [inPlace], ?_, ?_, sound.accounted⟩
      · have comes := sound.comesFrom wellFormed
        rw [Moment.candidates, idle, waits] at comes
        simpa using comes
      · rw [storesNothing, reached.files view]
      · rw [← sound.order, List.append_assoc]
        exact List.prefix_append _ _

/-- The load returns the failure, and the surroundings as the failing step left them. -/
theorem Interrupted.load_eq
    (interrupted : work.Interrupted view failure finished handed standing last)
    (begun : work.BegunFrom folder before) :
    ∃ progressed, progressed.map Progressed.candidate = standing ∧
      load work.storage work.loader work.request folder before =
        (abort work.request.consumer progressed failure, last) := by
  cases interrupted with
  | onTheWay reached turned =>
      exact ⟨_, by simp [Function.comp_def, Finished.progressed],
        begun.load_of_stops reached turned⟩
  | inFixups reached turned failed inPlace wellFormed storesNothing =>
      refine ⟨_, ?_, by rw [begun.load_of_ends reached turned, failed]⟩
      rw [List.map_zipWith]
      exact List.ext_getElem (by simp [inPlace]) (by simp)

/-- A load that fails once it has its candidates returns that failure and does nothing more, except
that the consumer gives up its claim on every candidate. -/
theorem BegunFrom.load_lets_go_when_it_fails (begun : work.BegunFrom folder before)
    (wellFormed : ∀ candidate ∈ work.extracted, candidate.program.WellFormed)
    (interrupted : work.Interrupted view failure finished handed standing last) :
    ∃ dropped,
      load work.storage work.loader work.request folder before =
        (⟨.error failure, dropped⟩, last) ∧
      dropped.Perm (standing.map fun candidate =>
        (candidate.program.release work.request.consumer).2) ∧
      (∀ program ∈ dropped, program.isOwnedBy work.request.consumer = false) ∧
      (∀ candidate ∈ standing,
        (∀ owner ∈ candidate.program.consumers, owner = work.request.consumer) →
          (candidate.program.release work.request.consumer).2.isClosed = true ∧
          (candidate.program.release work.request.consumer).2.transaction = none) ∧
      List.Forall₂ ComesFrom work.extracted handed ∧ standing.length = handed.length ∧
      view.files last.store = view.files work.opening.store ∪ savedFiles view finished ∧
      finished.map Finished.original <+: work.extracted ∧
      ∀ (index : Nat) (each : Finished κ), finished[index]? = some each →
        work.Accounted index each := by
  obtain ⟨progressed, stands, loaded⟩ := interrupted.load_eq begun
  have standingWellFormed := interrupted.wellFormed wellFormed
  obtain ⟨dropped, released⟩ :=
    abort_lets_go work.request.consumer stands standingWellFormed failure
  refine ⟨_, loaded, dropped, released, fun candidate stays only => ?_,
    interrupted.sound wellFormed⟩
  exact (standingWellFormed candidate stays).closed_of_release only

/-- A load of two programs into memory that is cancelled once the first one is stored. -/
def cutShort : Work MemoryFolder MemoryStore :=
  let program name := Program.make name (.make "target" ⟨"ram", .ram, 16, none⟩) "default" ⟨1⟩
  given MemoryStore.storage
    [⟨program "first", some ⟨"images", "/", []⟩⟩, ⟨program "second", some ⟨"images", "/", []⟩⟩]
    ⟨0, .empty, .make (some 3), .empty⟩

theorem cutShort_lets_go :
    ∃ finished handed standing last dropped,
      cutShort.Interrupted MemoryStore.fileView .cancelled finished handed standing last ∧
      finished.map Finished.isKept = [true] ∧
      load cutShort.storage cutShort.loader cutShort.request none cutShort.opening =
        (⟨.error .cancelled, dropped⟩, last) ∧
      (∀ program ∈ dropped, program.isOwnedBy cutShort.request.consumer = false) ∧
      MemoryStore.files last.store =
        MemoryStore.files .empty ∪ savedFiles MemoryStore.fileView finished := by
  have begun : cutShort.BegunFrom none cutShort.opening := given_begun _ _ _
  have wellFormed : ∀ candidate ∈ cutShort.extracted, candidate.program.WellFormed := by
    intro candidate made
    simp only [cutShort, given, List.mem_cons, List.not_mem_nil, or_false] at made
    rcases made with rfl | rfl <;> exact Program.wellFormed_make _ _ _ _
  have reached : cutShort.Reaches _ := .turn (.turn .first rfl) rfl
  have interrupted : cutShort.Interrupted MemoryStore.fileView .cancelled _ _ _ _ :=
    .onTheWay reached rfl
  obtain ⟨dropped, loaded, -, released, -, -, -, stored, -⟩ :=
    begun.load_lets_go_when_it_fails wellFormed interrupted
  exact ⟨_, _, _, _, dropped, interrupted, rfl, loaded, released, stored⟩

end Work

end ImageImport.Load
