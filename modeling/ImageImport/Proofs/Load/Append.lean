import ImageImport.Proofs.Load.BlockName
import ImageImport.Proofs.Load.Merge
import ImageImport.Proofs.Memory.Append
import ImageImport.Proofs.Program.Invariant

/-!
Contract: images without a format that are merged into a program one after another.

Each image that fits comes right behind everything in the default space, under a name of its own;
one that does not fit changes nothing. So the images that were merged stand in the space as one, in
order, behind what was there before.

Owns: where an image is put, when it fits, and the program after any number of merges.
Does not own: images that cannot be read.
-/

namespace ImageImport

open Program

/-! ## Sources in memory -/

namespace ByteSource

variable {source : ByteSource}

/-- A source whose reads do not fail, and whose bytes, of which there are some, are counted in 64
bits. -/
structure InMemory (source : ByteSource) : Prop where
  noFault : source.readFault = none
  nonempty : source.bytes ≠ []
  length_lt : source.bytes.length < 2 ^ 64

theorem InMemory.length_pos (inMemory : source.InMemory) : 0 < source.bytes.length :=
  List.length_pos_of_ne_nil inMemory.nonempty

theorem InMemory.size_toNat (inMemory : source.InMemory) :
    source.size.toNat = source.bytes.length :=
  Nat.mod_eq_of_lt inMemory.length_lt

theorem InMemory.size_ne_zero (inMemory : source.InMemory) : source.size ≠ 0 := by
  intro zero
  have empty := inMemory.size_toNat
  rw [zero] at empty
  exact inMemory.nonempty (List.length_eq_zero_iff.mp empty.symm)

theorem InMemory.read_all (inMemory : source.InMemory) :
    source.read 0 source.size = .ok source.bytes := by
  simp [read, inMemory.noFault, checkBounds, inMemory.size_toNat]

end ByteSource

namespace BinaryLoader

/-! ## The place of a new block -/

section Place

variable {memory : Memory} {space : AddressSpace} {source : ByteSource}

/-- The address at the top of a space, where the space has one. -/
def topAddress (memory : Memory) (space : AddressSpace) : Address :=
  ⟨space.name, space.kind, (memory.top space.name).toUInt64, space.bits, none⟩

theorem topAddress_toNat (room : memory.top space.name ≤ space.maxOffset.toNat) :
    (topAddress memory space).offset.toNat = memory.top space.name :=
  Nat.mod_eq_of_lt (room.trans_lt space.maxOffset.toNat_lt)

theorem nextAddress_of_room (wellFormed : memory.WellFormed)
    (room : memory.top space.name ≤ space.maxOffset.toNat) :
    nextAddress memory space = .ok (topAddress memory space) := by
  have reached := wellFormed.reach_maxEndOffset? space.name
  unfold nextAddress
  cases highest : memory.maxEndOffset? space.name with
  | none =>
      rw [highest, Memory.reach] at reached
      have low : (0 : UInt64) ≤ space.maxOffset := UInt64.le_iff_toNat_le.mpr (Nat.zero_le _)
      simp [Address.inSpace, low, topAddress, ← reached]
  | some last =>
      rw [highest, Memory.reach] at reached
      have low : last ≤ space.maxOffset := UInt64.le_iff_toNat_le.mpr (by omega)
      have next : last + 1 = (memory.top space.name).toUInt64 := by
        rw [← reached]
        simp
      have fits : last.toNat + 1 ≤ space.maxOffset.toNat := by omega
      have here : Address.inSpace space last =
          .ok ⟨space.name, space.kind, last, space.bits, none⟩ := if_pos low
      simp only [here, topAddress, ← next]
      exact if_pos fits

theorem nextAddress_of_full (wellFormed : memory.WellFormed)
    (full : space.maxOffset.toNat < memory.top space.name) :
    ∃ reason, nextAddress memory space = .error reason := by
  have reached := wellFormed.reach_maxEndOffset? space.name
  unfold nextAddress
  cases highest : memory.maxEndOffset? space.name with
  | none =>
      rw [highest, Memory.reach] at reached
      omega
  | some last =>
      rw [highest, Memory.reach] at reached
      by_cases low : last ≤ space.maxOffset
      · have noneLeft : ¬ last.toNat + 1 ≤ space.maxOffset.toNat := by omega
        have here : Address.inSpace space last =
            .ok ⟨space.name, space.kind, last, space.bits, none⟩ := if_pos low
        simp only [here]
        exact ⟨_, if_neg noneLeft⟩
      · have beyond : Address.inSpace space last = .error _ := if_neg low
        simp only [beyond]
        exact ⟨_, rfl⟩

/-- Whether a source fits between the top of a space and its end. -/
def Fits (memory : Memory) (space : AddressSpace) (source : ByteSource) : Prop :=
  memory.top space.name + source.bytes.length ≤ space.maxOffset.toNat + 1

/-- The block that a source becomes behind everything in a space. -/
def appendedBlock (memory : Memory) (space : AddressSpace) (source : ByteSource) : MemoryBlock :=
  ⟨uniqueBlockName memory (source.programName "merged"), topAddress memory space, source.size, .all,
    false, false, .bytes source.bytes, source.originText⟩

theorem containsRange_appendedBlock (inMemory : source.InMemory)
    (room : memory.top space.name ≤ space.maxOffset.toNat) :
    space.containsRange (appendedBlock memory space source).start.offset
        (appendedBlock memory space source).length = true ↔ Fits memory space source := by
  have positive := inMemory.length_pos
  have atTop := topAddress_toNat room
  simp only [AddressSpace.containsRange, appendedBlock, atTop, inMemory.size_toNat, Fits,
    decide_eq_true_eq]
  omega

theorem Fits.room (fits : Fits memory space source) (inMemory : source.InMemory) :
    memory.top space.name ≤ space.maxOffset.toNat := by
  have positive := inMemory.length_pos
  unfold Fits at fits
  omega

/-- A source that fits is put in. -/
theorem add_appendedBlock (wellFormed : memory.WellFormed) (inMemory : source.InMemory)
    (fits : Fits memory space source) :
    memory.add space (appendedBlock memory space source) =
      .ok ⟨Memory.insertBlock (appendedBlock memory space source) memory.blocks⟩ := by
  have room := fits.room inMemory
  apply wellFormed.add_of_top_le inMemory.size_ne_zero
  · exact (containsRange_appendedBlock inMemory room).mpr fits
  · intro data held
    obtain rfl := BlockContents.bytes.inj held
    exact inMemory.size_toNat.symm
  · exact (topAddress_toNat room).ge
  · exact uniqueBlockName_free memory _

end Place

/-! ## One merge -/

/-- The program with a source behind everything in a space. -/
def appended (program : Program) (space : AddressSpace) (source : ByteSource) : Program :=
  { program with state := { program.state with
    memory := ⟨Memory.insertBlock (appendedBlock program.memory space source)
      program.memory.blocks⟩ } }

section Merge

variable {κ σ : Type} {config : Config} {source : ByteSource} {spec : LoadSpec}
  {options : List LoadOption} {space : AddressSpace} {program : Program}
  {surroundings : Surroundings σ} {polls : Nat}

theorem declares_of_space? {name : String} (declared : program.space? name = some space) :
    (program.state.spaces.any fun known => known.name == space.name) = true := by
  have member : space ∈ program.state.spaces := List.mem_of_find?_eq_some declared
  exact List.any_eq_true.mpr ⟨space, member, beq_self_eq_true _⟩

theorem addMemoryBlock_of_declared {name : String} (declared : program.space? name = some space)
    (noRefusal : program.refusal? = none) (block : MemoryBlock) :
    program.addMemoryBlock space block =
      match program.memory.add space block with
      | .error failure => .error failure
      | .ok memory =>
          .ok ({ program with state := { program.state with memory } }.noteChange "memory") := by
  have known := declares_of_space? declared
  simp only [addMemoryBlock, noRefusal, known, not_true, false_and, if_false, if_true]
  rfl

theorem addMemoryBlock_of_fits {name : String} (declared : program.space? name = some space)
    (noRefusal : program.refusal? = none) (wellFormed : program.memory.WellFormed)
    (inMemory : source.InMemory) (fits : Fits program.memory space source) :
    program.addMemoryBlock space (appendedBlock program.memory space source) =
      .ok ((appended program space source).noteChange "memory") := by
  have added := add_appendedBlock wellFormed inMemory fits
  rw [addMemoryBlock_of_declared declared noRefusal, added]
  rfl

theorem appendSource_of_fits (declared : program.space? spec.language.defaultSpace = some space)
    (noRefusal : program.refusal? = none) (wellFormed : program.memory.WellFormed)
    (inMemory : source.InMemory) (fits : Fits program.memory space source) :
    appendSource source spec program =
      .ok (true, [], (appended program space source).noteChange "memory") := by
  have added := addMemoryBlock_of_fits declared noRefusal wellFormed inMemory fits
  rw [appendedBlock] at added
  simp only [appendSource, declared, nextAddress_of_room wellFormed (fits.room inMemory),
    sourceBlock, inMemory.read_all, added]

/-- What does not fit is left out, whether there is no address behind the top or not enough of
them. -/
theorem appendSource_of_not_fits
    (declared : program.space? spec.language.defaultSpace = some space)
    (noRefusal : program.refusal? = none) (wellFormed : program.memory.WellFormed)
    (inMemory : source.InMemory) (beyond : ¬ Fits program.memory space source) :
    ∃ message, appendSource source spec program = .ok (false, [message], program) := by
  by_cases room : program.memory.top space.name ≤ space.maxOffset.toNat
  · have outOfRange := Bool.eq_false_iff.mpr
      (mt (containsRange_appendedBlock inMemory room).mp beyond)
    obtain ⟨reason, refused⟩ :=
      @Memory.add_of_not_inRange program.memory (appendedBlock program.memory space source) space
        inMemory.size_ne_zero outOfRange
    rw [appendedBlock] at refused
    refine ⟨(Failure.addressOverflow reason).report, ?_⟩
    simp only [appendSource, declared, nextAddress_of_room wellFormed room, sourceBlock,
      inMemory.read_all, addMemoryBlock_of_declared declared noRefusal, refused]
  · rw [not_le] at room
    obtain ⟨reason, full⟩ := nextAddress_of_full wellFormed room
    refine ⟨"No room left in space '" ++ space.name ++ "'", ?_⟩
    simp only [appendSource, declared, full]

theorem mergeInto_of_lasts (options : List LoadOption)
    (lasts : surroundings.monitor.Lasts (polls + 1)) (inMemory : source.InMemory)
    {merged : Bool} {messages : List String} {changed : Program}
    (decided : appendSource source spec program = .ok (merged, messages, changed)) :
    (mergeInto source spec options).apply (program, surroundings) =
      (.ok merged, changed, { surroundings with
        monitor := surroundings.monitor.check.2
        log := surroundings.log.addAll messages }) := by
  have polled : Surroundings.checkCancelled.apply surroundings =
      (.ok (), { surroundings with monitor := surroundings.monitor.check.2 }) := by
    rw [← lasts.check.1]
    rfl
  have notEmpty : source.isEmpty = false := by
    simpa [ByteSource.isEmpty] using inMemory.size_ne_zero
  simp [mergeInto, polled, notEmpty, decided]

/-- A program that images may be merged into: open and idle, with the space that the spec names. -/
structure Receiving (spec : LoadSpec) (space : AddressSpace) (program : Program) : Prop where
  isOpen : program.isClosed = false
  idle : program.transaction = none
  declared : program.space? spec.language.defaultSpace = some space
  wellFormed : program.memory.WellFormed

theorem Receiving.handedOver_writable (receiving : Receiving spec space program) :
    ((loader κ σ config).handedOver program).refusal? = none := by
  simp [Loader.handedOver, refusal?, receiving.isOpen]

/-- A merge that does what some calls do, and asks for no rollback, is kept if it succeeds. -/
theorem Receiving.loadInto_of_appendSource (receiving : Receiving spec space program)
    (isComplete : spec.isComplete = true) (lasts : surroundings.monitor.Lasts (polls + 1))
    (inMemory : source.InMemory) {merged : Bool} {messages : List String} {worked : Program}
    (decided : appendSource source spec ((loader κ σ config).handedOver program) =
      .ok (merged, messages, worked))
    {calls : List Operation} (isWork : ∀ operation ∈ calls, operation.IsWork)
    (made : (run calls ((loader κ σ config).handedOver program)).2 = worked)
    (balanced : Balanced (run calls ((loader κ σ config).handedOver program)).1)
    (noWish : (run calls ((loader κ σ config).handedOver program)).1.any Performed.asksRollback =
      false) :
    ∃ after,
      (loadInto (loader κ σ config) source spec options).apply (program, surroundings) =
        (.ok merged, Loader.takenBack program worked merged, after) ∧
      after.monitor.Lasts polls := by
  have answered : (loader κ σ config).merge source spec options program surroundings = _ :=
    mergeInto_of_lasts options lasts inMemory decided
  have worksBy : (loader κ σ config).WorksBy source spec options program surroundings calls := by
    refine ⟨?_, isWork, balanced⟩
    rw [Loader.MergesBy, answered, made]
  have outcome := loadInto_of_worksBy isComplete receiving.isOpen receiving.idle worksBy
  rw [answered, noWish, Bool.not_false, Bool.and_true, mergeCommits] at outcome
  exact ⟨_, outcome, lasts.check.2⟩

/-- A source that fits is merged: it becomes one more block, and that is all that becomes of the
state. -/
theorem Receiving.loadInto_of_fits (receiving : Receiving spec space program)
    (isComplete : spec.isComplete = true) (lasts : surroundings.monitor.Lasts (polls + 1))
    (inMemory : source.InMemory) (fits : Fits program.memory space source) :
    ∃ finished after,
      (loadInto (loader κ σ config) source spec options).apply (program, surroundings) =
        (.ok true, finished, after) ∧
      finished.state = (appended program space source).state ∧ finished.isClosed = false ∧
      finished.transaction = none ∧ after.monitor.Lasts polls := by
  let handed := (loader κ σ config).handedOver program
  let call : Operation := .mutate (.addBlock space (appendedBlock handed.memory space source))
  have writable : handed.refusal? = none := receiving.handedOver_writable
  have decided : appendSource source spec handed = _ :=
    appendSource_of_fits receiving.declared writable receiving.wellFormed inMemory fits
  have added : handed.addMemoryBlock space (appendedBlock handed.memory space source) = _ :=
    addMemoryBlock_of_fits receiving.declared writable receiving.wellFormed inMemory fits
  have isWork : ∀ operation ∈ [call], operation.IsWork := by simp [call, Operation.IsWork]
  have made : (run [call] handed).2 = (appended handed space source).noteChange "memory" := by
    show (call.perform handed).2 = _
    simp only [call, Operation.perform, Mutation.perform, Attempt.apply_ofChange, added]
  obtain ⟨after, outcome, lasting⟩ :=
    receiving.loadInto_of_appendSource isComplete lasts inMemory decided isWork made rfl rfl
  exact ⟨_, after, outcome, rfl, receiving.isOpen, rfl, lasting⟩

/-- A source that does not fit leaves the state as it was. -/
theorem Receiving.loadInto_of_not_fits (receiving : Receiving spec space program)
    (isComplete : spec.isComplete = true) (lasts : surroundings.monitor.Lasts (polls + 1))
    (inMemory : source.InMemory) (beyond : ¬ Fits program.memory space source) :
    ∃ finished after,
      (loadInto (loader κ σ config) source spec options).apply (program, surroundings) =
        (.ok false, finished, after) ∧
      finished.state = program.state ∧ finished.isClosed = false ∧
      finished.transaction = none ∧ after.monitor.Lasts polls := by
  obtain ⟨message, refused⟩ :=
    @appendSource_of_not_fits _ _ _ ((loader κ σ config).handedOver program) receiving.declared
      receiving.handedOver_writable receiving.wellFormed inMemory beyond
  have noCalls : ∀ operation ∈ ([] : List Operation), operation.IsWork := by simp
  obtain ⟨after, outcome, lasting⟩ :=
    receiving.loadInto_of_appendSource isComplete lasts inMemory refused noCalls rfl rfl rfl
  exact ⟨_, after, outcome, rfl, receiving.isOpen, rfl, lasting⟩

end Merge

/-! ## Merges one after another -/

/-- A program in whose default space the images merged so far stand from `start` on, with nothing
behind them. -/
structure Holding (spec : LoadSpec) (space : AddressSpace) (start : Nat) (images : List UInt8)
    (program : Program) : Prop extends Receiving spec space program where
  top_eq : program.memory.top space.name = start + images.length
  holds : program.memory.Holds space.name start images

/-- What a merge adds to the images. -/
def taken (source : ByteSource) (result : Except Failure Bool) : List UInt8 :=
  if mergeCommits result then source.bytes else []

/-- The bytes of the sources that were merged, in order. -/
def takenOf (sources : List ByteSource) (results : List (Except Failure Bool)) : List UInt8 :=
  (List.zipWith taken sources results).flatten

/-- Sources loaded into a program one after another, whatever becomes of each. -/
def loadEach {κ σ : Type} (loader : Loader κ σ) (sources : List ByteSource) (spec : LoadSpec)
    (options : List LoadOption) :
    Program × Surroundings σ → List (Except Failure Bool) × Program × Surroundings σ :=
  Attempt.each (sources.map fun source => loadInto loader source spec options)

section Merges

variable {κ σ : Type} {config : Config} {source : ByteSource} {spec : LoadSpec}
  {options : List LoadOption} {space : AddressSpace} {program : Program}
  {surroundings : Surroundings σ} {polls start : Nat} {images : List UInt8}

/-- A source that fits stands behind the images, in one piece with them. -/
theorem Holding.appended (holding : Holding spec space start images program)
    (inMemory : source.InMemory) (fits : Fits program.memory space source) {finished : Program}
    (state : finished.state = (BinaryLoader.appended program space source).state)
    (isOpen : finished.isClosed = false) (idle : finished.transaction = none) :
    Holding spec space start (images ++ source.bytes) finished := by
  let block := appendedBlock program.memory space source
  have atTop : block.start.offset.toNat = program.memory.top space.name :=
    topAddress_toNat (fits.room inMemory)
  have added := add_appendedBlock holding.wellFormed inMemory fits
  have accepted := (Memory.add_eq_ok_iff.mp added).1
  have apart := accepted.apart holding.wellFormed
  have memory : finished.memory = ⟨Memory.insertBlock block program.memory.blocks⟩ :=
    congrArg ProgramState.memory state
  have spaces : finished.state.spaces = program.state.spaces := by
    rw [state]
    rfl
  have declared : finished.space? spec.language.defaultSpace = some space := by
    rw [space?, spaces]
    exact holding.declared
  have wellFormed : finished.memory.WellFormed := by
    rw [memory]
    exact holding.wellFormed.add added
  refine ⟨⟨isOpen, idle, declared, wellFormed⟩, ?_, ?_⟩
  · have raised : finished.memory.top space.name =
        block.start.offset.toNat + source.size.toNat := by
      rw [memory]
      exact Memory.top_insertBlock atTop.ge
    rw [raised, atTop, holding.top_eq, inMemory.size_toNat, List.length_append, Nat.add_assoc]
  · have own := Memory.holds_insertBlock accepted.sound rfl apart
    have place : block.start.offset.toNat = start + images.length :=
      atTop.trans holding.top_eq
    rw [memory]
    apply (holding.holds.insertBlock apart).append
    rw [← place]
    exact own

/-- With the state as it was, the images are as they were. -/
theorem Holding.of_state (holding : Holding spec space start images program) {finished : Program}
    (state : finished.state = program.state) (isOpen : finished.isClosed = false)
    (idle : finished.transaction = none) : Holding spec space start images finished := by
  have memory : finished.memory = program.memory := congrArg ProgramState.memory state
  have declared : finished.space? spec.language.defaultSpace = some space := by
    rw [space?, state]
    exact holding.declared
  refine ⟨⟨isOpen, idle, declared, ?_⟩, ?_, ?_⟩
  · rw [memory]
    exact holding.wellFormed
  · rw [memory]
    exact holding.top_eq
  · rw [memory]
    exact holding.holds

/-- One more merge takes the source in exactly if it fits behind the images. -/
theorem Holding.merge (holding : Holding spec space start images program)
    (isComplete : spec.isComplete = true) (lasts : surroundings.monitor.Lasts (polls + 1))
    (inMemory : source.InMemory) :
    let done := (loadInto (loader κ σ config) source spec options).apply (program, surroundings)
    done.1 = .ok (decide (start + images.length + source.bytes.length ≤
      space.maxOffset.toNat + 1)) ∧
    Holding spec space start (images ++ taken source done.1) done.2.1 ∧
    program.memory.blocks.Sublist done.2.1.memory.blocks ∧
    (done.1 = .ok false → done.2.1.state = program.state) ∧
    done.2.2.monitor.Lasts polls := by
  intro done
  have fits_iff : Fits program.memory space source ↔
      start + images.length + source.bytes.length ≤ space.maxOffset.toNat + 1 := by
    rw [Fits, holding.top_eq]
  by_cases fits : Fits program.memory space source
  · obtain ⟨finished, after, outcome, state, isOpen, idle, lasting⟩ :=
      holding.toReceiving.loadInto_of_fits isComplete lasts inMemory fits
    have result : done = (.ok true, finished, after) := outcome
    have blocks : finished.memory.blocks =
        Memory.insertBlock (appendedBlock program.memory space source) program.memory.blocks :=
      congrArg (fun state => state.memory.blocks) state
    rw [result, decide_eq_true (fits_iff.mp fits)]
    refine ⟨rfl, holding.appended inMemory fits state isOpen idle, ?_, nofun, lasting⟩
    show program.memory.blocks.Sublist finished.memory.blocks
    rw [blocks]
    exact Memory.sublist_insertBlock
  · obtain ⟨finished, after, outcome, state, isOpen, idle, lasting⟩ :=
      holding.toReceiving.loadInto_of_not_fits isComplete lasts inMemory fits
    have result : done = (.ok false, finished, after) := outcome
    have blocks : finished.memory.blocks = program.memory.blocks :=
      congrArg (fun state => state.memory.blocks) state
    rw [result, decide_eq_false (mt fits_iff.mpr fits)]
    refine ⟨rfl, ?_, ?_, fun _ => state, lasting⟩
    · show Holding spec space start (images ++ []) finished
      rw [List.append_nil]
      exact holding.of_state state isOpen idle
    · show program.memory.blocks.Sublist finished.memory.blocks
      rw [blocks]

/-- Merges one after another leave the images of all that succeeded, in order. -/
theorem Holding.loadEach (holding : Holding spec space start images program)
    (isComplete : spec.isComplete = true) {sources : List ByteSource}
    (inMemory : ∀ source ∈ sources, source.InMemory)
    (lasts : surroundings.monitor.Lasts (sources.length + polls)) :
    let merges := loadEach (loader κ σ config) sources spec options (program, surroundings)
    Holding spec space start (images ++ takenOf sources merges.1) merges.2.1 ∧
    merges.2.2.monitor.Lasts polls := by
  induction sources generalizing program surroundings images with
  | nil =>
      rw [List.length_nil, Nat.zero_add] at lasts
      refine ⟨?_, lasts⟩
      show Holding spec space start (images ++ []) program
      rw [List.append_nil]
      exact holding
  | cons source rest inductionHypothesis =>
      rw [List.length_cons, Nat.add_right_comm] at lasts
      obtain ⟨-, first, -, -, lasting⟩ :=
        @Holding.merge κ σ config _ _ options _ _ _ _ _ _ holding isComplete lasts
          (inMemory source (by simp))
      obtain ⟨others, lastingOn⟩ := inductionHypothesis first
        (fun other member => inMemory other (List.mem_cons_of_mem _ member)) lasting
      rw [List.append_assoc] at others
      exact ⟨others, lastingOn⟩

/-- After any number of merges, the images that were merged stand in order behind all that the space
held before, each offset in one block alone, and all names of blocks are different. The next source
is merged exactly if it fits between them and the end of the space; every block stays as it is, and
a source that does not fit changes nothing at all. Before the first merge the memory may be any that
calls can make, `wellFormed_memory_of_run`. -/
theorem merges_append_in_order (isComplete : spec.isComplete = true)
    (isOpen : program.isClosed = false) (idle : program.transaction = none)
    (declared : program.space? spec.language.defaultSpace = some space)
    (wellFormed : program.memory.WellFormed) {sources : List ByteSource}
    (inMemory : ∀ source ∈ sources, source.InMemory)
    (lasts : surroundings.monitor.Lasts (sources.length + 1)) :
    let start := program.memory.top space.name
    let merges := loadEach (loader κ σ config) sources spec options (program, surroundings)
    let images := takenOf sources merges.1
    let last := merges.2.1
    last.memory.Holds space.name start images ∧
    (last.memory.blocks.map MemoryBlock.name).Nodup ∧
    ∀ source : ByteSource, source.InMemory →
      let done := (loadInto (loader κ σ config) source spec options).apply merges.2
      done.1 = .ok (decide (start + images.length + source.bytes.length ≤
        space.maxOffset.toNat + 1)) ∧
      last.memory.blocks.Sublist done.2.1.memory.blocks ∧
      (done.1 = .ok false → done.2.1.state = last.state) := by
  intro start merges images last
  have empty : Holding spec space start [] program :=
    ⟨⟨isOpen, idle, declared, wellFormed⟩, rfl, Memory.holds_nil _ _ _⟩
  obtain ⟨holding, lasting⟩ :=
    @Holding.loadEach κ σ config _ options _ _ _ _ _ _ empty isComplete _ inMemory lasts
  refine ⟨holding.holds, holding.wellFormed.names_nodup, fun source readable => ?_⟩
  obtain ⟨answer, -, kept, unchanged, -⟩ :=
    @Holding.merge κ σ config _ _ options _ _ _ _ _ _ holding isComplete lasting readable
  exact ⟨answer, kept, unchanged⟩

end Merges

/-- Of a space of 256 offsets the last seven are free. An image of three bytes and one of two go
there, past one of six that is too long; then two more bytes fill the space, and three would not
fit. A block of another space has the name that the first image would take. -/
theorem images_fill_the_space :
    let ram : AddressSpace := ⟨"ram", .ram, 8, none⟩
    let io : AddressSpace := ⟨"io", .other, 4, none⟩
    let low : MemoryBlock :=
      ⟨"low", ⟨"ram", .ram, 16, 8, none⟩, 233, .all, false, false, .filled 0, ""⟩
    let ports : MemoryBlock :=
      ⟨"merged", ⟨"io", .other, 3, 4, none⟩, 2, .all, false, false, .uninitialized, ""⟩
    let calls : List Operation :=
      [.start "set up", .mutate (.addBlock ram low), .mutate (.addBlock io ports), .finish 1 true]
    let spec : LoadSpec :=
      ⟨{ Language.make "target" ram with spaces := [ram, io] }, "default", true⟩
    let program := (run calls (make "image" spec.language "default" ⟨1⟩)).2
    let surroundings : Surroundings Unit := ⟨0, .empty, .make (some 4), ()⟩
    let sources : List ByteSource :=
      [.ofBytes [1, 2, 3], .ofBytes [9, 9, 9, 9, 9, 9], .ofBytes [4, 5]]
    let merges := loadEach (loader Unit Unit .default) sources spec [] (program, surroundings)
    let filled := (loadInto (loader Unit Unit .default) (.ofBytes [6, 7]) spec []).apply merges.2
    let refused := (loadInto (loader Unit Unit .default) (.ofBytes [6, 7, 8]) spec []).apply merges.2
    spec.isComplete = true ∧ program.isClosed = false ∧ program.transaction = none ∧
      program.space? spec.language.defaultSpace = some ram ∧ program.memory.WellFormed ∧
      (∀ source ∈ sources, source.InMemory) ∧
      surroundings.monitor.Lasts (sources.length + 1) ∧
      merges.1 = [.ok true, .ok false, .ok true] ∧
      merges.2.1.memory.Holds "ram" 249 [1, 2, 3, 4, 5] ∧
      filled.1 = .ok true ∧ refused.1 = .ok false ∧ refused.2.1.state = merges.2.1.state := by
  intro ram io low ports calls spec program surroundings sources merges filled refused
  have isOpen : program.isClosed = false := by decide +kernel
  have idle : program.transaction = none := by decide +kernel
  have declared : program.space? spec.language.defaultSpace = some ram := by decide +kernel
  have wellFormed : program.memory.WellFormed := wellFormed_memory_of_run _ _ _ _ calls
  have short (bytes : List UInt8) (some : bytes ≠ []) (few : bytes.length < 7) :
      (ByteSource.ofBytes bytes).InMemory := by
    refine ⟨rfl, some, ?_⟩
    show bytes.length < 2 ^ 64
    omega
  have inMemory : ∀ source ∈ sources, source.InMemory := by
    simp only [sources, List.forall_mem_cons, List.not_mem_nil, false_implies, implies_true,
      and_true]
    exact ⟨short _ (by decide) (by decide), short _ (by decide) (by decide),
      short _ (by decide) (by decide)⟩
  have lasts : surroundings.monitor.Lasts (sources.length + 1) :=
    ⟨rfl, by simp [sources, surroundings, Monitor.make]⟩
  have results : merges.1 = [.ok true, .ok false, .ok true] := by decide +kernel
  have placed := @merges_append_in_order Unit Unit .default spec [] ram program surroundings rfl
    isOpen idle declared wellFormed sources inMemory lasts
  extract_lets start images last at placed
  have atStart : start = 249 := by decide +kernel
  have inOrder : images = [1, 2, 3, 4, 5] := by
    show takenOf sources merges.1 = [1, 2, 3, 4, 5]
    rw [results]
    rfl
  obtain ⟨holds, -, following⟩ := placed
  have filling := following (.ofBytes [6, 7]) (short _ (by decide) (by decide))
  have beyond := following (.ofBytes [6, 7, 8]) (short _ (by decide) (by decide))
  rw [atStart, inOrder] at holds filling beyond
  extract_lets at filling beyond
  have isMerged : filled.1 = .ok true := filling.1
  have isRefused : refused.1 = .ok false := beyond.1
  exact ⟨rfl, isOpen, idle, declared, wellFormed, inMemory, lasts, results, holds, isMerged,
    isRefused, beyond.2.2 isRefused⟩

end BinaryLoader

end ImageImport
