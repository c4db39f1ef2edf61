import ImageImport.Proofs.Memory.Append
import ImageImport.Proofs.Program.Invariant
import ImageImport.Proofs.Program.Placement

/-!
Contract: where the blocks of a program lie, seen from the spaces that it declares.

A block is added along with a space, and it is the range of that space that it has to fit. Nothing
compares it with the space that the program declares under the same name, or with the space that the
start of the block names. So a block is sure to lie in a declared space only if its caller passes
one that agrees with both, which every block made from a definition does.

Owns: what is known of each stored block, and when it lies in a declared space.
Does not own: how blocks lie to each other.
-/

namespace ImageImport.Program

/-- The block lies in a declared space, up to its last byte. -/
def Housed (spaces : List AddressSpace) (block : MemoryBlock) : Prop :=
  ∃ declared, findSpace? spaces block.start.space = some declared ∧
    block.start.offset.toNat + (block.length.toNat - 1) ≤ declared.maxOffset.toNat

/-- The space is the one that the block names, and no wider than the one declared under its name. -/
@[mk_iff]
structure Apt (spaces : List AddressSpace) (space : AddressSpace) (block : MemoryBlock) : Prop where
  same_name : block.start.space = space.name
  no_wider : ∀ declared, findSpace? spaces space.name = some declared →
    space.maxOffset ≤ declared.maxOffset

instance (spaces : List AddressSpace) (block : MemoryBlock) : Decidable (Housed spaces block) :=
  decidable_of_iff ((findSpace? spaces block.start.space).any fun declared =>
      block.start.offset.toNat + (block.length.toNat - 1) ≤ declared.maxOffset.toNat)
    (by simp [Housed, Option.any_eq_true])

instance (spaces : List AddressSpace) (space : AddressSpace) (block : MemoryBlock) :
    Decidable (Apt spaces space block) :=
  decidable_of_iff (block.start.space = space.name ∧
      (findSpace? spaces space.name).all fun declared => space.maxOffset ≤ declared.maxOffset)
    (by simp [apt_iff, Option.all_eq_true])

/-- Under the name of a space that was passed, this one is declared: the same as before the call, or
the passed one itself, an overlay that was new then. -/
def DeclaredFor (before after : List AddressSpace) (space declared : AddressSpace) : Prop :=
  findSpace? after space.name = some declared ∧
    (findSpace? before space.name = some declared ∨
      findSpace? before space.name = none ∧ space.isOverlay = true ∧ declared = space)

/-- A block came in by a call of the run, and fits the space that was passed along with it. -/
def Admitted (start : Program) (operations : List Operation) (spaces : List AddressSpace)
    (block : MemoryBlock) : Prop :=
  ∃ earlier space later declared,
    operations = earlier ++ .mutate (.addBlock space block) :: later ∧
    block.start.offset.toNat + (block.length.toNat - 1) ≤ space.maxOffset.toNat ∧
    DeclaredFor (run earlier start).2.state.spaces spaces space declared

/-! ## One call -/

section

variable {spaces before after : List AddressSpace} {space declared : AddressSpace}
  {block : MemoryBlock}

theorem findSpace?_append_of_found {name : String} (found : findSpace? spaces name = some declared)
    (more : List AddressSpace) : findSpace? (spaces ++ more) name = some declared := by
  unfold findSpace? at found ⊢
  rw [List.find?_append, found, Option.some_or]

theorem findSpace?_append_of_new (missing : findSpace? spaces space.name = none) :
    findSpace? (spaces ++ [space]) space.name = some space := by
  unfold findSpace? at missing ⊢
  rw [List.find?_append, missing, Option.none_or]
  simp

theorem DeclaredFor.append (declares : DeclaredFor before after space declared)
    (more : List AddressSpace) : DeclaredFor before (after ++ more) space declared :=
  ⟨findSpace?_append_of_found declares.1 more, declares.2⟩

theorem Housed.append (housed : Housed spaces block) (more : List AddressSpace) :
    Housed (spaces ++ more) block := by
  obtain ⟨declared, found, fits⟩ := housed
  exact ⟨declared, findSpace?_append_of_found found more, fits⟩

/-- A block that fits an apt space is housed. -/
theorem DeclaredFor.housed (declares : DeclaredFor before after space declared)
    (fits : block.start.offset.toNat + (block.length.toNat - 1) ≤ space.maxOffset.toNat)
    (apt : Apt before space block) : Housed after block := by
  obtain ⟨found, known | ⟨-, -, rfl⟩⟩ := declares
  · have reach := UInt64.le_iff_toNat_le.mp (apt.no_wider declared known)
    exact ⟨declared, by rw [apt.same_name, found], fits.trans reach⟩
  · exact ⟨declared, by rw [apt.same_name, found], fits⟩

/-- A block that is stored after a change was stored before it, or is the one that the change adds.
-/
theorem Mutation.stored_or_added {mutation : Mutation} {state next : ProgramState}
    (changed : mutation.change state = .ok next) (member : block ∈ next.memory.blocks) :
    (block ∈ state.memory.blocks ∧ ∃ more, next.spaces = state.spaces ++ more) ∨
      ∃ space declared, mutation = .addBlock space block ∧
        block.start.offset.toNat + (block.length.toNat - 1) ≤ space.maxOffset.toNat ∧
        DeclaredFor state.spaces next.spaces space declared := by
  rcases mutation.change_memory_cases changed with ⟨sameSpaces, sameMemory⟩ |
    ⟨space, added, rfl, accepted, declares⟩
  · rw [sameMemory] at member
    exact .inl ⟨member, [], by rw [sameSpaces, List.append_nil]⟩
  · obtain ⟨accepts, inserted⟩ := Memory.add_eq_ok_iff.mp accepted
    rw [inserted] at member
    rcases Memory.mem_insertBlock.mp member with rfl | stored
    · have fits : block.start.offset.toNat + (block.length.toNat - 1) ≤ space.maxOffset.toNat := by
        simpa [AddressSpace.containsRange] using accepts.in_range
      rcases declares with ⟨known, sameSpaces⟩ | ⟨isNew, overlay, appended⟩
      · obtain ⟨declared, found⟩ := Option.isSome_iff_exists.mp known
        refine .inr ⟨space, declared, rfl, fits, ?_, .inl found⟩
        rw [sameSpaces, found]
      · refine .inr ⟨space, space, rfl, fits, ?_, .inr ⟨isNew, overlay, rfl⟩⟩
        rw [appended, findSpace?_append_of_new isNew]
    · rcases declares with ⟨-, sameSpaces⟩ | ⟨-, -, appended⟩
      · exact .inl ⟨stored, [], by rw [sameSpaces, List.append_nil]⟩
      · exact .inl ⟨stored, [space], appended⟩

end

/-! ## Blocks that are made from definitions -/

/-- The place of a block that is made from a definition is apt for it. -/
theorem apt_of_placeOf {program : Program} {definition : BlockDefinition} {space : AddressSpace}
    {address : Address} (placed : program.placeOf definition = .ok (space, address)) :
    Apt program.state.spaces space (blockOf definition address) := by
  obtain ⟨spaces, place⟩ := exists_place_of_placeOf placed
  refine ⟨place.space_eq, fun declared found => ?_⟩
  rcases place.known_or_new with ⟨isDeclared, -⟩ | ⟨isNew, -, -⟩
  · obtain rfl := Option.some.inj (isDeclared.symm.trans found)
    exact UInt64.le_refl _
  · exact absurd (isNew.symm.trans found) nofun

/-- A block that is added to a program is added to its state. -/
theorem change_of_addMemoryBlock {program next : Program} {space : AddressSpace}
    {block : MemoryBlock} (added : program.addMemoryBlock space block = .ok next) :
    (Mutation.addBlock space block).change program.state = .ok next.state := by
  cases refused : program.refusal? with
  | some failure => simp [addMemoryBlock, refused] at added
  | none =>
      obtain ⟨isOpen, nest, held⟩ := nested_of_no_refusal refused
      have performed := Mutation.perform_of_nested isOpen held (.addBlock space block)
      simp only [Mutation.perform, Attempt.apply_ofChange, added] at performed
      cases changed : (Mutation.addBlock space block).change program.state with
      | error failure => simp [changed] at performed
      | ok state =>
          simp only [changed, Prod.mk.injEq, true_and] at performed
          rw [performed]

/-- A block that is made from a definition lies in a declared space, and so do all that did before:
outside of these spaces are only blocks that were outside already. -/
theorem createBlock_houses {program next : Program} {definition : BlockDefinition}
    (created : program.createBlock definition = .ok next) :
    ∀ block ∈ next.memory.blocks, Housed next.state.spaces block ∨
      block ∈ program.memory.blocks ∧ ¬ Housed program.state.spaces block := by
  intro block member
  simp only [createBlock, bind, Except.bind] at created
  cases placed : program.placeOf definition with
  | error failure => simp [placed] at created
  | ok place =>
      simp only [placed] at created
      rcases Mutation.stored_or_added (change_of_addMemoryBlock created) member with
        ⟨stored, more, appended⟩ | ⟨space, declared, isBlock, fits, declares⟩
      · rw [appended]
        by_cases housed : Housed program.state.spaces block
        · exact .inl (housed.append more)
        · exact .inr ⟨stored, housed⟩
      · obtain ⟨rfl, rfl⟩ := Mutation.addBlock.inj isBlock
        exact .inl (declares.housed fits (apt_of_placeOf placed))

/-! ## Runs of calls -/

/-- Whatever calls are made on a program without blocks, each stored block came in by one of them.
-/
theorem admitted_of_run {start : Program} (empty : start.state.memory = .empty)
    (idle : start.transaction = none) (operations : List Operation) :
    ∀ block ∈ (run operations start).2.memory.blocks,
      Admitted start operations (run operations start).2.state.spaces block := by
  have keeps : start.Keeps fun state =>
      ∀ block ∈ state.memory.blocks, Admitted start operations state.spaces block :=
    keeps_of_idle (by simp [empty, Memory.empty]) idle
  refine (keeps.run_of_changes operations ?_).current
  intro earlier mutation later state made changed before block member
  rcases Mutation.stored_or_added changed member with
    ⟨stored, more, appended⟩ | ⟨space, declared, rfl, fits, declares⟩
  · obtain ⟨first, space, rest, declared, added, fits, declares⟩ := before block stored
    rw [appended]
    exact ⟨first, space, rest, declared, added, fits, declares.append more⟩
  · exact ⟨earlier, space, later, declared, made, fits, declares⟩

/-- Whatever calls are made on a new program, each stored block came in by one of them and fits the
space that was passed along with it. Where all these spaces are apt, each stored block lies in a
space that the program declares, up to its last byte. A block that is then made from a definition
lies in one whatever spaces were passed before, since its own space is looked up. -/
theorem blocks_housed_of_apt_calls (name : String) (language : Language) (compiler : String)
    (consumer : Consumer) (operations : List Operation) :
    let start := make name language compiler consumer
    let program := (run operations start).2
    (∀ block ∈ program.memory.blocks, Admitted start operations program.state.spaces block) ∧
    ((∀ earlier space block later,
        operations = earlier ++ .mutate (.addBlock space block) :: later →
        Apt (run earlier start).2.state.spaces space block) →
      ∀ block ∈ program.memory.blocks, Housed program.state.spaces block) ∧
    ∀ definition next, program.createBlock definition = .ok next →
      ∀ block ∈ next.memory.blocks, Housed next.state.spaces block ∨
        block ∈ program.memory.blocks ∧ ¬ Housed program.state.spaces block := by
  intro start program
  have admitted := @admitted_of_run start rfl rfl operations
  refine ⟨admitted, fun apt block member => ?_, fun _ _ => createBlock_houses⟩
  obtain ⟨earlier, space, later, declared, made, fits, declares⟩ := admitted block member
  exact declares.housed fits (apt earlier space block later made)

/-- A block of the declared space, one of an overlay that comes with it, and one that is made from a
definition then, in an overlay of its own. -/
theorem block_and_overlay_are_housed :
    let start := make "image" (.make "target" ⟨"ram", .ram, 16, none⟩) "default" ⟨1⟩
    let ram : AddressSpace := ⟨"ram", .ram, 16, none⟩
    let overlay : AddressSpace := ⟨"bank", .overlay, 16, some "ram"⟩
    let first := blockOf ⟨"first", "0xff00", 0x100, .ofFlags true true false, false, true, false⟩
      ⟨"ram", .ram, 0xff00, 16, none⟩
    let second := blockOf ⟨"bank", "0x0", 0x10, .ofFlags true true false, false, true, true⟩
      ⟨"bank", .overlay, 0, 16, none⟩
    let third : BlockDefinition :=
      ⟨"page", "0xfff0", 0x10, .ofFlags true true false, false, true, true⟩
    let calls : List Operation :=
      [.start "outer", .mutate (.addBlock ram first), .mutate (.addBlock overlay second),
        .finish 1 true, .start "further"]
    let program := (run calls start).2
    program.memory.blocks = [second, first] ∧
      (∀ block ∈ program.memory.blocks, Housed program.state.spaces block) ∧
      ∃ next, program.createBlock third = .ok next ∧ next.memory.size = 3 ∧
        ∀ block ∈ next.memory.blocks, Housed next.state.spaces block := by
  intro start ram overlay first second third calls program
  have apt : ∀ earlier space block later,
      calls = earlier ++ .mutate (.addBlock space block) :: later →
      Apt (run earlier start).2.state.spaces space block := by
    rintro (_ | ⟨_, _ | ⟨_, _ | ⟨_, _ | ⟨_, _ | ⟨_, _⟩⟩⟩⟩⟩) space block later made
    all_goals simp only [calls, List.nil_append, List.cons_append, List.cons.injEq,
      Operation.mutate.injEq, Mutation.addBlock.injEq, reduceCtorEq, false_and, and_false] at made
    · obtain ⟨rfl, ⟨rfl, rfl⟩, -⟩ := made
      decide
    · obtain ⟨rfl, rfl, ⟨rfl, rfl⟩, -⟩ := made
      decide
    · simp at made
  obtain ⟨-, housed, adds⟩ := blocks_housed_of_apt_calls _ _ _ _ calls
  have accepted : (program.createBlock third).map (fun next => next.memory.size) = .ok 3 := by
    decide +kernel
  obtain ⟨next, created⟩ : ∃ next, program.createBlock third = .ok next := by
    cases outcome : program.createBlock third with
    | error failure => exact absurd (outcome ▸ accepted) nofun
    | ok next => exact ⟨next, rfl⟩
  rw [created] at accepted
  refine ⟨by decide, housed apt, next, created, Except.ok.inj accepted, fun block member => ?_⟩
  refine (adds third next created block member).resolve_right fun astray => ?_
  exact astray.2 (housed apt block astray.1)

/-- A space of the right name that is wider than the declared one lets a block run off the end, and
a block may lie in a space that is not declared at all. -/
theorem blocks_outside_of_declared_spaces :
    let start := make "image" (.make "target" ⟨"ram", .ram, 16, none⟩) "default" ⟨1⟩
    let wide : AddressSpace := ⟨"ram", .ram, 32, none⟩
    let beyond := blockOf ⟨"beyond", "0x10000", 0x10, .ofFlags true true false, false, true, false⟩
      ⟨"ram", .ram, 0x10000, 32, none⟩
    let astray := blockOf ⟨"astray", "0x0", 0x10, .ofFlags true true false, false, true, false⟩
      ⟨"rom", .ram, 0, 16, none⟩
    let calls : List Operation :=
      [.start "outer", .mutate (.addBlock wide beyond), .mutate (.addBlock wide astray),
        .finish 1 true]
    let program := (run calls start).2
    program.memory.blocks = [beyond, astray] ∧
      program.state.spaces = [⟨"ram", .ram, 16, none⟩] ∧
      ∀ block ∈ program.memory.blocks, ¬ Housed program.state.spaces block := by
  decide

end ImageImport.Program
