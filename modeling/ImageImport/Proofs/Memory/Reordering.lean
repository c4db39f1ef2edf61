import ImageImport.Proofs.Memory.Admission

/-!
Contract: blocks that a memory takes in one after another it takes in in every order, and the order
leaves no trace.

Whether all of them are taken in is said of each by itself and of each two of them, so it cannot hang
on which comes first. And a memory of given blocks is a list in strict order, of which there is only
one.

Owns: `Memory.addAll`, `Memory.AdmitsAll`, and the memory that such a run leaves.
Does not own: runs in which a block is refused, which do depend on the order.
-/

namespace ImageImport

namespace MemoryBlock

/-- Blocks of which neither stands in the way of the other. -/
structure Agrees (left right : MemoryBlock) : Prop where
  apart : ¬ left.SharesOffset right
  names : left.name ≠ right.name

theorem Agrees.symm {left right : MemoryBlock} (agrees : left.Agrees right) : right.Agrees left :=
  ⟨fun shared => agrees.apart shared.symm, agrees.names.symm⟩

theorem Before.asymm {left right : MemoryBlock} (before : left.Before right) :
    ¬ right.Before left := by
  rintro (space' | ⟨space', offset'⟩) <;> rcases before with space | ⟨space, offset⟩
  · exact lt_asymm space space'
  · exact lt_irrefl _ (space ▸ space')
  · exact lt_irrefl _ (space' ▸ space)
  · omega

end MemoryBlock

namespace Memory

open MemoryBlock

variable {memory next : Memory} {call : AddressSpace × MemoryBlock}
  {calls reordered : List (AddressSpace × MemoryBlock)}

/-- The memory with the blocks of all calls, or the first failure. -/
def addAll (memory : Memory) (calls : List (AddressSpace × MemoryBlock)) :
    Except Failure Memory :=
  calls.foldlM (fun memory call => memory.add call.1 call.2) memory

theorem addAll_nil (memory : Memory) : memory.addAll [] = .ok memory := rfl

theorem addAll_cons_eq_ok_iff :
    memory.addAll (call :: calls) = .ok next ↔
      ∃ between, memory.add call.1 call.2 = .ok between ∧ between.addAll calls = .ok next := by
  rw [addAll, List.foldlM_cons]
  cases memory.add call.1 call.2 with
  | error failure => exact iff_of_false nofun nofun
  | ok between =>
      constructor
      · exact fun later => ⟨between, rfl, later⟩
      · rintro ⟨_, same, later⟩
        obtain rfl := Except.ok.inj same
        exact later

/-- What a memory takes in one after another, whatever the order. -/
structure AdmitsAll (memory : Memory) (calls : List (AddressSpace × MemoryBlock)) : Prop where
  fits : ∀ call ∈ calls, call.2.FitsInto call.1
  stored : ∀ call ∈ calls, ∀ existing ∈ memory.blocks, existing.Agrees call.2
  pairwise : calls.Pairwise fun left right => left.2.Agrees right.2

theorem AdmitsAll.perm (admitted : memory.AdmitsAll calls) (same : calls.Perm reordered) :
    memory.AdmitsAll reordered := by
  refine ⟨fun call member => admitted.fits call (same.mem_iff.mpr member),
    fun call member => admitted.stored call (same.mem_iff.mpr member), ?_⟩
  exact (same.pairwise_iff fun agrees => agrees.symm).mp admitted.pairwise

/-- The first block is admitted, and the others by the memory that has it. -/
theorem admitsAll_cons_iff {between : Memory}
    (blocks : between.blocks.Perm (call.2 :: memory.blocks)) :
    memory.AdmitsAll (call :: calls) ↔
      memory.Admits call.1 call.2 ∧ between.AdmitsAll calls := by
  constructor
  · rintro ⟨fits, stored, pairwise⟩
    obtain ⟨first, rest⟩ := List.pairwise_cons.mp pairwise
    have agrees := stored call List.mem_cons_self
    refine ⟨⟨fits call List.mem_cons_self, fun existing member => (agrees existing member).apart,
      fun existing member => (agrees existing member).names⟩,
      fun other member => fits other (List.mem_cons_of_mem _ member), ?_, rest⟩
    intro other member existing isStored
    rcases List.mem_cons.mp (blocks.mem_iff.mp isStored) with rfl | earlier
    · exact first other member
    · exact stored other (List.mem_cons_of_mem _ member) existing earlier
  · rintro ⟨admitted, fits, stored, pairwise⟩
    have added : call.2 ∈ between.blocks := blocks.mem_iff.mpr List.mem_cons_self
    have kept {existing : MemoryBlock} (earlier : existing ∈ memory.blocks) :
        existing ∈ between.blocks := blocks.mem_iff.mpr (List.mem_cons_of_mem _ earlier)
    refine ⟨List.forall_mem_cons.mpr ⟨admitted.fits, fits⟩, List.forall_mem_cons.mpr ⟨?_, ?_⟩,
      List.pairwise_cons.mpr ⟨fun other member => stored other member _ added, pairwise⟩⟩
    · exact fun existing member => ⟨admitted.apart existing member, admitted.free existing member⟩
    · exact fun other member existing earlier => stored other member existing (kept earlier)

/-- An insertion adds its block, wherever it puts it. -/
theorem insertBlock_perm (block : MemoryBlock) (blocks : List MemoryBlock) :
    (insertBlock block blocks).Perm (block :: blocks) := by
  obtain ⟨before, after, split, inserted, -⟩ := insertBlock_split block blocks
  rw [inserted, split]
  exact List.perm_middle

/-- Well-formed memories of the same blocks are the same. -/
theorem WellFormed.eq_of_perm {other : Memory} (wellFormed : memory.WellFormed)
    (otherWellFormed : other.WellFormed) (same : memory.blocks.Perm other.blocks) :
    memory = other := by
  have blocks : memory.blocks = other.blocks :=
    List.Perm.eq_of_pairwise (fun _ _ _ _ before after => absurd after before.asymm)
      wellFormed.increasing otherWellFormed.increasing same
  cases memory
  cases other
  exact congrArg Memory.mk blocks

/-- A run succeeds exactly for the blocks that are admitted together, and leaves the one well-formed
memory of all blocks. -/
theorem WellFormed.addAll_eq_ok_iff (wellFormed : memory.WellFormed) :
    memory.addAll calls = .ok next ↔
      memory.AdmitsAll calls ∧ next.WellFormed ∧
        next.blocks.Perm (calls.map Prod.snd ++ memory.blocks) := by
  induction calls generalizing memory with
  | nil =>
      rw [addAll_nil, Except.ok.injEq]
      constructor
      · rintro rfl
        exact ⟨⟨by simp, by simp, .nil⟩, wellFormed, .refl _⟩
      · rintro ⟨-, nextWellFormed, blocks⟩
        exact wellFormed.eq_of_perm nextWellFormed blocks.symm
  | cons call calls inductionHypothesis =>
      let grown : Memory := ⟨Memory.insertBlock call.2 memory.blocks⟩
      have blocksOfGrown : grown.blocks.Perm (call.2 :: memory.blocks) := insertBlock_perm _ _
      have regrouped : (calls.map Prod.snd ++ grown.blocks).Perm
          ((call :: calls).map Prod.snd ++ memory.blocks) :=
        (blocksOfGrown.append_left _).trans List.perm_middle
      rw [addAll_cons_eq_ok_iff, admitsAll_cons_iff blocksOfGrown, ← wellFormed.accepts_iff_admits]
      constructor
      · rintro ⟨between, added, later⟩
        obtain ⟨accepted, rfl⟩ := add_eq_ok_iff.mp added
        obtain ⟨admitted, nextWellFormed, blocks⟩ :=
          (inductionHypothesis (wellFormed.add added)).mp later
        exact ⟨⟨accepted, admitted⟩, nextWellFormed, blocks.trans regrouped⟩
      · rintro ⟨⟨accepted, admitted⟩, nextWellFormed, blocks⟩
        have added := add_eq_ok_iff.mpr ⟨accepted, rfl⟩
        refine ⟨_, added, (inductionHypothesis (wellFormed.add added)).mpr ?_⟩
        exact ⟨admitted, nextWellFormed, blocks.trans regrouped.symm⟩

/-- Blocks that can be added to a memory one after another can be added in every other order, which
leaves the same memory, down to the order of its blocks. -/
theorem addAll_in_any_order (earlier : List (AddressSpace × MemoryBlock))
    {calls reordered : List (AddressSpace × MemoryBlock)} {next : Memory}
    (same : calls.Perm reordered) (added : (afterCalls earlier).addAll calls = .ok next) :
    (afterCalls earlier).addAll reordered = .ok next := by
  have wellFormed := wellFormed_afterCalls earlier
  obtain ⟨admitted, nextWellFormed, blocks⟩ := wellFormed.addAll_eq_ok_iff.mp added
  have sameBlocks : (calls.map Prod.snd ++ (afterCalls earlier).blocks).Perm
      (reordered.map Prod.snd ++ (afterCalls earlier).blocks) :=
    (same.map Prod.snd).append_right _
  exact wellFormed.addAll_eq_ok_iff.mpr
    ⟨admitted.perm same, nextWellFormed, blocks.trans sameBlocks⟩

/-- Blocks of two spaces beside and between stored ones, in the order opposite to that of their
places. -/
theorem blocks_are_added_backwards :
    let ram : AddressSpace := ⟨"ram", .ram, 16, none⟩
    let rom : AddressSpace := ⟨"rom", .ram, 8, none⟩
    let block (name : String) (space : AddressSpace) (offset : UInt64) : MemoryBlock :=
      ⟨name, ⟨space.name, .ram, offset, space.bits, none⟩, 0x10, .all, false, false, .filled 0,
        "target"⟩
    let earlier := [(ram, block "io" ram 0x10)]
    let calls := [(ram, block "low" ram 0), (ram, block "high" ram 0x20),
      (rom, block "boot" rom 0xf0)]
    (afterCalls earlier).addAll calls.reverse = (afterCalls earlier).addAll calls ∧
      ∃ next, (afterCalls earlier).addAll calls = .ok next ∧
        next.blocks.map MemoryBlock.name = ["low", "io", "high", "boot"] := by
  intro ram rom block earlier calls
  have taken : (((afterCalls earlier).addAll calls).toOption.map fun next =>
      next.blocks.map MemoryBlock.name) = some ["low", "io", "high", "boot"] := by decide +kernel
  cases added : (afterCalls earlier).addAll calls with
  | error failure => simp [added, Except.toOption] at taken
  | ok next =>
      refine ⟨addAll_in_any_order earlier (List.reverse_perm calls).symm added, next, rfl, ?_⟩
      simpa [added, Except.toOption] using taken

end Memory

end ImageImport
