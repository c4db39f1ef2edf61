import ImageImport.Proofs.Memory.Append

/-!
Contract: which blocks a memory takes in, and what it says of each of the others.

A memory compares inclusive ends in sixty-four bits. Here the same is said of single offsets, as
unbounded integers: a block is taken in if each of its offsets is one that its space has and that no
stored block covers, if it brings as many bytes as it has offsets, and if its name is free. Blocks
may touch each other, and the last offset of a space may be taken.

Owns: `Memory.Admits`, the failure for every other block, and the order in which these are found.
Does not own: where a block that is taken in is put.
-/

namespace ImageImport

/-- Offsets of any width, from zero bits on, are those below a power of two; sixty-four bits are the
most that count. -/
theorem AddressSpace.maxOffset_succ (space : AddressSpace) :
    space.maxOffset.toNat + 1 = 2 ^ min space.bits.toNat 64 := by
  unfold maxOffset maxOffsetOfBits
  by_cases narrow : space.bits.toNat < 64
  · have below : 2 ^ space.bits.toNat < 2 ^ 64 := Nat.pow_lt_pow_right (by decide) narrow
    have positive : 0 < 2 ^ space.bits.toNat := Nat.two_pow_pos _
    have small : 2 ^ space.bits.toNat - 1 < 2 ^ 64 := by omega
    rw [if_pos narrow, Nat.min_eq_left (Nat.le_of_lt narrow), Nat.pow_eq,
      UInt64.toNat_ofNat_of_lt' small]
    omega
  · rw [if_neg narrow, Nat.min_eq_right (Nat.le_of_not_lt narrow)]
    rfl

namespace MemoryBlock

variable {block : MemoryBlock} {space : AddressSpace}

/-- Each offset of the block is an offset of the space. -/
def LiesIn (block : MemoryBlock) (space : AddressSpace) : Prop :=
  ∀ offset, block.start.offset.toNat ≤ offset → offset < block.stop →
    offset ≤ space.maxOffset.toNat

/-- What a block has to be by itself to be taken into a space. -/
structure FitsInto (block : MemoryBlock) (space : AddressSpace) : Prop where
  nonempty : block.length ≠ 0
  inside : block.LiesIn space
  held_eq : ∀ data, block.contents = .bytes data → data.length = block.length.toNat

/-- All offsets lie in a space if the last one does. -/
theorem liesIn_iff_stop_le (nonempty : block.length ≠ 0) :
    block.LiesIn space ↔ block.stop ≤ space.maxOffset.toNat + 1 := by
  have positive := length_pos nonempty
  unfold LiesIn stop
  constructor
  · intro inside
    have last := inside (block.start.offset.toNat + (block.length.toNat - 1)) (by omega) (by omega)
    omega
  · intro bounded offset low high
    omega

theorem containsRange_iff_liesIn (nonempty : block.length ≠ 0) :
    space.containsRange block.start.offset block.length = true ↔ block.LiesIn space := by
  have positive := length_pos nonempty
  rw [liesIn_iff_stop_le nonempty, stop, AddressSpace.containsRange, decide_eq_true_eq]
  omega

/-- A block that fits into a space has a last offset of sixty-four bits. -/
theorem FitsInto.sound (fits : block.FitsInto space) : block.Sound := by
  have bounded := (liesIn_iff_stop_le fits.nonempty).mp fits.inside
  have largest := space.maxOffset.toNat_lt
  have positive := length_pos fits.nonempty
  rw [stop] at bounded
  exact ⟨fits.nonempty, by omega, fits.held_eq⟩

/-- Blocks of one space share no offset if one of them stops where the other starts, or before. -/
theorem not_sharesOffset_of_beside {left right : MemoryBlock}
    (beside : left.start.space = right.start.space →
      left.stop ≤ right.start.offset.toNat ∨ right.stop ≤ left.start.offset.toNat) :
    ¬ left.SharesOffset right := by
  rintro ⟨space, offset, ⟨onLeft, low, high⟩, onRight, low', high'⟩
  have apart := beside (onLeft.trans onRight.symm)
  simp only [stop] at apart
  omega

end MemoryBlock

namespace Memory

open MemoryBlock

variable {memory : Memory} {space : AddressSpace} {block : MemoryBlock}

/-- What a memory takes in. -/
structure Admits (memory : Memory) (space : AddressSpace) (block : MemoryBlock) : Prop where
  fits : block.FitsInto space
  apart : ∀ existing ∈ memory.blocks, ¬ existing.SharesOffset block
  free : ∀ existing ∈ memory.blocks, existing.name ≠ block.name

/-- What a memory says of a block that it does not take in: the complaint about the first of five
conditions, in this order, that the block does not meet. -/
inductive RefusedFor (memory : Memory) (space : AddressSpace) (block : MemoryBlock) :
    Failure → Prop where
  | empty (isEmpty : block.length = 0) :
      RefusedFor memory space block
        (.addressOverflow ("block '" ++ block.name ++ "' has zero length"))
  | outside (nonempty : block.length ≠ 0) (beyond : ¬ block.LiesIn space) :
      RefusedFor memory space block
        (.addressOverflow ("block '" ++ block.name ++ "' at " ++ block.start.text ++
          " with length " ++ Text.hex block.length.toNat ++ " runs past the end of space '" ++
          space.name ++ "'"))
  | unfilled {data : List UInt8} (nonempty : block.length ≠ 0) (inside : block.LiesIn space)
      (contents : block.contents = .bytes data) (different : data.length ≠ block.length.toNat) :
      RefusedFor memory space block
        (.invalidAddress ("block '" ++ block.name ++ "' holds " ++ Text.decimal data.length ++
          " bytes but declares length " ++ Text.hex block.length.toNat))
  | overlapping {before after : List MemoryBlock} {existing : MemoryBlock}
      (fits : block.FitsInto space) (split : memory.blocks = before ++ existing :: after)
      (first : ∀ other ∈ before, ¬ other.SharesOffset block)
      (shared : existing.SharesOffset block) :
      RefusedFor memory space block
        (.memoryConflict ("block '" ++ block.name ++ "' overlaps existing block '" ++
          existing.name ++ "'"))
  | named (fits : block.FitsInto space)
      (apart : ∀ existing ∈ memory.blocks, ¬ existing.SharesOffset block)
      (taken : ∃ existing ∈ memory.blocks, existing.name = block.name) :
      RefusedFor memory space block
        (.memoryConflict ("a block named '" ++ block.name ++ "' already exists"))

/-- In a well-formed memory, comparing ends finds the blocks that share an offset. -/
theorem WellFormed.overlaps_iff (wellFormed : memory.WellFormed) (fits : block.FitsInto space)
    {existing : MemoryBlock} (member : existing ∈ memory.blocks) :
    existing.overlaps block.start block.length = true ↔ existing.SharesOffset block :=
  MemoryBlock.overlaps_iff (wellFormed.sound existing member) fits.nonempty fits.sound.end_lt

theorem WellFormed.accepts_iff_admits (wellFormed : memory.WellFormed) :
    memory.Accepts space block ↔ memory.Admits space block := by
  constructor
  · intro accepted
    have inside := (containsRange_iff_liesIn accepted.nonempty).mp accepted.in_range
    exact ⟨⟨accepted.nonempty, inside, accepted.held_eq⟩, accepted.apart wellFormed,
      accepted.name_free⟩
  · rintro ⟨fits, apart, free⟩
    have noOverlap : ∀ existing ∈ memory.blocks,
        existing.overlaps block.start block.length = false := fun existing member =>
      Bool.eq_false_iff.mpr fun overlapping =>
        apart existing member ((wellFormed.overlaps_iff fits member).mp overlapping)
    exact ⟨fits.nonempty, (containsRange_iff_liesIn fits.nonempty).mpr fits.inside, fits.held_eq,
      noOverlap, free⟩

/-! ## One check after another -/

/-- A block that fits is placed, and only the other blocks can stand in its way. -/
theorem add_of_fitsInto (fits : block.FitsInto space) :
    memory.add space block = add.place memory block := by
  have inRange := (containsRange_iff_liesIn fits.nonempty).mpr fits.inside
  simp only [add, if_neg fits.nonempty, inRange, not_true, if_false]
  cases contents : block.contents with
  | uninitialized => rfl
  | filled byte => rfl
  | bytes data => simp only [add.heldBytes?, fits.held_eq data contents, ne_eq, not_true, if_false]

/-- What a memory says in refusal is what it has to say. -/
theorem RefusedFor.add_eq (wellFormed : memory.WellFormed) {failure : Failure}
    (refused : memory.RefusedFor space block failure) :
    memory.add space block = .error failure := by
  cases refused with
  | empty isEmpty => rw [add, if_pos isEmpty]
  | outside nonempty beyond =>
      have notInRange := mt (containsRange_iff_liesIn nonempty).mp beyond
      rw [add, if_neg nonempty, if_pos notInRange]
  | unfilled nonempty inside contents different =>
      have inRange := (containsRange_iff_liesIn nonempty).mpr inside
      simp only [add, if_neg nonempty, inRange, not_true, if_false, contents, add.heldBytes?,
        if_pos different]
  | @overlapping before after existing fits split first shared =>
      have overlaps (other : MemoryBlock) (member : other ∈ memory.blocks) :=
        wellFormed.overlaps_iff fits member
      have found : memory.blocks.find? (fun other => other.overlaps block.start block.length) =
          some existing := by
        rw [List.find?_eq_some_iff_append]
        refine ⟨(overlaps existing (by simp [split])).mpr shared, before, after, split, ?_⟩
        intro other member
        have apart := mt (overlaps other (by simp [split, member])).mp (first other member)
        simpa using apart
      rw [add_of_fitsInto fits, add.place, found]
  | named fits apart taken =>
      have missing : memory.blocks.find? (fun other => other.overlaps block.start block.length) =
          none := by
        rw [List.find?_eq_none]
        exact fun other member =>
          mt (wellFormed.overlaps_iff fits member).mp (apart other member)
      have isTaken : (memory.block? block.name).isSome = true := by
        simpa [block?, List.find?_isSome] using taken
      rw [add_of_fitsInto fits, add.place, missing]
      exact if_pos isTaken

/-- What a memory does not take in it refuses. -/
theorem exists_refusedFor (notAdmitted : ¬ memory.Admits space block) :
    ∃ failure, memory.RefusedFor space block failure := by
  by_cases isEmpty : block.length = 0
  · exact ⟨_, .empty isEmpty⟩
  by_cases inside : block.LiesIn space
  swap
  · exact ⟨_, .outside isEmpty inside⟩
  by_cases held : ∀ data, block.contents = .bytes data → data.length = block.length.toNat
  swap
  · push Not at held
    obtain ⟨data, contents, different⟩ := held
    exact ⟨_, .unfilled isEmpty inside contents different⟩
  have fits : block.FitsInto space := ⟨isEmpty, inside, held⟩
  by_cases apart : ∀ existing ∈ memory.blocks, ¬ existing.SharesOffset block
  · have taken : ∃ existing ∈ memory.blocks, existing.name = block.name := by
      by_contra free
      push Not at free
      exact notAdmitted ⟨fits, apart, free⟩
    exact ⟨_, .named fits apart taken⟩
  · -- The first of the blocks that share an offset is the one that is named.
    classical
    let shares (existing : MemoryBlock) : Bool := existing.SharesOffset block
    push Not at apart
    obtain ⟨some, member, shared⟩ := apart
    have isThere : (memory.blocks.find? shares).isSome = true :=
      List.find?_isSome.mpr ⟨some, member, decide_eq_true shared⟩
    obtain ⟨existing, found⟩ := Option.isSome_iff_exists.mp isThere
    obtain ⟨isFirst, before, after, split, others⟩ := List.find?_eq_some_iff_append.mp found
    refine ⟨_, .overlapping fits split (fun other earlier sharesToo => ?_)
      (of_decide_eq_true isFirst)⟩
    have passed := others other earlier
    simp [shares, sharesToo] at passed

/-- A well-formed memory takes in what it admits, and refuses everything else with the complaint
about the first condition that is not met. -/
theorem WellFormed.add_eq_error_iff (wellFormed : memory.WellFormed) {failure : Failure} :
    memory.add space block = .error failure ↔ memory.RefusedFor space block failure := by
  refine ⟨fun refused => ?_, fun refused => refused.add_eq wellFormed⟩
  have notAdmitted : ¬ memory.Admits space block := by
    intro admitted
    have accepted := add_eq_ok_iff.mpr ⟨wellFormed.accepts_iff_admits.mpr admitted, rfl⟩
    rw [refused] at accepted
    contradiction
  obtain ⟨complaint, reason⟩ := exists_refusedFor notAdmitted
  obtain rfl := Except.error.inj (refused.symm.trans (reason.add_eq wellFormed))
  exact reason

/-- After any calls, the next one succeeds exactly for a block that the memory admits, and fails as
`RefusedFor` says for any other. A block with bytes for its offsets and a free name is never refused
for ending at the last offset of its space, or for touching the blocks beside it; and being covered
is the same as being contained. -/
theorem add_takes_exactly_what_is_admitted (calls : List (AddressSpace × MemoryBlock))
    (space : AddressSpace) (block : MemoryBlock) :
    let memory := afterCalls calls
    ((∃ next, memory.add space block = .ok next) ↔ memory.Admits space block) ∧
    (∀ failure, memory.add space block = .error failure ↔
      memory.RefusedFor space block failure) ∧
    (block.length ≠ 0 → block.stop ≤ 2 ^ min space.bits.toNat 64 →
      (∀ data, block.contents = .bytes data → data.length = block.length.toNat) →
      (∀ existing ∈ memory.blocks, existing.start.space = block.start.space →
        existing.stop ≤ block.start.offset.toNat ∨ block.stop ≤ existing.start.offset.toNat) →
      (∀ existing ∈ memory.blocks, existing.name ≠ block.name) →
      ∃ next, memory.add space block = .ok next) ∧
    ∀ existing ∈ memory.blocks, ∀ address : Address,
      existing.contains address = true ↔ existing.Covers address.space address.offset.toNat := by
  intro memory
  have wellFormed : memory.WellFormed := wellFormed_afterCalls calls
  have succeeds_iff : (∃ next, memory.add space block = .ok next) ↔
      memory.Admits space block := by
    rw [← wellFormed.accepts_iff_admits]
    constructor
    · rintro ⟨next, added⟩
      exact (add_eq_ok_iff.mp added).1
    · exact fun accepted => ⟨_, add_eq_ok_iff.mpr ⟨accepted, rfl⟩⟩
  refine ⟨succeeds_iff, fun failure => wellFormed.add_eq_error_iff, ?_,
    fun existing member => (wellFormed.sound existing member).contains_iff⟩
  intro nonempty bounded held beside free
  rw [← space.maxOffset_succ] at bounded
  have fits : block.FitsInto space := ⟨nonempty, (liesIn_iff_stop_le nonempty).mpr bounded, held⟩
  exact succeeds_iff.mpr ⟨fits, fun existing member =>
    not_sharesOffset_of_beside (beside existing member), free⟩

/-- Behind a block that ends in the middle of a space, another may take the rest of it. -/
theorem rest_of_a_space_is_taken_in :
    let ram : AddressSpace := ⟨"ram", .ram, 8, none⟩
    let io : MemoryBlock :=
      ⟨"io", ⟨"ram", .ram, 0x20, 8, none⟩, 0x40, .all, true, false, .uninitialized, "target"⟩
    let rest : MemoryBlock :=
      ⟨"rest", ⟨"ram", .ram, 0x60, 8, none⟩, 0xa0, .all, false, false, .filled 0, "target"⟩
    ∃ next, (afterCalls [(ram, io)]).add ram rest = .ok next := by
  intro ram io rest
  have stored : (afterCalls [(ram, io)]).blocks = [io] := by decide +kernel
  have upToTheEnd : rest.stop ≤ 2 ^ min ram.bits.toNat 64 := by simp [rest, ram, stop]
  have behind : io.stop ≤ rest.start.offset.toNat := by simp [rest, io, stop]
  have noBytes (data : List UInt8) : rest.contents ≠ .bytes data := by simp [rest]
  obtain ⟨-, -, taken, -⟩ := add_takes_exactly_what_is_admitted [(ram, io)] ram rest
  refine taken (by decide) upToTheEnd (fun data contents => absurd contents (noBytes data))
    (fun existing member _ => ?_) fun existing member => ?_
  · rw [stored, List.mem_singleton] at member
    exact .inl (member ▸ behind)
  · rw [stored, List.mem_singleton] at member
    rw [member]
    decide

end Memory

end ImageImport
