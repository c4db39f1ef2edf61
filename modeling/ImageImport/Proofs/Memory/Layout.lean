import Mathlib.Data.String.Basic
import Mathlib.Order.Basic
import ImageImport.Attempt
import ImageImport.Memory

/-!
Contract: the layout that a memory has after any calls of `Memory.add`, accepted or refused.

Offsets are compared as unbounded integers, so that nothing said here depends on sums that wrap
around at 2^64. Placement goes by comparison of keys alone, and the layout is what makes that right:
a block that shares no offset with the others has a key of its own.

Owns: `Memory.WellFormed`, its preservation, and the place at which a new block is put.
Does not own: exactly which blocks are accepted.
-/

namespace ImageImport

namespace MemoryBlock

/-- By space name, then by offset. -/
def Before (left right : MemoryBlock) : Prop :=
  left.start.space < right.start.space ∨
    left.start.space = right.start.space ∧ left.start.offset.toNat < right.start.offset.toNat

/-- Some offset of some space is covered by both. -/
def SharesOffset (left right : MemoryBlock) : Prop :=
  ∃ space offset, left.Covers space offset ∧ right.Covers space offset

/-- What a block has to be by itself to be stored. -/
structure Sound (block : MemoryBlock) : Prop where
  length_ne_zero : block.length ≠ 0
  end_lt : block.start.offset.toNat + (block.length.toNat - 1) < 2 ^ 64
  held_eq : ∀ data, block.contents = .bytes data → data.length = block.length.toNat

theorem precedes_iff (left right : MemoryBlock) :
    left.precedes right = true ↔ left.Before right := by
  simp only [precedes, Before, Bool.or_eq_true, Bool.and_eq_true, beq_iff_eq, decide_eq_true_eq,
    UInt64.lt_iff_toNat_lt]

theorem Before.trans {left middle right : MemoryBlock} (first : left.Before middle)
    (second : middle.Before right) : left.Before right := by
  rcases first with space | ⟨space, offset⟩ <;> rcases second with space' | ⟨space', offset'⟩
  · exact .inl (space.trans space')
  · exact .inl (space' ▸ space)
  · exact .inl (space ▸ space')
  · exact .inr ⟨space.trans space', offset.trans offset'⟩

/-- Of two blocks with different keys, one stands before the other. -/
theorem before_of_not_before {left right : MemoryBlock} (notBefore : ¬ right.Before left)
    (keys : left.start.space = right.start.space →
      left.start.offset.toNat ≠ right.start.offset.toNat) : left.Before right := by
  simp only [Before, not_or, not_and] at notBefore
  rcases lt_trichotomy left.start.space right.start.space with less | equal | greater
  · exact .inl less
  · have atMost := notBefore.2 equal.symm
    have different := keys equal
    exact .inr ⟨equal, by omega⟩
  · exact absurd greater notBefore.1

theorem length_pos {length : UInt64} (nonempty : length ≠ 0) : 0 < length.toNat := by
  have different : length.toNat ≠ (0 : UInt64).toNat := fun equal =>
    nonempty (UInt64.toNat_inj.mp equal)
  exact Nat.pos_of_ne_zero different

/-- A block that is not empty covers its first offset. -/
theorem covers_start {block : MemoryBlock} (nonempty : block.length ≠ 0) :
    block.Covers block.start.space block.start.offset.toNat := by
  have positive := length_pos nonempty
  exact ⟨rfl, le_refl _, by omega⟩

/-- The last offset of a range that is not empty, where it does not wrap around. -/
theorem last_toNat {offset length : UInt64} (nonempty : length ≠ 0)
    (bounded : offset.toNat + (length.toNat - 1) < 2 ^ 64) :
    (offset + (length - 1)).toNat = offset.toNat + (length.toNat - 1) := by
  have one_le : (1 : UInt64) ≤ length := UInt64.le_iff_toNat_le.mpr (length_pos nonempty)
  rw [UInt64.toNat_add, UInt64.toNat_sub_of_le _ _ one_le]
  exact Nat.mod_eq_of_lt bounded

/-- Comparing inclusive ends decides whether two blocks share an offset. -/
theorem overlaps_iff {existing block : MemoryBlock} (stored : existing.Sound)
    (nonempty : block.length ≠ 0)
    (bounded : block.start.offset.toNat + (block.length.toNat - 1) < 2 ^ 64) :
    existing.overlaps block.start block.length = true ↔ existing.SharesOffset block := by
  have endOfExisting := last_toNat stored.length_ne_zero stored.end_lt
  have endOfBlock := last_toNat nonempty bounded
  obtain ⟨-, -, existingCovers⟩ := covers_start stored.length_ne_zero
  obtain ⟨-, -, blockCovers⟩ := covers_start nonempty
  simp only [overlaps, endOffset, Address.sameSpace, Bool.and_eq_true, beq_iff_eq,
    decide_eq_true_eq, UInt64.le_iff_toNat_le, endOfExisting, endOfBlock]
  constructor
  · rintro ⟨⟨space, startsBefore⟩, endsAfter⟩
    refine ⟨existing.start.space,
      max existing.start.offset.toNat block.start.offset.toNat, ?_, ?_⟩
    · exact ⟨rfl, le_max_left _ _, by omega⟩
    · exact ⟨space.symm, le_max_right _ _, by omega⟩
  · rintro ⟨space, offset, ⟨rfl, low, high⟩, space', low', high'⟩
    exact ⟨⟨space'.symm, by omega⟩, by omega⟩

theorem SharesOffset.symm {left right : MemoryBlock} (shared : left.SharesOffset right) :
    right.SharesOffset left := by
  obtain ⟨space, offset, onLeft, onRight⟩ := shared
  exact ⟨space, offset, onRight, onLeft⟩

/-- Blocks that share no offset have different keys. -/
theorem keys_ne_of_not_sharesOffset {left right : MemoryBlock} (leftNonempty : left.length ≠ 0)
    (rightNonempty : right.length ≠ 0) (apart : ¬ left.SharesOffset right)
    (space : left.start.space = right.start.space) :
    left.start.offset.toNat ≠ right.start.offset.toNat := by
  intro offset
  apply apart
  refine ⟨left.start.space, left.start.offset.toNat, covers_start leftNonempty, ?_⟩
  rw [space, offset]
  exact covers_start rightNonempty

end MemoryBlock

namespace Memory

open MemoryBlock

/-- The layout that every call of `add` keeps. -/
structure WellFormed (memory : Memory) : Prop where
  sound : ∀ block ∈ memory.blocks, block.Sound
  names_nodup : (memory.blocks.map MemoryBlock.name).Nodup
  apart : memory.blocks.Pairwise fun left right => ¬ left.SharesOffset right
  increasing : memory.blocks.Pairwise Before

theorem wellFormed_empty : WellFormed .empty :=
  ⟨by simp [empty], by simp [empty], .nil, .nil⟩

/-- An insertion splits the list where the blocks that stand before the new one end. -/
theorem insertBlock_split (block : MemoryBlock) (blocks : List MemoryBlock) :
    ∃ before after, blocks = before ++ after ∧
      insertBlock block blocks = before ++ block :: after ∧
      (∀ other ∈ before, other.Before block) ∧
      ∀ first ∈ after.head?, ¬ first.Before block := by
  induction blocks with
  | nil => exact ⟨[], [], rfl, rfl, by simp, by simp⟩
  | cons first rest inductionHypothesis =>
      by_cases precedes : first.precedes block = true
      · obtain ⟨before, after, split, inserted, lower, upper⟩ := inductionHypothesis
        refine ⟨first :: before, after, by rw [split, List.cons_append], ?_, ?_, upper⟩
        · rw [insertBlock, if_pos precedes, inserted, List.cons_append]
        · intro other member
          rcases List.mem_cons.mp member with rfl | inBefore
          · exact (precedes_iff _ _).mp precedes
          · exact lower other inBefore
      · refine ⟨[], first :: rest, rfl, ?_, by simp, ?_⟩
        · rw [insertBlock, if_neg precedes, List.nil_append]
        · intro other member
          obtain rfl := Option.some.inj member
          exact fun before => precedes ((precedes_iff _ _).mpr before)

/-- What `add` checks of a block, in its order. -/
structure Accepts (memory : Memory) (space : AddressSpace) (block : MemoryBlock) : Prop where
  nonempty : block.length ≠ 0
  in_range : space.containsRange block.start.offset block.length = true
  held_eq : ∀ data, block.contents = .bytes data → data.length = block.length.toNat
  no_overlap : ∀ existing ∈ memory.blocks,
    existing.overlaps block.start block.length = false
  name_free : ∀ existing ∈ memory.blocks, existing.name ≠ block.name

theorem place_eq_ok_iff {memory next : Memory} {block : MemoryBlock} :
    add.place memory block = .ok next ↔
      (∀ existing ∈ memory.blocks, existing.overlaps block.start block.length = false) ∧
      (∀ existing ∈ memory.blocks, existing.name ≠ block.name) ∧
      next = ⟨insertBlock block memory.blocks⟩ := by
  unfold add.place
  split
  · next existing found =>
      have member := List.mem_of_find?_eq_some found
      have overlapping := List.find?_some found
      refine iff_of_false nofun ?_
      rintro ⟨noOverlap, -, -⟩
      simp [noOverlap existing member] at overlapping
  · next missing =>
      have noOverlap : ∀ existing ∈ memory.blocks,
          existing.overlaps block.start block.length = false := by
        simpa using missing
      by_cases taken : (memory.block? block.name).isSome = true
      · rw [if_pos taken]
        refine iff_of_false nofun ?_
        rintro ⟨-, free, -⟩
        exact Option.isSome_iff_ne_none.mp taken (block?_eq_none_iff.mpr free)
      · have free := block?_eq_none_iff.mp (Option.not_isSome_iff_eq_none.mp taken)
        rw [if_neg taken, Except.ok.injEq]
        exact ⟨fun equal => ⟨noOverlap, free, equal.symm⟩, fun parts => parts.2.2.symm⟩

/-- `add` puts a block in exactly when it accepts it. -/
theorem add_eq_ok_iff {memory next : Memory} {space : AddressSpace} {block : MemoryBlock} :
    memory.add space block = .ok next ↔
      memory.Accepts space block ∧ next = ⟨insertBlock block memory.blocks⟩ := by
  unfold add
  by_cases empty : block.length = 0
  · rw [if_pos empty]
    exact iff_of_false nofun fun accepted => accepted.1.nonempty empty
  rw [if_neg empty]
  by_cases inRange : space.containsRange block.start.offset block.length = true
  swap
  · rw [if_pos inRange]
    exact iff_of_false nofun fun accepted => inRange accepted.1.in_range
  rw [if_neg (not_not.mpr inRange)]
  have placed (heldEq : ∀ data, block.contents = .bytes data →
      data.length = block.length.toNat) :
      add.place memory block = .ok next ↔
        memory.Accepts space block ∧ next = ⟨insertBlock block memory.blocks⟩ := by
    rw [place_eq_ok_iff]
    constructor
    · rintro ⟨noOverlap, free, equal⟩
      exact ⟨⟨empty, inRange, heldEq, noOverlap, free⟩, equal⟩
    · rintro ⟨accepted, equal⟩
      exact ⟨accepted.no_overlap, accepted.name_free, equal⟩
  cases contents : block.contents with
  | uninitialized => exact placed (by simp [contents])
  | filled byte => exact placed (by simp [contents])
  | bytes data =>
      by_cases held : data.length = block.length.toNat
      · simp only [add.heldBytes?, held, ne_eq, not_true, if_false]
        refine placed fun other equal => ?_
        rw [contents, BlockContents.bytes.injEq] at equal
        rw [← equal, held]
      · simp only [add.heldBytes?, ne_eq, held, not_false_eq_true, if_true]
        exact iff_of_false nofun fun accepted => held (accepted.1.held_eq data contents)

theorem Accepts.sound {memory : Memory} {space : AddressSpace} {block : MemoryBlock}
    (accepted : memory.Accepts space block) : block.Sound := by
  have inRange := accepted.in_range
  simp only [AddressSpace.containsRange, decide_eq_true_eq] at inRange
  exact ⟨accepted.nonempty, inRange.trans_lt space.maxOffset.toNat_lt, accepted.held_eq⟩

/-- A block that is accepted shares no offset with the blocks of a well-formed memory. -/
theorem Accepts.apart {memory : Memory} {space : AddressSpace} {block : MemoryBlock}
    (accepted : memory.Accepts space block) (wellFormed : memory.WellFormed) :
    ∀ existing ∈ memory.blocks, ¬ existing.SharesOffset block := by
  intro existing member shared
  have stored := wellFormed.sound existing member
  have overlapping := (overlaps_iff stored accepted.nonempty accepted.sound.end_lt).mpr shared
  rw [accepted.no_overlap existing member] at overlapping
  exact Bool.noConfusion overlapping

/-- The place of a new block: every block in front of it stands before it, and every block behind
it comes after it. There is only one such place, whatever way it is searched for. -/
theorem insertBlock_place {memory : Memory} {block : MemoryBlock} (wellFormed : memory.WellFormed)
    (nonempty : block.length ≠ 0)
    (apart : ∀ existing ∈ memory.blocks, ¬ existing.SharesOffset block) :
    ∃ before after, memory.blocks = before ++ after ∧
      insertBlock block memory.blocks = before ++ block :: after ∧
      (∀ other ∈ before, other.Before block) ∧ ∀ other ∈ after, block.Before other := by
  obtain ⟨before, after, split, inserted, lower, upper⟩ := insertBlock_split block memory.blocks
  refine ⟨before, after, split, inserted, lower, ?_⟩
  cases after with
  | nil => simp
  | cons first rest =>
      have firstStored : first ∈ memory.blocks := by simp [split]
      have blockBeforeFirst : block.Before first := by
        apply before_of_not_before (upper first (by simp))
        refine keys_ne_of_not_sharesOffset nonempty
          (wellFormed.sound first firstStored).length_ne_zero ?_
        exact fun shared => apart first firstStored shared.symm
      have ordered := wellFormed.increasing
      rw [split, List.pairwise_append, List.pairwise_cons] at ordered
      intro other member
      rcases List.mem_cons.mp member with rfl | inRest
      · exact blockBeforeFirst
      · exact blockBeforeFirst.trans (ordered.2.1.1 other inRest)

/-- A block apart from all others, and with a name of its own, keeps the layout. -/
theorem WellFormed.insertBlock {memory : Memory} {block : MemoryBlock}
    (wellFormed : memory.WellFormed) (sound : block.Sound)
    (apart : ∀ existing ∈ memory.blocks, ¬ existing.SharesOffset block)
    (free : ∀ existing ∈ memory.blocks, existing.name ≠ block.name) :
    WellFormed ⟨insertBlock block memory.blocks⟩ := by
  obtain ⟨before, after, split, inserted, lower, upper⟩ :=
    insertBlock_place wellFormed sound.length_ne_zero apart
  have permuted : (before ++ block :: after).Perm (block :: memory.blocks) := by
    rw [split]
    exact List.perm_middle
  rw [inserted]
  constructor
  · intro other member
    rcases List.mem_cons.mp (permuted.mem_iff.mp member) with rfl | stored
    · exact sound
    · exact wellFormed.sound other stored
  · rw [(permuted.map MemoryBlock.name).nodup_iff, List.map_cons, List.nodup_cons]
    refine ⟨?_, wellFormed.names_nodup⟩
    intro member
    obtain ⟨existing, stored, sameName⟩ := List.mem_map.mp member
    exact free existing stored sameName
  · have symmetric : ∀ left right : MemoryBlock,
        ¬ left.SharesOffset right → ¬ right.SharesOffset left :=
      fun left right distinct shared => distinct shared.symm
    rw [permuted.pairwise_iff (fun {left right} => symmetric left right), List.pairwise_cons]
    exact ⟨fun existing stored => symmetric _ _ (apart existing stored), wellFormed.apart⟩
  · have ordered := wellFormed.increasing
    rw [split, List.pairwise_append] at ordered
    obtain ⟨beforeOrdered, afterOrdered, across⟩ := ordered
    rw [List.pairwise_append, List.pairwise_cons]
    refine ⟨beforeOrdered, ⟨upper, afterOrdered⟩, ?_⟩
    intro left inBefore right member
    rcases List.mem_cons.mp member with rfl | inAfter
    · exact lower left inBefore
    · exact across left inBefore right inAfter

/-- One call keeps the layout. -/
theorem WellFormed.add {memory next : Memory} {space : AddressSpace} {block : MemoryBlock}
    (wellFormed : memory.WellFormed) (added : memory.add space block = .ok next) :
    next.WellFormed := by
  obtain ⟨accepted, rfl⟩ := add_eq_ok_iff.mp added
  exact wellFormed.insertBlock accepted.sound (accepted.apart wellFormed) accepted.name_free

/-! ## Calls one after another -/

/-- A call of `add`, after which a refused block has changed nothing. -/
def adding (space : AddressSpace) (block : MemoryBlock) : Attempt Memory Unit :=
  .ofChange fun memory => memory.add space block

/-- The memory after calls, from the empty one on, of which any may have been refused. -/
def afterCalls (calls : List (AddressSpace × MemoryBlock)) : Memory :=
  calls.foldl (fun memory call => ((adding call.1 call.2).apply memory).2) .empty

theorem adding_apply (memory : Memory) (space : AddressSpace) (block : MemoryBlock) :
    (adding space block).apply memory =
      match memory.add space block with
      | .ok next => (.ok (), next)
      | .error failure => (.error failure, memory) := by
  rw [adding, Attempt.apply_ofChange]
  cases memory.add space block <;> rfl

theorem WellFormed.adding {memory : Memory} (wellFormed : memory.WellFormed)
    (space : AddressSpace) (block : MemoryBlock) :
    ((adding space block).apply memory).2.WellFormed := by
  rw [adding_apply]
  cases added : memory.add space block with
  | ok next => exact wellFormed.add added
  | error failure => exact wellFormed

theorem wellFormed_afterCalls (calls : List (AddressSpace × MemoryBlock)) :
    (afterCalls calls).WellFormed := by
  have kept : ∀ memory : Memory, memory.WellFormed →
      (calls.foldl (fun memory call =>
        ((adding call.1 call.2).apply memory).2) memory).WellFormed := by
    induction calls with
    | nil => exact fun memory wellFormed => wellFormed
    | cons call rest inductionHypothesis =>
        intro memory wellFormed
        exact inductionHypothesis _ (wellFormed.adding call.1 call.2)
  exact kept .empty wellFormed_empty

/-- After any calls the memory is well formed; the next call puts exactly its block in, at the one
place that the order leaves for it, or changes nothing. -/
theorem layout_kept_by_calls (calls : List (AddressSpace × MemoryBlock)) :
    (afterCalls calls).WellFormed ∧
    ∀ space block,
      match (adding space block).apply (afterCalls calls) with
      | (.ok (), next) =>
          ∃ before after, (afterCalls calls).blocks = before ++ after ∧
            next.blocks = before ++ block :: after ∧
            (∀ other ∈ before, other.Before block) ∧ ∀ other ∈ after, block.Before other
      | (.error _, next) => next = afterCalls calls := by
  have wellFormed := wellFormed_afterCalls calls
  refine ⟨wellFormed, fun space block => ?_⟩
  rw [adding_apply]
  cases added : (afterCalls calls).add space block with
  | error failure => rfl
  | ok next =>
      obtain ⟨accepted, rfl⟩ := add_eq_ok_iff.mp added
      exact insertBlock_place wellFormed accepted.nonempty (accepted.apart wellFormed)

end Memory

end ImageImport
