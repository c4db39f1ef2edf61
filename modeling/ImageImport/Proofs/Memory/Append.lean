import ImageImport.Proofs.Memory.Layout

/-!
Contract: what a memory holds after a block has come behind everything else in its space.

The top of a space is one past the highest offset that is covered, as an unbounded integer: it may
lie one past the last offset there is. A block that begins at the top or above shares no offset with
another, so it hides none of the bytes that were there, and its own bytes are read behind them.

Owns: `Memory.top`, the bytes that a range of offsets holds, and both after an insertion.
Does not own: which address comes after the top.
-/

namespace ImageImport

namespace MemoryBlock

/-- One past the last offset of a block. -/
def stop (block : MemoryBlock) : Nat :=
  block.start.offset.toNat + block.length.toNat

theorem Sound.endOffset_succ {block : MemoryBlock} (sound : block.Sound) :
    block.endOffset.toNat + 1 = block.stop := by
  have positive := length_pos sound.length_ne_zero
  rw [endOffset, last_toNat sound.length_ne_zero sound.end_lt, stop]
  omega

theorem Sound.contains_iff {block : MemoryBlock} (sound : block.Sound) (address : Address) :
    block.contains address = true ↔ block.Covers address.space address.offset.toNat := by
  have ends := sound.endOffset_succ
  simp only [contains, Covers, Address.sameSpace, Bool.and_eq_true, beq_iff_eq, decide_eq_true_eq,
    UInt64.le_iff_toNat_le]
  rw [stop] at ends
  constructor
  · rintro ⟨⟨space, low⟩, high⟩
    exact ⟨space, low, by omega⟩
  · rintro ⟨space, low, high⟩
    exact ⟨⟨space, low⟩, by omega⟩

/-- A block of an image answers the byte that is as far into the image as the address is into the
block. -/
theorem Sound.byteAt?_of_bytes {block : MemoryBlock} {data : List UInt8} {address : Address}
    (sound : block.Sound) (contents : block.contents = .bytes data)
    (covers : block.Covers address.space address.offset.toNat) :
    block.byteAt? address = data[address.offset.toNat - block.start.offset.toNat]? := by
  have inside : block.contains address = true := (sound.contains_iff address).mpr covers
  have low : block.start.offset ≤ address.offset := UInt64.le_iff_toNat_le.mpr covers.2.1
  simp only [byteAt?, inside, if_true, contents, UInt64.toNat_sub_of_le _ _ low]

end MemoryBlock

namespace Memory

open MemoryBlock

variable {memory : Memory} {block : MemoryBlock} {space : String}

/-! ## The top of a space -/

/-- One past the highest offset that a block of the space covers, and zero where there is none. -/
def top (memory : Memory) (space : String) : Nat :=
  ((memory.blocks.filter fun block => block.start.space == space).map stop).foldr max 0

theorem top_le_iff {bound : Nat} :
    memory.top space ≤ bound ↔
      ∀ block ∈ memory.blocks, block.start.space = space → block.stop ≤ bound := by
  have folded (stops : List Nat) : stops.foldr max 0 ≤ bound ↔ ∀ stop ∈ stops, stop ≤ bound := by
    induction stops with
    | nil => simp
    | cons stop rest inductionHypothesis =>
        rw [List.foldr_cons, max_le_iff, inductionHypothesis, List.forall_mem_cons]
  rw [top, folded, List.forall_mem_map]
  simp only [List.mem_filter, beq_iff_eq, and_imp]

theorem stop_le_top (member : block ∈ memory.blocks) :
    block.stop ≤ memory.top block.start.space :=
  top_le_iff.mp (le_refl _) block member rfl

/-- How far an inclusive end reaches, where there is one. -/
def reach : Option UInt64 → Nat
  | none => 0
  | some last => last.toNat + 1

theorem reach_later (best : Option UInt64) (offset : UInt64) :
    reach (maxEndOffset?.later best offset) = max (reach best) (offset.toNat + 1) := by
  cases best with
  | none => simp [maxEndOffset?.later, reach]
  | some best =>
      simp only [maxEndOffset?.later, reach, UInt64.lt_iff_toNat_lt]
      split <;> omega

/-- The highest end offset, where there is one, is the last offset below the top. -/
theorem WellFormed.reach_maxEndOffset? (wellFormed : memory.WellFormed) (space : String) :
    reach (memory.maxEndOffset? space) = memory.top space := by
  have folded (best : Option UInt64) (blocks : List MemoryBlock)
      (sound : ∀ block ∈ blocks, block.Sound) :
      reach ((blocks.map endOffset).foldl maxEndOffset?.later best) =
        max (reach best) ((blocks.map stop).foldr max 0) := by
    induction blocks generalizing best with
    | nil => simp
    | cons block rest inductionHypothesis =>
        have ends := (sound block (by simp)).endOffset_succ
        rw [List.map_cons, List.foldl_cons, List.map_cons, List.foldr_cons,
          inductionHypothesis _ fun other member => sound other (List.mem_cons_of_mem _ member),
          reach_later, ends, max_assoc]
  have sound : ∀ block ∈ memory.blocks.filter fun block => block.start.space == space,
      block.Sound := fun block member => wellFormed.sound block (List.mem_filter.mp member).1
  rw [maxEndOffset?, folded none _ sound, reach, Nat.zero_max, top]

/-- A block at the top or above shares no offset with what is there. -/
theorem apart_of_top_le (behind : memory.top block.start.space ≤ block.start.offset.toNat) :
    ∀ existing ∈ memory.blocks, ¬ existing.SharesOffset block := by
  rintro existing member ⟨space, offset, ⟨onSpace, -, high⟩, rfl, low, -⟩
  have below := stop_le_top member
  rw [onSpace, stop] at below
  omega

/-! ## Insertion -/

theorem mem_insertBlock {other : MemoryBlock} :
    other ∈ insertBlock block memory.blocks ↔ other = block ∨ other ∈ memory.blocks := by
  obtain ⟨before, after, split, inserted, -⟩ := insertBlock_split block memory.blocks
  rw [inserted, split, List.mem_append, List.mem_cons, List.mem_append]
  tauto

/-- The blocks that were there keep their order. -/
theorem sublist_insertBlock : memory.blocks.Sublist (insertBlock block memory.blocks) := by
  obtain ⟨before, after, split, inserted, -⟩ := insertBlock_split block memory.blocks
  rw [inserted, split]
  exact (List.Sublist.refl before).append (List.sublist_cons_self block after)

/-- A block at the top becomes the top. -/
theorem top_insertBlock (behind : memory.top block.start.space ≤ block.start.offset.toNat) :
    (⟨insertBlock block memory.blocks⟩ : Memory).top block.start.space = block.stop := by
  apply Nat.le_antisymm
  · rw [top_le_iff]
    intro other member sameSpace
    rcases mem_insertBlock.mp member with rfl | stored
    · exact le_refl _
    · have below := stop_le_top stored
      rw [sameSpace] at below
      exact below.trans (behind.trans (Nat.le_add_right _ _))
  · have member : block ∈ (⟨insertBlock block memory.blocks⟩ : Memory).blocks :=
      mem_insertBlock.mpr (.inl rfl)
    exact stop_le_top member

/-- A block behind everything in its space is put in, if its space reaches so far. -/
theorem WellFormed.add_of_top_le {declared : AddressSpace} (wellFormed : memory.WellFormed)
    (nonempty : block.length ≠ 0)
    (inRange : declared.containsRange block.start.offset block.length = true)
    (held : ∀ data, block.contents = .bytes data → data.length = block.length.toNat)
    (behind : memory.top block.start.space ≤ block.start.offset.toNat)
    (free : ∀ existing ∈ memory.blocks, existing.name ≠ block.name) :
    memory.add declared block = .ok ⟨Memory.insertBlock block memory.blocks⟩ := by
  have bounded : block.start.offset.toNat + (block.length.toNat - 1) < 2 ^ 64 := by
    simp only [AddressSpace.containsRange, decide_eq_true_eq] at inRange
    exact inRange.trans_lt declared.maxOffset.toNat_lt
  have noOverlap : ∀ existing ∈ memory.blocks,
      existing.overlaps block.start block.length = false := by
    intro existing member
    have apart := apart_of_top_le behind existing member
    have decided := overlaps_iff (wellFormed.sound existing member) nonempty bounded
    exact Bool.eq_false_iff.mpr fun overlapping => apart (decided.mp overlapping)
  exact add_eq_ok_iff.mpr ⟨⟨nonempty, inRange, held, noOverlap, free⟩, rfl⟩

theorem add_of_not_inRange {declared : AddressSpace} (nonempty : block.length ≠ 0)
    (beyond : declared.containsRange block.start.offset block.length = false) :
    ∃ reason, memory.add declared block = .error (.addressOverflow reason) := by
  simp [add, nonempty, beyond]

/-! ## Bytes in place -/

/-- The blocks that cover an offset of a space. -/
def blocksAt (memory : Memory) (space : String) (offset : Nat) : List MemoryBlock :=
  memory.blocks.filter fun block => block.Covers space offset

/-- From the start on, each offset lies in one block alone, which answers the byte for it. -/
def Holds (memory : Memory) (space : String) (start : Nat) (bytes : List UInt8) : Prop :=
  ∀ i byte, bytes[i]? = some byte →
    ∃ block, memory.blocksAt space (start + i) = [block] ∧
      ∀ address : Address, address.space = space → address.offset.toNat = start + i →
        block.byteAt? address = some byte

theorem holds_nil (memory : Memory) (space : String) (start : Nat) :
    memory.Holds space start [] := by
  simp [Holds]

theorem Holds.append {start : Nat} {first second : List UInt8}
    (holdsFirst : memory.Holds space start first)
    (holdsSecond : memory.Holds space (start + first.length) second) :
    memory.Holds space start (first ++ second) := by
  intro i byte found
  by_cases early : i < first.length
  · rw [List.getElem?_append_left early] at found
    exact holdsFirst i byte found
  · rw [not_lt] at early
    rw [List.getElem?_append_right early] at found
    have sameOffset : start + first.length + (i - first.length) = start + i := by omega
    have held := holdsSecond (i - first.length) byte found
    rw [sameOffset] at held
    exact held

/-- An insertion leaves the offsets alone that its block does not cover. -/
theorem blocksAt_insertBlock_of_not_covers {offset : Nat}
    (elsewhere : ¬ block.Covers space offset) :
    (⟨insertBlock block memory.blocks⟩ : Memory).blocksAt space offset =
      memory.blocksAt space offset := by
  obtain ⟨before, after, split, inserted, -⟩ := insertBlock_split block memory.blocks
  simp only [blocksAt]
  rw [inserted, split, List.filter_append, List.filter_append, List.filter_cons_of_neg]
  simpa using elsewhere

theorem blocksAt_insertBlock_of_covers {offset : Nat}
    (apart : ∀ existing ∈ memory.blocks, ¬ existing.SharesOffset block)
    (covers : block.Covers space offset) :
    (⟨insertBlock block memory.blocks⟩ : Memory).blocksAt space offset = [block] := by
  obtain ⟨before, after, split, inserted, -⟩ := insertBlock_split block memory.blocks
  have elsewhere : ∀ existing ∈ memory.blocks, ¬ existing.Covers space offset :=
    fun existing member onExisting => apart existing member ⟨space, offset, onExisting, covers⟩
  rw [split] at elsewhere
  have noneBefore : before.filter (fun block => block.Covers space offset) = [] := by
    rw [List.filter_eq_nil_iff]
    intro existing member
    simpa using elsewhere existing (List.mem_append_left _ member)
  have noneAfter : after.filter (fun block => block.Covers space offset) = [] := by
    rw [List.filter_eq_nil_iff]
    intro existing member
    simpa using elsewhere existing (List.mem_append_right _ member)
  simp only [blocksAt]
  rw [inserted, List.filter_append, List.filter_cons_of_pos (by simpa using covers), noneBefore,
    noneAfter, List.nil_append]

/-- A block that is apart from the others hides none of their bytes. -/
theorem Holds.insertBlock {start : Nat} {bytes : List UInt8}
    (holds : memory.Holds space start bytes)
    (apart : ∀ existing ∈ memory.blocks, ¬ existing.SharesOffset block) :
    (⟨insertBlock block memory.blocks⟩ : Memory).Holds space start bytes := by
  intro i byte found
  obtain ⟨existing, alone, answers⟩ := holds i byte found
  have member : existing ∈ memory.blocksAt space (start + i) := by simp [alone]
  simp only [blocksAt, List.mem_filter, decide_eq_true_eq] at member
  refine ⟨existing, ?_, answers⟩
  rw [blocksAt_insertBlock_of_not_covers, alone]
  exact fun covers => apart existing member.1 ⟨space, start + i, member.2, covers⟩

/-- The bytes of an image are read in its block, in order. -/
theorem holds_insertBlock {bytes : List UInt8} (sound : block.Sound)
    (contents : block.contents = .bytes bytes)
    (apart : ∀ existing ∈ memory.blocks, ¬ existing.SharesOffset block) :
    (⟨insertBlock block memory.blocks⟩ : Memory).Holds block.start.space
      block.start.offset.toNat bytes := by
  intro i byte found
  obtain ⟨inBytes, -⟩ := List.getElem?_eq_some_iff.mp found
  rw [sound.held_eq bytes contents] at inBytes
  have covers : block.Covers block.start.space (block.start.offset.toNat + i) :=
    ⟨rfl, Nat.le_add_right _ _, by omega⟩
  refine ⟨block, blocksAt_insertBlock_of_covers apart covers, fun address onSpace atOffset => ?_⟩
  rw [← onSpace, ← atOffset] at covers
  rw [sound.byteAt?_of_bytes contents covers, atOffset, Nat.add_sub_cancel_left, found]

end Memory

end ImageImport
