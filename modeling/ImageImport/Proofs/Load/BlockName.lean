import ImageImport.Load.Binary
import ImageImport.Proofs.Text.Numeral

/-!
Contract: the name of a block that is merged into a program.

It is the base, or else the base with the least number behind it that makes a name no block has. The
search counts in 32 bits, and nothing else bounds it. The names it tries are all different, so with
fewer blocks than there are numbers it ends, and tries at most one name more than there are blocks.

Owns: the names that are tried, the search from number to number, and the name it ends with.
Does not own: memories with a block for every number of 32 bits.
-/

namespace ImageImport

/-! ## The search as it goes -/

namespace Memory

/-- From a number of 32 bits on, looks for a name no block has: gives the names passed over, and the
name found. The number behind the last is zero, and where every name has a block there is no answer,
since the search goes round for ever. -/
def searchNameFrom (memory : Memory) (base : String) (number : UInt32) (passed : List String) :
    Option (List String × String) :=
  let name := base ++ "_" ++ Text.decimal number.toNat
  match memory.block? name with
  | none => some (passed, name)
  | some _ => memory |>.searchNameFrom base (number + 1) (passed ++ [name])
partial_fixpoint

/-- Looks for the base, and then for the base with one, two and so on behind it. -/
def searchName (memory : Memory) (base : String) : Option (List String × String) :=
  match memory.block? base with
  | none => some ([], base)
  | some _ => memory.searchNameFrom base 1 [base]

end Memory

namespace BinaryLoader

variable {memory : Memory} {base : String} {n : Nat}

/-! ## The names that are tried -/

theorem numberedName_of_pos (positive : 0 < n) :
    numberedName base n = base ++ "_" ++ Text.decimal n := by
  cases n with
  | zero => contradiction
  | succ n => rfl

theorem numberedName_injective (base : String) : Function.Injective (numberedName base) := by
  have longer (n : Nat) : base ≠ base ++ "_" ++ Text.decimal (n + 1) := by
    intro same
    have lengths := congrArg String.length same
    simp only [String.length_append] at lengths
    have mark : "_".length = 1 := rfl
    omega
  intro left right same
  cases left with
  | zero =>
      cases right with
      | zero => rfl
      | succ right => exact absurd same (longer right)
  | succ left =>
      cases right with
      | zero => exact absurd same.symm (longer left)
      | succ right => exact Text.append_decimal_injective (base ++ "_") same

/-- The numbers that make a name no block has; zero stands for the base itself. -/
def freeNumbers (memory : Memory) (base : String) : Set Nat :=
  {n | memory.block? (numberedName base n) = none}

theorem taken_of_lt_least (least : IsLeast (freeNumbers memory base) n) {earlier : Nat}
    (less : earlier < n) : memory.block? (numberedName base earlier) ≠ none :=
  fun free => absurd (least.2 free) (not_le.mpr less)

/-- Every number below the least free one takes a block of its own. -/
theorem exists_isLeast_freeNumbers (memory : Memory) (base : String) :
    ∃ n ≤ memory.size, IsLeast (freeNumbers memory base) n := by
  obtain ⟨n, atMost, least⟩ :=
    Text.exists_least_free (numberedName_injective base) (memory.blocks.map MemoryBlock.name)
  rw [List.length_map] at atMost
  have isFree : freeNumbers memory base =
      {n | numberedName base n ∉ memory.blocks.map MemoryBlock.name} := by
    simp [freeNumbers, Memory.block?_eq_none_iff]
  exact ⟨n, atMost, isFree ▸ least⟩

theorem uniqueBlockName_of_isLeast (least : IsLeast (freeNumbers memory base) n)
    (atMost : n ≤ memory.size) : uniqueBlockName memory base = numberedName base n := by
  have found : (List.range (memory.size + 1)).find?
      ((fun name => (memory.block? name).isNone) ∘ numberedName base) = some n := by
    rw [List.find?_range_eq_some]
    refine ⟨Option.isNone_iff_eq_none.mpr least.1, List.mem_range.mpr (by omega), ?_⟩
    intro earlier less
    simpa [Option.isSome_iff_ne_none] using taken_of_lt_least least less
  rw [uniqueBlockName, List.find?_map, found]
  rfl

theorem uniqueBlockName_free (memory : Memory) (base : String) :
    ∀ block ∈ memory.blocks, block.name ≠ uniqueBlockName memory base := by
  obtain ⟨n, atMost, least⟩ := exists_isLeast_freeNumbers memory base
  rw [uniqueBlockName_of_isLeast least atMost]
  exact Memory.block?_eq_none_iff.mp least.1

/-! ## The end of the search -/

section Search

variable {number : UInt32} {passed : List String}

theorem searchNameFrom_of_free (positive : 0 < number.toNat)
    (free : number.toNat ∈ freeNumbers memory base) :
    memory.searchNameFrom base number passed = some (passed, numberedName base number.toNat) := by
  have found : memory.block? (numberedName base number.toNat) = none := free
  rw [numberedName_of_pos positive] at found ⊢
  rw [Memory.searchNameFrom]
  simp only [found]

theorem searchNameFrom_of_taken (positive : 0 < number.toNat)
    (taken : number.toNat ∉ freeNumbers memory base) :
    memory.searchNameFrom base number passed =
      memory.searchNameFrom base (number + 1) (passed ++ [numberedName base number.toNat]) := by
  obtain ⟨block, found⟩ := Option.ne_none_iff_exists'.mp taken
  rw [numberedName_of_pos positive] at found ⊢
  rw [Memory.searchNameFrom]
  simp only [found]

/-- From any number up to the least free one, the search goes on to that one. -/
theorem searchNameFrom_of_isLeast (least : IsLeast (freeNumbers memory base) n)
    (counted : n < 2 ^ 32) (positive : 0 < number.toNat) (before : number.toNat ≤ n) :
    memory.searchNameFrom base number ((List.range number.toNat).map (numberedName base)) =
      some ((List.range n).map (numberedName base), numberedName base n) := by
  -- The induction is on how far the free number still is.
  obtain ⟨left, here⟩ := Nat.exists_eq_add_of_le before
  induction left generalizing number with
  | zero =>
      subst here
      exact searchNameFrom_of_free positive least.1
  | succ left inductionHypothesis =>
      have taken : number.toNat ∉ freeNumbers memory base :=
        taken_of_lt_least least (by omega)
      have next : (number + 1).toNat = number.toNat + 1 := by
        rw [UInt32.toNat_add, UInt32.toNat_one]
        exact Nat.mod_eq_of_lt (by omega)
      have onward := @inductionHypothesis (number + 1) (by omega) (by omega) (by omega)
      rw [next, List.range_succ, List.map_append] at onward
      rw [searchNameFrom_of_taken positive taken]
      exact onward

/-- The search ends at the least free number, past all that are smaller. -/
theorem searchName_of_isLeast (least : IsLeast (freeNumbers memory base) n) (counted : n < 2 ^ 32) :
    memory.searchName base =
      some ((List.range n).map (numberedName base), numberedName base n) := by
  cases n with
  | zero =>
      have free : memory.block? base = none := least.1
      simp only [Memory.searchName, free]
      rfl
  | succ n =>
      have taken : memory.block? base ≠ none := taken_of_lt_least least (Nat.succ_pos n)
      obtain ⟨block, found⟩ := Option.ne_none_iff_exists'.mp taken
      simp only [Memory.searchName, found]
      exact @searchNameFrom_of_isLeast _ _ _ 1 least counted (by decide) (Nat.le_add_left 1 n)

end Search

/-- With fewer than `2 ^ 32 - 1` blocks the search for a name ends. It passes over no more names
than there are blocks, and does not count beyond 32 bits. The name it ends with is the one that
`uniqueBlockName` gives: the base where no block has it, and else the base with the least number
behind it that makes a name no block has. -/
theorem search_ends_at_the_least_free_number (memory : Memory) (base : String)
    (few : memory.size < 2 ^ 32 - 1) :
    let name := uniqueBlockName memory base
    ∃ n, memory.searchName base = some ((List.range n).map (numberedName base), name) ∧
      n ≤ memory.size ∧ n + 1 < 2 ^ 32 ∧
      (∀ block ∈ memory.blocks, block.name ≠ name) ∧
      (memory.block? base = none → name = base) ∧
      (memory.block? base ≠ none → name ≠ base ∧ name = base ++ "_" ++ Text.decimal n ∧
        IsLeast {m | 1 ≤ m ∧ memory.block? (base ++ "_" ++ Text.decimal m) = none} n) := by
  intro name
  obtain ⟨n, atMost, least⟩ := exists_isLeast_freeNumbers memory base
  have found : name = numberedName base n := uniqueBlockName_of_isLeast least atMost
  have free : memory.block? name = none := found ▸ least.1
  have ended := searchName_of_isLeast least (by omega)
  rw [← found] at ended
  refine ⟨n, ended, atMost, by omega, uniqueBlockName_free memory base, fun baseFree => ?_,
    fun baseTaken => ?_⟩
  · have zeroFree : 0 ∈ freeNumbers memory base := baseFree
    rw [found, Nat.le_zero.mp (least.2 zeroFree)]
    rfl
  · have zeroTaken : 0 ∉ freeNumbers memory base := baseTaken
    have positive : 0 < n := Nat.pos_of_ne_zero fun zero => zeroTaken (zero ▸ least.1)
    have numbered := found.trans (numberedName_of_pos positive)
    refine ⟨fun same => baseTaken (same ▸ free), numbered, ⟨positive, numbered ▸ free⟩, ?_⟩
    rintro other ⟨otherPositive, otherFree⟩
    rw [← numberedName_of_pos otherPositive] at otherFree
    exact least.2 otherFree

/-- Between the names with one and with three there is room for one with two, whatever stands before
them in the memory; a zero in front of a number makes another name. -/
theorem rom_2_is_free_between_rom_1_and_rom_3 :
    let block (name : String) (offset : UInt64) : MemoryBlock :=
      ⟨name, ⟨"ram", .ram, offset, 16, none⟩, 1, .all, false, false, .filled 0, ""⟩
    let memory : Memory :=
      ⟨[block "rom_3" 0, block "rom_02" 1, block "rom" 2, block "rom_1" 3]⟩
    memory.size < 2 ^ 32 - 1 ∧ memory.block? "rom" ≠ none ∧
      memory.searchName "rom" = some (["rom", "rom_1"], "rom_2") ∧
      uniqueBlockName memory "rom" = "rom_2" ∧
      IsLeast {m | 1 ≤ m ∧ memory.block? ("rom" ++ "_" ++ Text.decimal m) = none} 2 := by
  intro block memory
  have few : memory.size < 2 ^ 32 - 1 := by decide
  have taken : memory.block? "rom" ≠ none := by decide +kernel
  have named : uniqueBlockName memory "rom" = "rom_2" := by decide +kernel
  obtain ⟨n, ended, -, -, -, -, numbered⟩ :=
    search_ends_at_the_least_free_number memory "rom" few
  obtain ⟨-, isNumbered, least⟩ := numbered taken
  have second : n = 2 := by
    refine Text.append_decimal_injective ("rom" ++ "_") ?_
    show "rom" ++ "_" ++ Text.decimal n = "rom" ++ "_" ++ Text.decimal 2
    rw [← isNumbered, named]
    decide +kernel
  subst second
  have passed : (List.range 2).map (numberedName "rom") = ["rom", "rom_1"] := by decide +kernel
  rw [passed, named] at ended
  exact ⟨few, taken, ended, named, least⟩

end BinaryLoader

end ImageImport
