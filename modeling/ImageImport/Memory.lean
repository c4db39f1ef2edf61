import ImageImport.Address
import ImageImport.Failure
import ImageImport.Permissions

/-!
Contract: the memory of a program, as blocks of named spaces.

`Memory.add` keeps three things: no two blocks of one space share an offset, no two blocks share a
name, and the blocks stand by space name and then by offset. It refuses what would break one of them.

Owns: blocks, the offsets they cover, and the reading of single bytes.
Does not own: which spaces a program declares.
-/

namespace ImageImport

inductive BlockContents where
  | uninitialized
  | filled (byte : UInt8)
  /-- The bytes of an image, as many as the block has offsets. -/
  | bytes (data : List UInt8)
deriving DecidableEq, Repr

structure MemoryBlock where
  name : String
  start : Address
  length : UInt64
  permissions : Permissions
  isVolatile : Bool
  isOverlay : Bool
  contents : BlockContents
  origin : String
deriving DecidableEq, Repr

namespace MemoryBlock

def isInitialized (block : MemoryBlock) : Bool :=
  block.contents != .uninitialized

def endOffset (block : MemoryBlock) : UInt64 :=
  block.start.offset + (block.length - 1)

/-- Whether the block lies in the space of that name and covers the offset. -/
def Covers (block : MemoryBlock) (space : String) (offset : Nat) : Prop :=
  block.start.space = space ∧ block.start.offset.toNat ≤ offset ∧
    offset < block.start.offset.toNat + block.length.toNat

instance (block : MemoryBlock) (space : String) (offset : Nat) :
    Decidable (block.Covers space offset) := by
  unfold Covers
  infer_instance

def contains (block : MemoryBlock) (address : Address) : Bool :=
  block.start.sameSpace address && block.start.offset ≤ address.offset &&
    address.offset ≤ block.endOffset

/-- Whether a range that is not empty shares an offset with the block. -/
def overlaps (block : MemoryBlock) (start : Address) (length : UInt64) : Bool :=
  block.start.sameSpace start && start.offset ≤ block.endOffset &&
    block.start.offset ≤ start.offset + (length - 1)

/-- The byte at an address, where the block covers the address and its bytes are known. -/
def byteAt? (block : MemoryBlock) (address : Address) : Option UInt8 :=
  if block.contains address then
    match block.contents with
    | .uninitialized => none
    | .filled byte => some byte
    | .bytes data => data[(address.offset - block.start.offset).toNat]?
  else none

def text (block : MemoryBlock) : String :=
  block.name ++ " [" ++ block.start.text ++ " +" ++ Text.hex block.length.toNat ++ "] " ++
    block.permissions.text

/-- Whether a block stands before the place of another: by space name, then by offset. -/
def precedes (left right : MemoryBlock) : Bool :=
  left.start.space < right.start.space ||
    (left.start.space == right.start.space && left.start.offset < right.start.offset)

end MemoryBlock

structure Memory where
  blocks : List MemoryBlock
deriving DecidableEq, Repr

namespace Memory

def empty : Memory := ⟨[]⟩

def size (memory : Memory) : Nat := memory.blocks.length

def isEmpty (memory : Memory) : Bool := memory.blocks.isEmpty

def block? (memory : Memory) (name : String) : Option MemoryBlock :=
  memory.blocks.find? fun block => block.name == name

theorem block?_eq_none_iff {memory : Memory} {name : String} :
    memory.block? name = none ↔ ∀ block ∈ memory.blocks, block.name ≠ name := by
  simp [block?]

/-- The blocks with one more, in front of the first that it does not come after. -/
def insertBlock (block : MemoryBlock) : List MemoryBlock → List MemoryBlock
  | [] => [block]
  | first :: rest =>
      if first.precedes block then first :: insertBlock block rest else block :: first :: rest

/-- The memory with one more block, which lies in the given space. -/
def add (memory : Memory) (space : AddressSpace) (block : MemoryBlock) : Except Failure Memory :=
  if block.length = 0 then
    .error (.addressOverflow ("block '" ++ block.name ++ "' has zero length"))
  else if ¬ space.containsRange block.start.offset block.length then
    .error (.addressOverflow ("block '" ++ block.name ++ "' at " ++ block.start.text ++
      " with length " ++ Text.hex block.length.toNat ++ " runs past the end of space '" ++
      space.name ++ "'"))
  else
    match heldBytes? block.contents with
    | some held =>
        if held ≠ block.length.toNat then
          .error (.invalidAddress ("block '" ++ block.name ++ "' holds " ++ Text.decimal held ++
            " bytes but declares length " ++ Text.hex block.length.toNat))
        else place block
    | none => place block
where
  /-- How many bytes the contents bring along. -/
  heldBytes? : BlockContents → Option Nat
    | .bytes data => some data.length
    | _ => none
  /-- The memory with a block that is well formed by itself. -/
  place (block : MemoryBlock) : Except Failure Memory :=
    match memory.blocks.find? fun existing => existing.overlaps block.start block.length with
    | some existing =>
        .error (.memoryConflict ("block '" ++ block.name ++ "' overlaps existing block '" ++
          existing.name ++ "'"))
    | none =>
        if (memory.block? block.name).isSome then
          .error (.memoryConflict ("a block named '" ++ block.name ++ "' already exists"))
        else .ok ⟨insertBlock block memory.blocks⟩

/-- The highest offset that a block of the named space covers. -/
def maxEndOffset? (memory : Memory) (space : String) : Option UInt64 :=
  ((memory.blocks.filter fun block => block.start.space == space).map
    MemoryBlock.endOffset).foldl later none
where
  later : Option UInt64 → UInt64 → Option UInt64
    | none, offset => some offset
    | some best, offset => some (if best < offset then offset else best)

end Memory

end ImageImport
