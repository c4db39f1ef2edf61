import ImageImport.Json.Record
import ImageImport.Text.Blank
import ImageImport.Text.Digits

/-!
Contract: the named domains in which a program's addresses lie.

Owns: the kinds of spaces, the offsets a space has, and the ranges that fit into it. A space of any
width is a value; `AddressSpace.make` is where widths and names are checked.
-/

namespace ImageImport

inductive SpaceKind where
  | ram
  | register
  | constant
  | unique
  | stack
  | overlay
  | other
deriving DecidableEq, Repr

namespace SpaceKind

def all : List SpaceKind :=
  [.ram, .register, .constant, .unique, .stack, .overlay, .other]

def text : SpaceKind → String
  | .ram => "Ram"
  | .register => "Register"
  | .constant => "Constant"
  | .unique => "Unique"
  | .stack => "Stack"
  | .overlay => "Overlay"
  | .other => "Other"

def rank : SpaceKind → Nat
  | .ram => 0
  | .register => 1
  | .constant => 2
  | .unique => 3
  | .stack => 4
  | .overlay => 5
  | .other => 6

/-- The kinds of spaces that hold loaded memory. -/
def isMemory : SpaceKind → Bool
  | .ram | .overlay => true
  | _ => false

def toJson (kind : SpaceKind) : Json := .str kind.text

def ofJson? (value : Json) : Option SpaceKind :=
  value.choice? (all.map fun kind => (kind.text, kind))

end SpaceKind

/-- The largest offset of so many bits; sixty-four bits hold every offset. -/
def maxOffsetOfBits (bits : UInt8) : UInt64 :=
  if bits.toNat < 64 then (Nat.pow 2 bits.toNat - 1).toUInt64 else (UInt64.size - 1).toUInt64

structure AddressSpace where
  name : String
  kind : SpaceKind
  bits : UInt8
  /-- The space that an overlay lies over. -/
  base : Option String
deriving DecidableEq, Repr

namespace AddressSpace

/-- A space with a name that is not blank, eight to sixty-four bits, and a base if an overlay. -/
def make (name : String) (kind : SpaceKind) (bits : UInt8) (base : Option String) :
    Except String AddressSpace :=
  if (Text.trim name.toList).isEmpty then .error "name cannot be empty or whitespace"
  else if bits.toNat < 8 ∨ 64 < bits.toNat then
    .error ("address width " ++ Text.decimal bits.toNat ++ " is not within 8..=64 bits")
  else if kind = .overlay ∧ base = none then
    .error "overlay address spaces must have a base_space"
  else .ok ⟨name, kind, bits, base⟩

def isMemory (space : AddressSpace) : Bool :=
  space.kind.isMemory

def isOverlay (space : AddressSpace) : Bool :=
  space.kind = .overlay

def maxOffset (space : AddressSpace) : UInt64 :=
  maxOffsetOfBits space.bits

/-- Whether every offset of a range, or the start of an empty one, is an offset of the space. -/
def containsRange (space : AddressSpace) (offset length : UInt64) : Bool :=
  offset.toNat + (length.toNat - 1) ≤ space.maxOffset.toNat

def toJson (space : AddressSpace) : Json :=
  .obj [("name", .str space.name), ("kind", space.kind.toJson), ("bits", .ofNat space.bits.toNat),
    ("base_space", .ofOption .str space.base)]

def ofJson? (value : Json) : Option AddressSpace := do
  let record ← value.record? ["name", "kind", "bits", "base_space"]
  let name ← (record.slot "name").required Json.str?
  let kind ← (record.slot "kind").required SpaceKind.ofJson?
  let bits ← (record.slot "bits").required Json.uint8?
  let base ← (record.slot "base_space").optional Json.str?
  return ⟨name, kind, bits, base⟩

end AddressSpace

end ImageImport
