import ImageImport.Address

/-!
Contract: the registers that a target language declares.

Owns: what a register is, and which registers lie in memory.
-/

namespace ImageImport

inductive RegisterKind where
  | general
  | programCounter
  | flags
  | special
  | other
deriving DecidableEq, Repr

namespace RegisterKind

def all : List RegisterKind :=
  [.general, .programCounter, .flags, .special, .other]

def text : RegisterKind → String
  | .general => "General"
  | .programCounter => "ProgramCounter"
  | .flags => "Flags"
  | .special => "Special"
  | .other => "Other"

def toJson (kind : RegisterKind) : Json := .str kind.text

def ofJson? (value : Json) : Option RegisterKind :=
  value.choice? (all.map fun kind => (kind.text, kind))

end RegisterKind

structure Register where
  name : String
  size : UInt16
  kind : RegisterKind
  address : Address
deriving DecidableEq, Repr

namespace Register

/-- The size in bytes; a part of a byte counts as a byte. -/
def sizeInBytes (register : Register) : Nat :=
  (register.size.toNat + 7) / 8

def isMemoryMapped (register : Register) : Bool :=
  register.address.isMemory

def text (register : Register) : String :=
  register.name ++ " (" ++ Text.decimal register.size.toNat ++ " bits @ " ++
    register.address.text ++ ")"

def toJson (register : Register) : Json :=
  .obj [("name", .str register.name), ("size", .ofNat register.size.toNat),
    ("kind", register.kind.toJson), ("address", register.address.toJson)]

def ofJson? (value : Json) : Option Register := do
  let record ← value.record? ["name", "size", "kind", "address"]
  let name ← (record.slot "name").required Json.str?
  let size ← (record.slot "size").required Json.uint16?
  let kind ← (record.slot "kind").required RegisterKind.ofJson?
  let address ← (record.slot "address").required Address.ofJson?
  return ⟨name, size, kind, address⟩

end Register

end ImageImport
