import ImageImport.Permissions

/-!
Contract: the memory blocks that a target language expects every program to have.

Owns: a definition as data. Its address is a text, to be read in the language of a program.
Does not own: the making of blocks.
-/

namespace ImageImport

structure BlockDefinition where
  name : String
  address : String
  length : UInt64
  permissions : Permissions
  isVolatile : Bool
  isInitialized : Bool
  /-- Whether the block lies in a space of its own, over the space of its address. -/
  isOverlay : Bool
deriving DecidableEq, Repr

namespace BlockDefinition

/-- A definition of a readable block with nothing else said of it. -/
def make (name address : String) (length : UInt64) : BlockDefinition :=
  ⟨name, address, length, .read, false, false, false⟩

def text (definition : BlockDefinition) : String :=
  definition.name ++ " " ++ definition.address ++ " length=" ++
    Text.hex definition.length.toNat ++ " " ++ definition.permissions.text ++
    if definition.isOverlay then " overlay" else ""

def toJson (definition : BlockDefinition) : Json :=
  .obj [("name", .str definition.name), ("address", .str definition.address),
    ("length", .ofNat definition.length.toNat), ("perms", definition.permissions.toJson),
    ("volatile", .bool definition.isVolatile), ("initialized", .bool definition.isInitialized),
    ("overlay", .bool definition.isOverlay)]

def ofJson? (value : Json) : Option BlockDefinition := do
  let record ← value.record?
    ["name", "address", "length", "perms", "volatile", "initialized", "overlay"]
  let name ← (record.slot "name").required Json.str?
  let address ← (record.slot "address").required Json.str?
  let length ← (record.slot "length").required Json.uint64?
  let permissions ← (record.slot "perms").withDefault .read Permissions.ofJson?
  let isVolatile ← (record.slot "volatile").withDefault false Json.bool?
  let isInitialized ← (record.slot "initialized").withDefault false Json.bool?
  let isOverlay ← (record.slot "overlay").withDefault false Json.bool?
  return ⟨name, address, length, permissions, isVolatile, isInitialized, isOverlay⟩

end BlockDefinition

end ImageImport
