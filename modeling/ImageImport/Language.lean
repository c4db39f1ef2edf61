import ImageImport.BlockDefinition
import ImageImport.Failure
import ImageImport.Register

/-!
Contract: what loading needs to know of a target processor.

Owns: a language with its spaces, registers, default labels and default blocks; its stored form; and
the reading of written addresses, which looks spaces up by their first declaration.
Does not own: the written form of an address.
-/

namespace ImageImport

structure DefaultLabel where
  label : String
  address : Address
  /-- Whether the address is an external entry point. -/
  isEntry : Bool
  /-- Whether the label is to be primary at its address. -/
  isPrimary : Bool
deriving DecidableEq, Repr

namespace DefaultLabel

def toJson (label : DefaultLabel) : Json :=
  .obj [("label", .str label.label), ("address", label.address.toJson),
    ("entry", .bool label.isEntry), ("primary", .bool label.isPrimary)]

def ofJson? (value : Json) : Option DefaultLabel := do
  let record ← value.record? ["label", "address", "entry", "primary"]
  let label ← (record.slot "label").required Json.str?
  let address ← (record.slot "address").required Address.ofJson?
  let isEntry ← (record.slot "entry").withDefault false Json.bool?
  let isPrimary ← (record.slot "primary").withDefault false Json.bool?
  return ⟨label, address, isEntry, isPrimary⟩

end DefaultLabel

structure Language where
  id : String
  spaces : List AddressSpace
  defaultSpace : String
  registers : List Register
  labels : List DefaultLabel
  blocks : List BlockDefinition
deriving DecidableEq, Repr

def findSpace? (spaces : List AddressSpace) (name : String) : Option AddressSpace :=
  spaces.find? fun space => space.name == name

/-- A number in hexadecimal below 2^64, with one optional mark and an optional plus sign. -/
def readOffset? (text : List Char) : Option UInt64 :=
  let digits :=
    match text with
    | '0' :: 'x' :: rest | '0' :: 'X' :: rest => rest
    | _ => text
  (Text.readBelow? 16 UInt64.size digits).map Nat.toUInt64

namespace Language

/-- A language with one space, which is its default space, and nothing else. -/
def make (id : String) (space : AddressSpace) : Language :=
  ⟨id, [space], space.name, [], [], []⟩

def space? (language : Language) (name : String) : Option AddressSpace :=
  findSpace? language.spaces name

def defaultSpace? (language : Language) : Option AddressSpace :=
  language.space? language.defaultSpace

def invalidAddress (language : Language) (text : String) : Failure :=
  .invalidAddress ("'" ++ text ++ "' in language " ++ language.id)

/-- The parts of a written address: its space, its segment where it has one, and its offset. -/
def addressParts? (language : Language) (text : List Char) :
    Option (String × Option (List Char) × List Char) :=
  match Text.split ':' (Text.trim text) with
  | [offset] => some (language.defaultSpace, none, offset)
  | [space, offset] => some (String.ofList space, none, offset)
  | [space, segment, offset] => some (String.ofList space, some segment, offset)
  | _ => none

/-- The address that a text denotes: an offset, alone or after a space or a space and a segment. -/
def parseAddress (language : Language) (text : String) : Except Failure Address :=
  let invalid := .error (language.invalidAddress text)
  match language.addressParts? text.toList with
  | none => invalid
  | some (spaceName, segment, offset) =>
      match language.space? spaceName, readOffset? offset with
      | some space, some offset =>
          match segment with
          | none => inRange (Address.inSpace space offset)
          | some segment =>
              match readOffset? segment with
              | some segment =>
                  if segment.toNat < UInt16.size ∧ offset.toNat < UInt16.size then
                    inRange (Address.segmented space segment.toUInt16 offset.toUInt16)
                  else invalid
              | none => invalid
      | _, _ => invalid
where
  inRange : Except String Address → Except Failure Address
    | .ok address => .ok address
    | .error reason => .error (.invalidAddress reason)

def withSpace (language : Language) (space : AddressSpace) : Language :=
  { language with spaces := language.spaces ++ [space] }

def withBlock (language : Language) (definition : BlockDefinition) : Language :=
  { language with blocks := language.blocks ++ [definition] }

def withRegister (language : Language) (name : String) (size : UInt16) (kind : RegisterKind)
    (address : String) : Except Failure Language :=
  match language.parseAddress address with
  | .ok address =>
      .ok { language with registers := language.registers ++ [⟨name, size, kind, address⟩] }
  | .error failure => .error failure

def withLabel (language : Language) (label address : String) (isEntry isPrimary : Bool) :
    Except Failure Language :=
  match language.parseAddress address with
  | .ok address =>
      .ok { language with labels := language.labels ++ [⟨label, address, isEntry, isPrimary⟩] }
  | .error failure => .error failure

def toJson (language : Language) : Json :=
  .obj [("id", .str language.id), ("spaces", .arr (language.spaces.map AddressSpace.toJson)),
    ("default_space", .str language.defaultSpace),
    ("registers", .arr (language.registers.map Register.toJson)),
    ("default_symbols", .arr (language.labels.map DefaultLabel.toJson)),
    ("default_memory_blocks", .arr (language.blocks.map BlockDefinition.toJson))]

def ofJson? (value : Json) : Option Language := do
  let record ← value.record?
    ["id", "spaces", "default_space", "registers", "default_symbols", "default_memory_blocks"]
  let id ← (record.slot "id").required Json.str?
  let spaces ← (record.slot "spaces").required (Json.list? AddressSpace.ofJson?)
  let defaultSpace ← (record.slot "default_space").required Json.str?
  let registers ← (record.slot "registers").withDefault [] (Json.list? Register.ofJson?)
  let labels ← (record.slot "default_symbols").withDefault [] (Json.list? DefaultLabel.ofJson?)
  let blocks ←
    (record.slot "default_memory_blocks").withDefault [] (Json.list? BlockDefinition.ofJson?)
  return ⟨id, spaces, defaultSpace, registers, labels, blocks⟩

def parse (text : String) : Except Failure Language :=
  match Json.decodeText ofJson? text with
  | .error failure => .error failure
  | .ok language =>
      if language.defaultSpace?.isSome then .ok language
      else
        .error (.invalidAddress ("default space '" ++ language.defaultSpace ++
          "' is not declared by language '" ++ language.id ++ "'"))

end Language

end ImageImport
