import ImageImport.Program.Basic

/-!
Contract: the stored form of a program.

Owns: what of a program is stored, and the JSON of it in both directions. The bytes of blocks are not
stored; of a block it is kept whether it had any.
-/

namespace ImageImport

structure BlockSnapshot where
  name : String
  start : Address
  length : UInt64
  permissions : Permissions
  isInitialized : Bool
  isOverlay : Bool
  isVolatile : Bool
deriving DecidableEq, Repr

namespace BlockSnapshot

def ofBlock (block : MemoryBlock) : BlockSnapshot :=
  ⟨block.name, block.start, block.length, block.permissions, block.isInitialized,
    block.isOverlay, block.isVolatile⟩

def toJson (block : BlockSnapshot) : Json :=
  .obj [("name", .str block.name), ("start", block.start.toJson),
    ("length", .ofNat block.length.toNat), ("perms", block.permissions.toJson),
    ("initialized", .bool block.isInitialized), ("overlay", .bool block.isOverlay),
    ("volatile", .bool block.isVolatile)]

def ofJson? (value : Json) : Option BlockSnapshot := do
  let record ← value.record?
    ["name", "start", "length", "perms", "initialized", "overlay", "volatile"]
  let name ← (record.slot "name").required Json.str?
  let start ← (record.slot "start").required Address.ofJson?
  let length ← (record.slot "length").required Json.uint64?
  let permissions ← (record.slot "perms").required Permissions.ofJson?
  let isInitialized ← (record.slot "initialized").required Json.bool?
  let isOverlay ← (record.slot "overlay").required Json.bool?
  let isVolatile ← (record.slot "volatile").required Json.bool?
  return ⟨name, start, length, permissions, isInitialized, isOverlay, isVolatile⟩

end BlockSnapshot

structure Snapshot where
  name : String
  language : String
  compiler : String
  properties : SortedMap String String
  imageBase : Option Address
  isAnalyzed : Bool
  blocks : List BlockSnapshot
  symbols : List Symbol
  entryPoints : List Address
  functions : List Function
deriving DecidableEq, Repr

namespace Snapshot

def ofProgram (program : Program) : Snapshot where
  name := program.name
  language := program.language.id
  compiler := program.compiler
  properties := program.state.properties
  imageBase := program.state.imageBase
  isAnalyzed := program.state.isAnalyzed
  blocks := program.memory.blocks.map BlockSnapshot.ofBlock
  symbols := program.symbols.toList
  entryPoints := program.symbols.entryPoints.keys
  functions := program.functions.toList

def propertiesToJson (properties : SortedMap String String) : Json :=
  .obj (properties.entries.map fun entry => (entry.1, .str entry.2))

def readProperty? (member : String × Json) : Option (String × String) :=
  member.2.str?.map fun value => (member.1, value)

/-- Properties by name; of a name that stands twice the last counts. -/
def propertiesOfJson? : Json → Option (SortedMap String String)
  | .obj members =>
      (members.mapM readProperty?).map SortedMap.ofList
  | _ => none

def toJson (snapshot : Snapshot) : Json :=
  .obj [("name", .str snapshot.name), ("language_id", .str snapshot.language),
    ("compiler_spec_id", .str snapshot.compiler),
    ("properties", propertiesToJson snapshot.properties),
    ("image_base", .ofOption Address.toJson snapshot.imageBase),
    ("analyzed", .bool snapshot.isAnalyzed),
    ("blocks", .arr (snapshot.blocks.map BlockSnapshot.toJson)),
    ("symbols", .arr (snapshot.symbols.map Symbol.toJson)),
    ("entry_points", .arr (snapshot.entryPoints.map Address.toJson)),
    ("functions", .arr (snapshot.functions.map Function.toJson))]

def ofJson? (value : Json) : Option Snapshot := do
  let record ← value.record?
    ["name", "language_id", "compiler_spec_id", "properties", "image_base", "analyzed", "blocks",
      "symbols", "entry_points", "functions"]
  let name ← (record.slot "name").required Json.str?
  let language ← (record.slot "language_id").required Json.str?
  let compiler ← (record.slot "compiler_spec_id").required Json.str?
  let properties ← (record.slot "properties").required propertiesOfJson?
  let imageBase ← (record.slot "image_base").nullable Address.ofJson?
  let isAnalyzed ← (record.slot "analyzed").required Json.bool?
  let blocks ← (record.slot "blocks").required (Json.list? BlockSnapshot.ofJson?)
  let symbols ← (record.slot "symbols").required (Json.list? Symbol.ofJson?)
  let entryPoints ← (record.slot "entry_points").required (Json.list? Address.ofJson?)
  let functions ← (record.slot "functions").required (Json.list? Function.ofJson?)
  return ⟨name, language, compiler, properties, imageBase, isAnalyzed, blocks, symbols,
    entryPoints, functions⟩

def parse (text : String) : Except Failure Snapshot :=
  Json.decodeText ofJson? text

end Snapshot

end ImageImport
