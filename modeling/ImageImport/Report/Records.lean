import ImageImport.Json.Member
import ImageImport.Load.Identity
import ImageImport.Load.Surroundings
import ImageImport.Report.Basic

/-!
Contract: what tools are shown of programs and of their parts.

A record has the text of a value beside its stored form, and what follows from it. Records are for
reading: nothing takes one back.
-/

namespace ImageImport.Report

instance : Reported Address := ⟨Address.toJson⟩

instance : Reported AddressSpace := ⟨AddressSpace.toJson⟩

instance : Reported Function := ⟨Function.toJson⟩

instance : Reported LoadOption := ⟨LoadOption.toJson⟩

def ofPlace (address : Address) : Json :=
  .obj [("address", address), ("text", address.text)]

def ofAddress (address : Address) : Json :=
  (ofPlace address).append [("memory", address.isMemory), ("segmented", address.isSegmented)]

def ofSpace (space : AddressSpace) : Json :=
  .obj [("space", space), ("text", space.name), ("kind", space.kind.text),
    ("memory", space.isMemory), ("overlay", space.isOverlay), ("max", space.maxOffset)]

def ofRegister (register : Register) : Json :=
  .obj [("text", register.text), ("bytes", register.sizeInBytes),
    ("mapped", register.isMemoryMapped), ("kind", register.kind.text)]

def ofPermissions (permissions : Permissions) : Json :=
  .obj [("bits", permissions.bits), ("text", permissions.text), ("json", permissions.toJson)]

def ofLocator (locator : Locator) : Json :=
  .obj [("path", locator.path), ("name", locator.name), ("md5", locator.md5),
    ("sha256", locator.sha256), ("text", locator.text)]

/-- The digests of bytes in memory, and of what a reader hands out. -/
def ofDigests (bytes : List UInt8) (reader : Reader) (bufferSize : Nat) : Json :=
  .obj [("md5", Digest.Md5.scheme.hexDigest bytes),
    ("sha256", Digest.Sha256.scheme.hexDigest bytes),
    ("md5_reader", Digest.Md5.scheme.hexDigestOfReader reader bufferSize),
    ("sha256_reader", Digest.Sha256.scheme.hexDigestOfReader reader bufferSize)]

def ofSymbol (symbol : Symbol) : Json :=
  .obj [("text", symbol.text), ("value", symbol.toJson), ("source", symbol.source.text)]

def markedText (symbol : Symbol) : String :=
  symbol.text ++ if symbol.isPrimary then " *" else ""

/-- Where a function lies, and its name. -/
def ofExtent (function : Function) : Json :=
  .arr [function.entry.text, function.length, function.name]

def ofSpec (spec : LoadSpec) : Json := .arr [spec.text, spec.isComplete]

def ofBlock (block : MemoryBlock) : Json :=
  .obj [("text", block.text), ("end", block.endOffset), ("start", block.start),
    ("init", block.isInitialized), ("volatile", block.isVolatile),
    ("overlay", block.isOverlay), ("source", block.origin)]

def ofByte (memory : Memory) (name : String) (address : Address) : Json :=
  (memory.block? name).map fun block => Json.obj
    [("in", block.contains address), ("byte", block.byteAt? address)]

def ofOption (option : LoadOption) : Json :=
  .arr [option.name, option.value.text, option.declaredType.text, option.flag,
    option.value.asBool?]

def ofCause (failure : Failure) : Json :=
  .obj [("kind", failure.kind), ("text", failure.message), ("chain", failure.report),
    ("cancelled", failure.isCancelled)]

def ofLog (log : Log) : Json :=
  .obj [("messages", log.messages), ("text", log.text), ("len", log.size), ("has", !log.isEmpty),
    ("empty", log.isEmpty)]

/-- How far a load has come, and whether a poll has just seen it cancelled. -/
def ofMonitor (isCancelled : Bool) (monitor : Monitor) : Json :=
  .obj [("cancelled", isCancelled), ("message", monitor.message), ("maximum", monitor.maximum),
    ("progress", monitor.progress)]

/-- How far a load has come, in short. -/
def ofProgress (isCancelled : Bool) (monitor : Monitor) : Json :=
  .arr [monitor.progress, monitor.maximum, monitor.message, isCancelled]

def shownProperty (key value : String) : String :=
  if key = Property.created then "<date>" else value

def ofSnapshot (snapshot : Snapshot) : Json :=
  let shown := snapshot.properties.entries.map fun entry =>
    (entry.1, shownProperty entry.1 entry.2)
  { snapshot with properties := ⟨shown⟩ : Snapshot }.toJson

/-- How much a program holds, and what state it is in. -/
def ofProgram (program : Program) : Json :=
  .obj [("tx", program.hasTransaction), ("events", program.eventsEnabled),
    ("closed", program.isClosed), ("blocks", program.memory.size),
    ("symbols", program.symbols.size), ("functions", program.functions.size),
    ("props", program.state.properties.entries.length), ("spaces", program.state.spaces.length),
    ("analyzed", program.state.isAnalyzed), ("base", program.state.imageBase.map Address.text)]

def ofOrigin (program : Program) : Json :=
  .obj [("name", program.name), ("compiler", program.compiler), ("language", program.language.id),
    ("path", program.property? Property.path), ("format", program.property? Property.format),
    ("md5", program.property? Property.md5), ("sha256", program.property? Property.sha256),
    ("fsrl", program.property? Property.locator), ("default_space", program.defaultSpace?),
    ("debug", program.describe)]

/-- A program that a load has made for a consumer, and where it is stored. -/
def ofCandidate {κ : Type} (pathText : κ → String) (consumer : Consumer)
    (candidate : Candidate κ) : Json :=
  .obj [("name", candidate.program.name), ("dest", candidate.destination.map pathText),
    ("owned", candidate.program.isOwnedBy consumer), ("state", ofProgram candidate.program)]

def eventText : Event → String
  | .changed what => "Changed " ++ what
  | .restored => "Restored"
  | .closed => "Closed"

end ImageImport.Report
