import ImageImport.Load.DefaultBlocks
import ImageImport.Load.Identity
import ImageImport.Load.Surroundings

/-!
Contract: images without a format of their own.

The whole source becomes one block of the default space of the language, at a base that an option
sets. Merged into a program, it comes right behind what the space already holds.

Owns: the loader `BinaryLoader.loader`, its options and its placement.
-/

namespace ImageImport.BinaryLoader

def formatName : String := "Raw Binary"

def baseAddressName : String := "Base Address"

def entryFunctionName : String := "Create Entry Function"

def baseOffset (options : List LoadOption) : Except Failure UInt64 :=
  match options.find? fun option => option.name == baseAddressName with
  | none => .ok 0
  | some option =>
      match option.value with
      | .int value =>
          if value.toInt < 0 then
            .error (.invalidOption ("negative base address " ++ Text.decimalInt value.toInt))
          else .ok value.toInt.toNat.toUInt64
      | value =>
          .error (.invalidOption
            (baseAddressName ++ " must be an integer, got '" ++ value.text ++ "'"))

def sourceBlock (name : String) (start : Address) (source : ByteSource) :
    Except Failure MemoryBlock :=
  match source.read 0 source.size with
  | .error fault => .error (.source fault)
  | .ok bytes =>
      .ok ⟨name, start, source.size, .all, false, false, .bytes bytes, source.originText⟩

/-- Maps the source at the base, and marks the base as a function where the options ask for it.
Gives the messages for the log. -/
def mapSource (source : ByteSource) (space : AddressSpace) (base : Address)
    (options : List LoadOption) : Attempt Program (List String) := do
  let messages ←
    if source.isEmpty then pure ["Source is empty; no bytes were loaded"]
    else do
      let program ← get
      let block ← Attempt.ofExcept (sourceBlock (program.blockName false space "") base source)
      Attempt.ofChange fun program => program.addMemoryBlock space block
      pure []
  if LoadOption.booleanValue entryFunctionName options false then
    Attempt.of fun program => program.markFunction (some "entry") base
  return messages

/-- Fills a new program: the bytes of the source, and then the default blocks of the language. -/
def populate (source : ByteSource) (base : UInt64) (options : List LoadOption) :
    Attempt Program (List String) := do
  let language := (← get).language
  match language.defaultSpace? with
  | none => throw (.invalidAddress ("language " ++ language.id ++ " has no default space"))
  | some space =>
      match Address.inSpace space base with
      | .error reason => throw (.invalidAddress reason)
      | .ok start =>
          let messages ←
            Program.withTransaction "Load raw binary" (mapSource source space start options)
          return messages ++ (← Program.createDefaultBlocks language)

/-- The address of the base, where the default space of the language has it. -/
def imageBase? (language : Language) (base : UInt64) : Option Address :=
  match language.defaultSpace? with
  | none => none
  | some space =>
      match Address.inSpace space base with
      | .ok address => some address
      | .error _ => none

def extract {κ σ : Type} (request : LoadRequest) (folder : Option κ) :
    Attempt (Surroundings σ) (List (Candidate κ)) := do
  Surroundings.checkCancelled
  let base ← Attempt.ofExcept (baseOffset request.options)
  let language := request.spec.language
  let program ← Surroundings.streaming
    (Program.create request.source request.name (imageBase? language base) (some formatName)
      language request.spec.compiler request.consumer request.createdAt)
  match (populate request.source base request.options).apply program with
  | (.error failure, _) => throw failure
  | (.ok messages, populated) =>
      Surroundings.addMessages messages
      return [⟨populated, folder⟩]

/-- The names to try for a block: the base, and then the base with 1, 2 and so on behind it. -/
def numberedName (base : String) : Nat → String
  | 0 => base
  | n + 1 => base ++ "_" ++ Text.decimal (n + 1)

/-- The first of the numbered names that no block has; one more name than there are blocks is
enough. -/
def uniqueBlockName (memory : Memory) (base : String) : String :=
  (((List.range (memory.size + 1)).map (numberedName base)).find? fun name =>
    (memory.block? name).isNone).getD base

def nextAddress (memory : Memory) (space : AddressSpace) : Except String Address :=
  match memory.maxEndOffset? space.name with
  | none => Address.inSpace space 0
  | some last =>
      match Address.inSpace space last with
      | .ok address => address.add 1
      | .error reason => .error reason

/-- Adds the source behind what its space holds: whether that was possible, and the messages for
the log. -/
def appendSource (source : ByteSource) (spec : LoadSpec) (program : Program) :
    Except Failure (Bool × List String × Program) :=
  match program.space? spec.language.defaultSpace with
  | none =>
      .ok (false, ["Program has no '" ++ spec.language.defaultSpace ++ "' address space"], program)
  | some space =>
      match nextAddress program.memory space with
      | .error _ => .ok (false, ["No room left in space '" ++ space.name ++ "'"], program)
      | .ok start =>
          let name := uniqueBlockName program.memory (source.programName "merged")
          match sourceBlock name start source with
          | .error failure => .error failure
          | .ok block =>
              match program.addMemoryBlock space block with
              | .ok merged => .ok (true, [], merged)
              | .error (.memoryConflict reason) =>
                  .ok (false, [(Failure.memoryConflict reason).report], program)
              | .error (.addressOverflow reason) =>
                  .ok (false, [(Failure.addressOverflow reason).report], program)
              | .error failure => .error failure

def mergeInto {σ : Type} (source : ByteSource) (spec : LoadSpec) (_options : List LoadOption) :
    Attempt (Program × Surroundings σ) Bool :=
  .of fun (program, surroundings) =>
    match Surroundings.checkCancelled.apply surroundings with
    | (.error failure, polled) => (.error failure, program, polled)
    | (.ok (), polled) =>
        if source.isEmpty then
          (.ok false, program, polled.note "Source is empty; nothing to merge")
        else
          match appendSource source spec program with
          | .error failure => (.error failure, program, polled)
          | .ok (merged, messages, changed) =>
              (.ok merged, changed, { polled with log := polled.log.addAll messages })

/-- The options of the loader; a load into a program has neither base nor entry. -/
def defaultOptions (config : Config) (isLoadInto : Bool) : List LoadOption :=
  let stem := config.naming.flagStem
  let known := (LoadOption.defaults config.labels.apply stem).map fun option =>
    if option.name = LoadOption.anchorLabelsName then
      { option with value := .bool config.labels.anchor }
    else option
  if isLoadInto then known
  else
    known ++
      [⟨baseAddressName, .int 0, .int, some (stem ++ "-baseAddr")⟩,
        LoadOption.boolean entryFunctionName false (stem ++ "-entryFunction")]

def ownType? (name : String) : Option OptionType :=
  if name = baseAddressName then some .int
  else if name = entryFunctionName then some .bool
  else none

def validateOptions (options : List LoadOption) : Except String Unit :=
  match LoadOption.validate options with
  | .error complaint => .error complaint
  | .ok () =>
      match LoadOption.firstComplaint? ownType? options with
      | some complaint => .error complaint
      | none => .ok ()

def loader (κ σ : Type) (config : Config) : Loader κ σ where
  name := formatName
  overridesPrimaryName := true
  extract := extract
  mergeInto := mergeInto
  fixups _ := pure ()
  defaultOptions := defaultOptions config
  validateOptions := validateOptions

end ImageImport.BinaryLoader
