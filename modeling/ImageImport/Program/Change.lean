import ImageImport.Program.Transaction

/-!
Contract: the changes that a program allows while a transaction is open.

Every change leaves a note for the listeners. A change of the symbol or function table leaves its
note before the table has accepted it.

Owns: the checks in front of a change, and the making of memory blocks from definitions.
-/

namespace ImageImport.Program

/-- Why the program may not be changed now. -/
def refusal? (program : Program) : Option Failure :=
  if program.isClosed then some (.programClosed program.name)
  else if program.transaction.isNone then some (.noTransaction program.name)
  else none

/-- Only an open program with an open transaction may be changed. -/
theorem nested_of_no_refusal {program : Program} (noRefusal : program.refusal? = none) :
    program.isClosed = false ∧ ∃ nest, program.transaction = some nest := by
  unfold refusal? at noRefusal
  split at noRefusal
  · contradiction
  · next isOpen =>
      cases held : program.transaction with
      | none => simp [held] at noRefusal
      | some nest => exact ⟨Bool.eq_false_iff.mpr isOpen, nest, rfl⟩

def noteChange (program : Program) (what : String) : Program :=
  { program with
    transaction := program.transaction.map fun nest =>
      { nest with pending := nest.pending ++ [what] } }

/-- The program ready for a change, with the note left. -/
def writable (program : Program) (what : String) : Except Failure Program :=
  match program.refusal? with
  | some failure => .error failure
  | none => .ok (program.noteChange what)

/-- In a transaction of an open program, getting ready for a change only leaves the note. -/
theorem writable_of_nested {program : Program} {nest : OpenTransaction}
    (isOpen : program.isClosed = false) (held : program.transaction = some nest) (what : String) :
    program.writable what = .ok { program with
      transaction := some { nest with pending := nest.pending ++ [what] } } := by
  simp [writable, refusal?, isOpen, held, noteChange]

/-- A change of the state that cannot fail once the program allows it. -/
def changeState (program : Program) (what : String) (change : ProgramState → ProgramState) :
    Except Failure Program :=
  match program.writable what with
  | .error failure => .error failure
  | .ok ready => .ok { ready with state := change ready.state }

def changeSymbols {α : Type} (program : Program)
    (change : SymbolTable → Except Failure (α × SymbolTable)) : Except Failure α × Program :=
  match program.writable "symbols" with
  | .error failure => (.error failure, program)
  | .ok ready =>
      match change ready.state.symbols with
      | .error failure => (.error failure, ready)
      | .ok (value, symbols) => (.ok value, { ready with state := { ready.state with symbols } })

def changeFunctions {α : Type} (program : Program)
    (change : FunctionTable → Except Failure (α × FunctionTable)) : Except Failure α × Program :=
  match program.writable "functions" with
  | .error failure => (.error failure, program)
  | .ok ready =>
      match change ready.state.functions with
      | .error failure => (.error failure, ready)
      | .ok (value, functions) =>
          (.ok value, { ready with state := { ready.state with functions } })

def setProperty (program : Program) (key value : String) : Except Failure Program :=
  program.changeState "properties" fun state =>
    { state with properties := state.properties.insert key value }

def setAnalyzed (program : Program) (isAnalyzed : Bool) : Except Failure Program :=
  program.changeState "analysis state" fun state => { state with isAnalyzed }

/-- Sets the image base, which has to lie in a space of the program. -/
def setImageBase (program : Program) (base : Address) : Except Failure Program :=
  if (program.space? base.space).isNone then .error (.invalidAddress base.text)
  else program.changeState "image base" fun state => { state with imageBase := some base }

/-- Adds a block. A space that the program does not know yet is added too if it is an overlay. -/
def addMemoryBlock (program : Program) (space : AddressSpace) (block : MemoryBlock) :
    Except Failure Program :=
  match program.refusal? with
  | some failure => .error failure
  | none =>
      let known := program.state.spaces.any fun declared => declared.name == space.name
      if ¬ known ∧ ¬ space.isOverlay then
        .error (.invalidAddress ("space '" ++ space.name ++ "' is not part of this program"))
      else
        match program.state.memory.add space block with
        | .error failure => .error failure
        | .ok memory =>
            let spaces :=
              if known then program.state.spaces else program.state.spaces ++ [space]
            .ok ({ program with state := { program.state with memory, spaces } }.noteChange
              "memory")

def overlaySpace (definition : BlockDefinition) (under : AddressSpace) :
    Except Failure AddressSpace :=
  match AddressSpace.make definition.name .overlay under.bits (some under.name) with
  | .ok space => .ok space
  | .error reason => .error (.invalidAddress reason)

/-- The space and the start of the block that a definition describes. -/
def placeOf (program : Program) (definition : BlockDefinition) :
    Except Failure (AddressSpace × Address) := do
  let start ← program.language.parseAddress definition.address
  match program.space? start.space with
  | none => .error (.invalidAddress definition.address)
  | some space =>
      if definition.isOverlay then
        if (program.space? definition.name).isSome then
          .error (.memoryConflict ("address space '" ++ definition.name ++ "' already exists"))
        else
          let overlay ← overlaySpace definition space
          match Address.inSpace overlay start.offset with
          | .ok start => .ok (overlay, start)
          | .error reason => .error (.invalidAddress reason)
      else .ok (space, start)

def blockOf (definition : BlockDefinition) (start : Address) : MemoryBlock where
  name := definition.name
  start := start
  length := definition.length
  permissions := definition.permissions
  isVolatile := definition.isVolatile
  isOverlay := definition.isOverlay
  contents := if definition.isInitialized then .filled 0 else .uninitialized
  origin := "Default Block"

def createBlock (program : Program) (definition : BlockDefinition) : Except Failure Program := do
  let (space, start) ← program.placeOf definition
  program.addMemoryBlock space (blockOf definition start)

def createLabel (program : Program) (address : Address) (name : String) (source : NameSource) :
    Except Failure Symbol × Program :=
  program.changeSymbols fun table => table.create address name source

/-- Makes a label the primary one at its address, and whether there is such a label. -/
def setPrimaryLabel (program : Program) (address : Address) (name : String) :
    Except Failure Bool × Program :=
  program.changeSymbols fun table => .ok (table.setPrimary address name)

/-- Pins a label, or lets it go, and whether there is such a label. -/
def setPinnedLabel (program : Program) (address : Address) (name : String) (pinned : Bool) :
    Except Failure Bool × Program :=
  program.changeSymbols fun table => .ok (table.setPinned address name pinned)

def createFunction (program : Program) (function : Function) :
    Except Failure Function × Program :=
  program.changeFunctions fun table => table.create function

/-- The function of one byte that marks an entry. -/
def entryFunction (name : Option String) (entry : Address) : Function :=
  ⟨name, entry, 1, .imported⟩

/-- Makes sure that some function covers the entry. A function already at the entry stays as it is,
and one that covers it from elsewhere is left alone. -/
def markFunction (program : Program) (name : Option String) (entry : Address) :
    Except Failure Unit × Program :=
  if (program.functions.functionAt? entry).isSome then (.ok (), program)
  else
    match program.createFunction (entryFunction name entry) with
    | (.ok _, marked) => (.ok (), marked)
    | (.error (.overlappingFunction _), unmarked) => (.ok (), unmarked)
    | (.error (.invalidAddress _), unmarked) => (.ok (), unmarked)
    | (.error failure, unmarked) => (.error failure, unmarked)

end ImageImport.Program
