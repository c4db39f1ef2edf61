import ImageImport.Load.Option
import ImageImport.Program.Change

/-!
Contract: the labels that a target processor gives a program.

Registers in memory always get a pinned primary label. The default labels of the language are given
where the options ask for them. A label that the table refuses is left out.

Owns: which labels are created, and with which marks.
-/

namespace ImageImport.Program

structure LabelRequest where
  name : String
  address : Address
  isEntry : Bool
  isPrimary : Bool
  isPinned : Bool
deriving DecidableEq, Repr

/-- Creates the label of a request and marks it, unless its name is taken or no name. -/
def requestLabel (request : LabelRequest) (table : SymbolTable) :
    Except Failure (Unit × SymbolTable) :=
  match table.create request.address request.name .imported with
  | .error (.duplicateSymbol _ _) => .ok ((), table)
  | .error (.invalidSymbolName _) => .ok ((), table)
  | .error failure => .error failure
  | .ok (_, created) =>
      let (_, pinned) := created.setPinned request.address request.name request.isPinned
      let entered := if request.isEntry then pinned.addEntryPoint request.address else pinned
      let (_, marked) :=
        if request.isPrimary then entered.setPrimary request.address request.name
        else (true, entered)
      .ok ((), marked)

def createRequestedLabel (request : LabelRequest) : Attempt Program Unit :=
  .of fun program => program.changeSymbols (requestLabel request)

/-- The requests of a language: its registers in memory, and then its labels if they are wanted. -/
def labelRequests (language : Language) (options : List LoadOption) : List LabelRequest :=
  let ofRegisters := (language.registers.filter Register.isMemoryMapped).map fun register =>
    ⟨register.name, register.address, false, true, true⟩
  let anchor := LoadOption.booleanValue LoadOption.anchorLabelsName options true
  let ofLabels := language.labels.map fun label =>
    ⟨label.label, label.address, label.isEntry, label.isPrimary, anchor⟩
  if LoadOption.booleanValue LoadOption.applyLabelsName options true then ofRegisters ++ ofLabels
  else ofRegisters

/-- Creates the labels of the program's language in an open transaction; the program then counts as
not analyzed. -/
def createProcessorLabels (options : List LoadOption) : Attempt Program Unit := do
  let program ← get
  (labelRequests program.language options).forM createRequestedLabel
  .ofChange fun program => program.setAnalyzed false

/-- Creates the labels of the program's language in a transaction that always commits. -/
def applyProcessorLabels (options : List LoadOption) : Attempt Program Unit :=
  committing "Finalize load" (createProcessorLabels options)

end ImageImport.Program
