import ImageImport.Program.Change

/-!
Contract: the memory blocks that a target language wants every program to have.

Each definition is tried by itself. One that conflicts, overflows or has no address is left out, with
a word to the log.

Owns: the making of default blocks, and the names of new blocks.
-/

namespace ImageImport.Program

/-- What the log is told of a definition that was refused, unless the refusal is not about it. -/
def refusalMessages? (definition : BlockDefinition) : Failure → Option (List String)
  | .memoryConflict _ =>
      some ["Failed to add language defined memory block due to conflict: " ++ definition.text]
  | .addressOverflow reason =>
      some
        ["Failed to add language defined memory block due to address error " ++ definition.text,
          " >> " ++ reason]
  | .invalidAddress reason =>
      some
        ["Failed to add language defined memory block due to invalid address: " ++
            definition.text,
          " >> Language definition error: " ++ reason]
  | _ => none

/-- Makes the blocks of definitions in turn, and gives the messages for the log. -/
def createBlocks : List BlockDefinition → Attempt Program (List String)
  | [] => return []
  | definition :: rest => do
      let program ← get
      match program.createBlock definition with
      | .ok created =>
          set created
          createBlocks rest
      | .error failure =>
          match refusalMessages? definition failure with
          | some messages => return messages ++ (← createBlocks rest)
          | none => throw failure

/-- Makes the default blocks of a language, and gives the messages for the log. -/
def createDefaultBlocks (language : Language) : Attempt Program (List String) :=
  if language.blocks.isEmpty then return []
  else committing "Create default blocks" (createBlocks language.blocks)

def maxOverlayNames : Nat := 999

/-- The name of a new block: that of its space, or for an overlay the first of ov1, ov2 and so on
that is no space of the program. Past the last of these the name ends in `stamp`. -/
def blockName (program : Program) (isOverlay : Bool) (space : AddressSpace) (stamp : String) :
    String :=
  if isOverlay then
    (((List.range' 1 maxOverlayNames).map fun n => "ov" ++ Text.decimal n).find? fun name =>
      (program.space? name).isNone).getD ("ov" ++ stamp)
  else space.name

end ImageImport.Program
