import ImageImport.ByteSource
import ImageImport.Load.Config
import ImageImport.Load.Log
import ImageImport.Load.Spec
import ImageImport.Store.Storage

/-!
Contract: what a load works with besides the programs it makes.

Owns: the state that a load shares with its loader, and the request it makes of one.
-/

namespace ImageImport

structure Surroundings (σ : Type) where
  streamsOpened : Nat
  log : Log
  monitor : Monitor
  store : σ

namespace Surroundings

variable {σ : Type}

def note (surroundings : Surroundings σ) (message : String) : Surroundings σ :=
  { surroundings with log := surroundings.log.add message }

def checkCancelled : Attempt (Surroundings σ) Unit :=
  .of fun surroundings =>
    let (result, monitor) := surroundings.monitor.check
    (result, { surroundings with monitor })

def changeMonitor (change : Monitor → Monitor) : Attempt (Surroundings σ) Unit :=
  .of fun surroundings =>
    (.ok (), { surroundings with monitor := change surroundings.monitor })

def addMessages (messages : List String) : Attempt (Surroundings σ) Unit :=
  .of fun surroundings =>
    (.ok (), { surroundings with log := surroundings.log.addAll messages })

/-- A step of the storage, which polls the monitor. -/
def storing {α : Type} (step : Attempt (Monitor × σ) α) : Attempt (Surroundings σ) α :=
  step.onPart (fun surroundings => (surroundings.monitor, surroundings.store))
    fun surroundings part => { surroundings with monitor := part.1, store := part.2 }

def onStore {α : Type} (step : Attempt σ α) : Attempt (Surroundings σ) α :=
  step.onPart Surroundings.store fun surroundings store => { surroundings with store }

def streaming {α : Type} (step : Attempt Nat α) : Attempt (Surroundings σ) α :=
  step.onPart Surroundings.streamsOpened fun surroundings streamsOpened =>
    { surroundings with streamsOpened }

end Surroundings

structure LoadRequest where
  source : ByteSource
  /-- The caller's name for the first program. -/
  name : String
  spec : LoadSpec
  options : List LoadOption
  consumer : Consumer
  /-- The time of the load, as programs record it. -/
  createdAt : String

/-- A program made by a loader, and the folder it is to be stored in, if in any. -/
structure Candidate (κ : Type) where
  program : Program
  destination : Option κ

def Candidate.describe {κ : Type} (pathText : κ → String) (candidate : Candidate κ) : String :=
  "LoadedProgram \x7b program: " ++ candidate.program.describe ++ ", destination: " ++
    (match candidate.destination with
      | some folder => "Some(" ++ Text.quoted (pathText folder) ++ ")"
      | none => "None") ++ " \x7d"

structure Loader (κ σ : Type) where
  name : String
  /-- Whether the first program is stored under the caller's name, instead of all of them under
  their own in a folder of that name. -/
  overridesPrimaryName : Bool
  /-- The programs of a source, the first one first, for the folder that they go to. -/
  extract : LoadRequest → Option κ → Attempt (Surroundings σ) (List (Candidate κ))
  /-- Adds a source to a program, and whether that was possible. -/
  mergeInto : ByteSource → LoadSpec → List LoadOption → Attempt (Program × Surroundings σ) Bool
  /-- What is left to do once every candidate is labelled and stored. -/
  fixups : List LoadOption → Attempt (List (Candidate κ) × Surroundings σ) Unit
  defaultOptions : Bool → List LoadOption
  validateOptions : List LoadOption → Except String Unit

end ImageImport
