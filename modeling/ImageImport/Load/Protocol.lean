import ImageImport.Load.FreeName
import ImageImport.Load.Labels

/-!
Contract: how a source is loaded, into new programs or into one that exists.

A load labels and stores the candidates of a loader in turn. A candidate that cannot be stored is let
go; any other failure lets go of all of them. A load into a program happens in one transaction, which
commits if the loader reports success.

Owns: `load` and `loadInto`, and who keeps which program after them.
Does not own: formats and storages.
-/

namespace ImageImport

variable {κ σ : Type}

/-- A candidate on its way through a load, and whether it is still wanted. -/
structure Progressed (κ : Type) where
  candidate : Candidate κ
  isKept : Bool

/-- What a load gives: its result, and the programs that it let go, in that order. -/
structure LoadOutcome (κ : Type) where
  result : Except Failure (List (Candidate κ))
  dropped : List Program

namespace Load

/-- Labels the program of a candidate and opens its gate for events. -/
def label (options : List LoadOption) : Attempt (Candidate κ × Surroundings σ) Unit :=
  .of fun (candidate, surroundings) =>
    match (Program.applyProcessorLabels options).apply candidate.program with
    | (.error failure, program) =>
        (.error failure, { candidate with program }, surroundings)
    | (.ok (), program) =>
        (.ok (), { candidate with program := program.setEventsEnabled true }, surroundings)

def around {α : Type} (step : Attempt (Surroundings σ) α) :
    Attempt (Candidate κ × Surroundings σ) α :=
  .of fun (candidate, surroundings) =>
    let (result, after) := step.apply surroundings
    (result, candidate, after)

/-- Gives up a consumer's claim on the program of a candidate. -/
def letGo (consumer : Consumer) (candidate : Candidate κ) : Candidate κ :=
  { candidate with program := (candidate.program.release consumer).2 }

def progressText (program : Program) (index total : Nat) : String :=
  "Finishing " ++ program.name ++ " (" ++ Text.decimal (index + 1) ++ " of " ++
    Text.decimal total ++ ")"

def fileName (loader : Loader κ σ) (request : LoadRequest) (program : Program) (index : Nat) :
    String :=
  if index = 0 ∧ loader.overridesPrimaryName then request.name else program.name

/-- Labels and stores one candidate, and whether it is still wanted. -/
def finish (storage : Storage κ σ) (loader : Loader κ σ) (request : LoadRequest)
    (index total : Nat) : Attempt (Candidate κ × Surroundings σ) Bool := do
  around Surroundings.checkCancelled
  let program := (← get).1.program
  around (Surroundings.changeMonitor fun monitor =>
    monitor.setMessage (progressText program index total))
  label request.options
  let candidate := (← get).1
  let saved ←
    match candidate.destination with
    | none => pure true
    | some folder =>
        around (storage.saveUnderFreeName folder
          (fileName loader request candidate.program index) candidate.program)
  unless saved do
    modify fun (candidate, surroundings) => (letGo request.consumer candidate, surroundings)
  around (Surroundings.changeMonitor fun monitor => monitor.advance 1)
  return saved

/-- Labels and stores candidates in turn, up to the first failure. -/
def finishAll (storage : Storage κ σ) (loader : Loader κ σ) (request : LoadRequest)
    (total : Nat) : Nat → List (Candidate κ) → Surroundings σ →
      Except Failure Unit × List (Progressed κ) × Surroundings σ
  | _, [], surroundings => (.ok (), [], surroundings)
  | index, candidate :: rest, surroundings =>
      match (finish storage loader request index total).apply (candidate, surroundings) with
      | (.error failure, candidate, after) =>
          (.error failure, (candidate :: rest).map fun other => ⟨other, true⟩, after)
      | (.ok isKept, candidate, after) =>
          let (result, others, last) :=
            finishAll storage loader request total (index + 1) rest after
          (result, ⟨candidate, isKept⟩ :: others, last)

def rejected (candidates : List (Progressed κ)) : List Program :=
  (candidates.filter fun progressed => !progressed.isKept).map fun progressed =>
    progressed.candidate.program

/-- The outcome of a load that failed: the consumer's claims on all candidates are given up. -/
def abort (consumer : Consumer) (candidates : List (Progressed κ)) (failure : Failure) :
    LoadOutcome κ :=
  let released := candidates.map fun progressed =>
    { progressed with candidate := letGo consumer progressed.candidate }
  let kept := (released.filter Progressed.isKept).map fun progressed =>
    progressed.candidate.program
  ⟨.error failure, rejected released ++ kept⟩

/-- The folder that candidates go to: the one given, or one of the request's name within it. -/
def destination (storage : Storage κ σ) (loader : Loader κ σ) (name : String) :
    Option κ → Attempt (Surroundings σ) (Option κ)
  | none => pure none
  | some folder =>
      if loader.overridesPrimaryName then pure (some folder)
      else do return some (← Surroundings.onStore (storage.createFolder folder name))

def candidates (storage : Storage κ σ) (loader : Loader κ σ) (request : LoadRequest)
    (folder : Option κ) : Attempt (Surroundings σ) (List (Candidate κ)) := do
  match loader.validateOptions request.options with
  | .error complaint => throw (.invalidOption complaint)
  | .ok () =>
      let folder ← destination storage loader request.name folder
      loader.extract request folder

end Load

open Load in
/-- Loads what a request asks for. The result has the programs that were stored, and those that had
no destination. A spec that is not complete loads nothing. -/
def load (storage : Storage κ σ) (loader : Loader κ σ) (request : LoadRequest)
    (folder : Option κ) (surroundings : Surroundings σ) : LoadOutcome κ × Surroundings σ :=
  if ¬ request.spec.isComplete then (⟨.ok [], []⟩, surroundings)
  else
    match (candidates storage loader request folder).apply surroundings with
    | (.error failure, after) => (⟨.error failure, []⟩, after)
    | (.ok extracted, after) =>
        let started := { after with
          monitor := after.monitor.setMaximum extracted.length.toUInt64 }
        match finishAll storage loader request extracted.length 0 extracted started with
        | (.error failure, progressed, after) =>
            (abort request.consumer progressed failure, after)
        | (.ok (), progressed, after) =>
            match (loader.fixups request.options).apply
                (progressed.map Progressed.candidate, after) with
            | (result, fixed, after) =>
                let progressed := List.zipWith
                  (fun candidate earlier => ⟨candidate, Progressed.isKept earlier⟩)
                  fixed progressed
                match result with
                | .error failure => (abort request.consumer progressed failure, after)
                | .ok () =>
                    (⟨.ok ((progressed.filter Progressed.isKept).map Progressed.candidate),
                      rejected progressed⟩, after)

def mergeCommits : Except Failure Bool → Bool
  | .ok merged => merged
  | .error _ => false

/-- Adds a source to a program through a loader, and whether that was possible. Listeners hear that
the program is restored, whatever happened. A spec that is not complete changes nothing. -/
def loadInto (loader : Loader κ σ) (source : ByteSource) (spec : LoadSpec)
    (options : List LoadOption) : Attempt (Program × Surroundings σ) Bool :=
  .of fun (program, surroundings) =>
    if ¬ spec.isComplete then (.ok false, program, surroundings)
    else if program.isClosed then (.error (.programClosed program.name), program, surroundings)
    else
      let body (program : Program) : (Except Failure Bool × Surroundings σ) × Program :=
        let (merged, changed, after) :=
          (loader.mergeInto source spec options).apply (program, surroundings)
        ((merged, after), changed)
      let quiet := program.setEventsEnabled false
      match quiet.bracket ("Loading - " ++ loader.name) body fun done => mergeCommits done.1 with
      | .error failure => (.error failure, quiet.setEventsEnabled true, surroundings)
      | .ok ((merged, after), ended, finished) =>
          (Program.beforeEnd merged ended, finished.setEventsEnabled true, after)

end ImageImport
