import ImageImport.Attempt
import ImageImport.Load.Monitor
import ImageImport.Program.Snapshot

/-!
Contract: what loading asks of the places where programs are stored.

A storage is a set of functions over folders and a state of its own. A program is stored under a name
that must be free; the storage polls the monitor and may change it.

Owns: the capability, and the names that every storage accepts.
Does not own: what a storage does with a program.
-/

namespace ImageImport

structure Storage (κ σ : Type) where
  pathText : κ → String
  createFile : κ → String → Program → Attempt (Monitor × σ) Unit
  createFolder : κ → String → Attempt σ κ
  contains : κ → String → σ → Bool
  fileNames : κ → σ → List String

namespace Storage

/-- Two storages side by side; a folder belongs to one of them. -/
def either {κ σ μ τ : Type} (left : Storage κ σ) (right : Storage μ τ) :
    Storage (κ ⊕ μ) (σ × τ) where
  pathText := Sum.elim left.pathText right.pathText
  createFile
    | .inl folder, name, program =>
        (left.createFile folder name program).onPart (fun whole => (whole.1, whole.2.1))
          fun whole part => (part.1, part.2, whole.2.2)
    | .inr folder, name, program =>
        (right.createFile folder name program).onPart (fun whole => (whole.1, whole.2.2))
          fun whole part => (part.1, whole.2.1, part.2)
  createFolder
    | .inl folder, name =>
        .inl <$> (left.createFolder folder name).onPart Prod.fst
          fun whole part => (part, whole.2)
    | .inr folder, name =>
        .inr <$> (right.createFolder folder name).onPart Prod.snd
          fun whole part => (whole.1, part)
  contains
    | .inl folder, name, state => left.contains folder name state.1
    | .inr folder, name, state => right.contains folder name state.2
  fileNames
    | .inl folder, state => left.fileNames folder state.1
    | .inr folder, state => right.fileNames folder state.2

/-- The storage over a larger state, in folders that say more than its own. -/
def onPart {κ σ μ τ : Type} (storage : Storage κ σ) (folder : μ → κ) (ofFolder : κ → μ)
    (part : τ → σ) (setPart : τ → σ → τ) : Storage μ τ where
  pathText place := storage.pathText (folder place)
  createFile place name program :=
    (storage.createFile (folder place) name program).onPart
      (fun whole => (whole.1, part whole.2))
      fun whole changed => (changed.1, setPart whole.2 changed.2)
  createFolder place name :=
    ofFolder <$> (storage.createFolder (folder place) name).onPart part setPart
  contains place name state := storage.contains (folder place) name (part state)
  fileNames place state := storage.fileNames (folder place) (part state)

/-- The characters that no name has. -/
def isForbidden (c : Char) : Bool :=
  c == '/' || c == '\\' || Text.isControl c

def validateName (name : String) : Except Failure Unit :=
  if (Text.trim name.toList).isEmpty then .error (.invalidName "name is empty")
  else if name = "." ∨ name = ".." then .error (.invalidName name)
  else if name.toList.any isForbidden then
    .error (.invalidName ("'" ++ name ++ "' contains a path separator or control character"))
  else .ok ()

end Storage

end ImageImport
