import ImageImport.Json.Printer
import ImageImport.Store.Storage

/-!
Contract: storage that keeps the stored forms of programs in memory.

A store holds any number of containers. In each a folder is known by the names that lead to it, so
that asking twice for a folder gives the same one.
-/

namespace ImageImport

structure MemoryFolder where
  /-- Which of the containers of the store the folder belongs to. -/
  container : String
  /-- The path of the outermost folder, as it was given. -/
  rootPath : String
  /-- The names that lead from there to this folder. -/
  names : List String
deriving DecidableEq, Repr

def MemoryFolder.pathText (folder : MemoryFolder) : String :=
  folder.names.foldl
    (fun path name =>
      String.ofList (Text.trimEnd (· == '/') path.toList) ++ "/" ++ name)
    folder.rootPath

def MemoryFolder.place (folder : MemoryFolder) : List String :=
  folder.container :: folder.names

/-- The stored forms by the place of the folder, and by name. -/
structure MemoryStore where
  folders : SortedMap (List String) (SortedMap String String)
deriving DecidableEq, Repr

namespace MemoryStore

def empty : MemoryStore := ⟨.empty⟩

def filesOf (store : MemoryStore) (folder : MemoryFolder) : SortedMap String String :=
  (store.folders.get? folder.place).getD .empty

/-- The stored form of a program on one line. -/
def storedText (program : Program) : String :=
  Json.print .compact (Snapshot.ofProgram program).toJson

def createFile (folder : MemoryFolder) (name : String) (program : Program) :
    Attempt (Monitor × MemoryStore) Unit :=
  .of fun (monitor, store) =>
    match monitor.check with
    | (.error failure, monitor) => (.error failure, monitor, store)
    | (.ok (), monitor) =>
        match Storage.validateName name with
        | .error failure => (.error failure, monitor, store)
        | .ok () =>
            let files := store.filesOf folder
            if files.contains name then (.error (.duplicateName name), monitor, store)
            else
              (.ok (), monitor,
                ⟨store.folders.insert folder.place (files.insert name (storedText program))⟩)

def createFolder (folder : MemoryFolder) (name : String) : Attempt MemoryStore MemoryFolder :=
  .of fun store =>
    match Storage.validateName name with
    | .error failure => (.error failure, store)
    | .ok () => (.ok { folder with names := folder.names ++ [name] }, store)

def snapshot? (store : MemoryStore) (folder : MemoryFolder) (name : String) :
    Except Failure (Option Snapshot) :=
  match (store.filesOf folder).get? name with
  | none => .ok none
  | some text =>
      match Snapshot.parse text with
      | .ok snapshot => .ok (some snapshot)
      | .error failure => .error failure

def storage : Storage MemoryFolder MemoryStore where
  pathText := MemoryFolder.pathText
  createFile := createFile
  createFolder := createFolder
  contains folder name store := (store.filesOf folder).contains name
  fileNames folder store := (store.filesOf folder).keys

end MemoryStore

end ImageImport
