import ImageImport.Json.Printer
import ImageImport.Store.FileTree
import ImageImport.Store.Storage

/-!
Contract: storage in a directory, with one file to a program.

The file of a program has the program's name and an extension; its text is the stored form, indented.
Other files in the directory are not looked at.
-/

namespace ImageImport

structure DirectoryFolder where
  path : String
  display : String
deriving DecidableEq, Repr

namespace DirectoryFolder

/-- What the name of a program's file ends in. -/
def fileEnding : String := ".hoard.json"

def filePath (folder : DirectoryFolder) (name : String) : String :=
  FilePath.join folder.path (name ++ fileEnding)

def fileDisplay (folder : DirectoryFolder) (name : String) : String :=
  FilePath.join folder.display (name ++ fileEnding)

/-- The directory at a path, made if it is not there. -/
def openAt (path display : String) : Attempt FileTree DirectoryFolder :=
  .of fun tree =>
    match tree.makeDirectories path with
    | (.ok (), made) => (.ok ⟨path, display⟩, made)
    | (.error fault, made) => (.error (.device fault), made)

def storedText (program : Program) : String :=
  Json.print .indented (Snapshot.ofProgram program).toJson

def createFile (folder : DirectoryFolder) (name : String) (program : Program) :
    Attempt (Monitor × FileTree) Unit :=
  .of fun (monitor, tree) =>
    match monitor.check with
    | (.error failure, monitor) => (.error failure, monitor, tree)
    | (.ok (), monitor) =>
        match Storage.validateName name with
        | .error failure => (.error failure, monitor, tree)
        | .ok () =>
            match tree.createFile (folder.filePath name)
                (storedText program).toUTF8.toList with
            | .ok stored => (.ok (), monitor, stored)
            | .error .alreadyExists => (.error (.duplicateName name), monitor, tree)
            | .error fault =>
                (.error (.storage ("cannot create " ++ folder.fileDisplay name) [fault.message]),
                  monitor, tree)

def createFolder (folder : DirectoryFolder) (name : String) :
    Attempt FileTree DirectoryFolder :=
  match Storage.validateName name with
  | .error failure => .ofExcept (.error failure)
  | .ok () => openAt (FilePath.join folder.path name) (FilePath.join folder.display name)

def contains (folder : DirectoryFolder) (name : String) (tree : FileTree) : Bool :=
  tree.isFile (folder.filePath name)

/-- A file name without the ending, where it has it. -/
def programName? (fileName : String) : Option String :=
  (Text.dropBeginning? fileEnding.toList.reverse fileName.toList.reverse).map fun reversed =>
    String.ofList reversed.reverse

def fileNames (folder : DirectoryFolder) (tree : FileTree) : List String :=
  ((tree.names folder.path).filterMap programName?).mergeSort fun left right => left ≤ right

def snapshot (tree : FileTree) (folder : DirectoryFolder) (name : String) :
    Except Failure Snapshot :=
  match tree.readText (folder.filePath name) with
  | .ok text => Snapshot.parse text
  | .error fault => .error (.device fault)

def storage : Storage DirectoryFolder FileTree where
  pathText := DirectoryFolder.display
  createFile := createFile
  createFolder := createFolder
  contains := contains
  fileNames := fileNames

end DirectoryFolder

end ImageImport
