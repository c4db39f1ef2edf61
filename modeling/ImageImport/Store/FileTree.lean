import ImageImport.Failure
import ImageImport.SortedMap
import ImageImport.Store.FilePath

/-!
Contract: a tree of directories and files, as far as sources and stored programs need one.

A place in the tree is the list of names that lead to it from the top. Following a path asks, at every
name, for a directory to look in; what is asked for last decides which fault is reported.

Owns: following paths, making directories, reading, writing and listing.
Does not own: what files hold.
-/

namespace ImageImport

inductive FileEntry where
  | file (bytes : List UInt8)
  | directory
deriving DecidableEq, Repr

structure FileTree where
  /-- The place that paths start from. This directory is always there. -/
  home : List String
  /-- The path of that place, for display. -/
  homeText : String
  /-- The most bytes that a name may have, where names are limited. -/
  nameLimit : Option Nat
  /-- The most bytes that the path of a place may have, counted from the top. -/
  pathLimit : Option Nat
  /-- The size of a directory, where the size of a file is asked for. -/
  directorySize : Nat
  entries : SortedMap (List String) FileEntry
deriving DecidableEq, Repr

namespace FileTree

def isOver (limit : Option Nat) (size : Nat) : Bool :=
  match limit with
  | some most => most < size
  | none => false

def entry? (tree : FileTree) (place : List String) : Option FileEntry :=
  if place.isPrefixOf tree.home then some .directory else tree.entries.get? place

def put (tree : FileTree) (place : List String) (entry : FileEntry) : FileTree :=
  { tree with entries := tree.entries.insert place entry }

def pathText (tree : FileTree) (place : List String) : String :=
  if tree.home.isPrefixOf place then
    "/".intercalate (tree.homeText :: place.drop tree.home.length)
  else "/" ++ "/".intercalate place

def pathSize (tree : FileTree) (text : String) : Nat :=
  if text.toList.head? = some '/' then text.utf8ByteSize
  else tree.home.foldl (fun size name => size + name.utf8ByteSize + 1) 1 + text.utf8ByteSize

/-- The path that a text is. A text with the character NUL is none, and the empty one leads nowhere.
-/
def readPath (text : String) : Except DeviceFault FilePath :=
  if text.toList.any (·.toNat == 0) then .error .nulInName
  else if text = "" then .error .notFound
  else .ok (.ofText text)

/-- The path that a text is, unless it is too long. -/
def readShortPath (tree : FileTree) (text : String) : Except DeviceFault FilePath := do
  let path ← readPath text
  if isOver tree.pathLimit (tree.pathSize text) then .error .nameTooLong else .ok path

/-- The place one name further, where the present place is a directory. The place may be empty. -/
def enter (tree : FileTree) (place : List String) (name : String) :
    Except DeviceFault (List String) :=
  match tree.entry? place with
  | none => .error .notFound
  | some (.file _) => .error .notADirectory
  | some .directory =>
      if name = ".." then .ok place.dropLast
      else if isOver tree.nameLimit name.utf8ByteSize then .error .nameTooLong
      else .ok (place ++ [name])

/-- The place that names lead to; every place but the last has to be a directory. -/
def follow (tree : FileTree) (place : List String) : List String → Except DeviceFault (List String)
  | [] => .ok place
  | name :: names =>
      match tree.enter place name with
      | .ok next => tree.follow next names
      | .error fault => .error fault

/-- The place that a path leads to, whether or not something is there. -/
def locate (tree : FileTree) (path : FilePath) : Except DeviceFault (List String) :=
  tree.follow (if path.isAbsolute then [] else tree.home) path.names

def find (tree : FileTree) (path : FilePath) : Except DeviceFault (List String × FileEntry) := do
  let place ← tree.locate path
  match tree.entry? place with
  | none => .error .notFound
  | some .directory => .ok (place, .directory)
  | some (.file bytes) =>
      if path.ending = .name then .ok (place, .file bytes) else .error .notADirectory

def findDirectory (tree : FileTree) (path : FilePath) : Except DeviceFault (List String) :=
  match tree.find { path with ending := .here } with
  | .ok (place, _) => .ok place
  | .error fault => .error fault

def isDirectory (tree : FileTree) (path : FilePath) : Bool :=
  match tree.findDirectory path with
  | .ok _ => true
  | .error _ => false

/-- The place for something new at a path; there is none where a path only leads to directories. -/
def findRoom (tree : FileTree) (path : FilePath) : Except DeviceFault (Option (List String)) := do
  match path.newName? with
  | none =>
      let _ ← tree.findDirectory path
      .ok none
  | some _ =>
      let _ ← tree.findDirectory path.outer
      return some (← tree.locate path)

/-- The tree with a new directory at a path where there was nothing. -/
def makeDirectory (tree : FileTree) (path : FilePath) : Except DeviceFault FileTree := do
  match ← tree.findRoom path with
  | none => .error .alreadyExists
  | some place =>
      if (tree.entry? place).isSome then .error .alreadyExists
      else .ok (tree.put place .directory)

/-- Makes the directory at the end of a path, given its names from the last to the first, and those
around it that are missing. What was made before a fault stays. -/
def makeAround (path : FilePath) : List String → FileTree → Except DeviceFault Unit × FileTree
  | [], tree => (.ok (), tree)
  | name :: outer, tree =>
      let whole := { path with names := (name :: outer).reverse }
      let settle (tree : FileTree) : Except DeviceFault Unit × FileTree :=
        match tree.makeDirectory whole with
        | .ok made => (.ok (), made)
        | .error fault => (if tree.isDirectory whole then .ok () else .error fault, tree)
      match tree.makeDirectory whole with
      | .error .notFound =>
          match makeAround path.outer outer tree with
          | (.ok (), made) => settle made
          | (.error fault, made) => (.error fault, made)
      | _ => settle tree

/-- Makes the directory at a path, and those on the way to it. There is nothing to make for the empty
text. -/
def makeDirectories (tree : FileTree) (text : String) : Except DeviceFault Unit × FileTree :=
  if text = "" then (.ok (), tree)
  else
    match tree.readShortPath text with
    | .ok path => makeAround path path.names.reverse tree
    | .error fault => (.error fault, tree)

/-- The place for a file at a path, with what is there already. -/
def findFileRoom (tree : FileTree) (path : FilePath) :
    Except DeviceFault (Option (List String × Option FileEntry)) := do
  if path.ending = .slash ∧ path.newName?.isSome then
    let _ ← tree.findDirectory path.outer
    .error .isADirectory
  else
    match ← tree.findRoom path with
    | some place => return some (place, tree.entry? place)
    | none => return none

/-- The tree with a new file at a path where there was nothing. -/
def createFile (tree : FileTree) (text : String) (bytes : List UInt8) :
    Except DeviceFault FileTree := do
  match ← tree.findFileRoom (← tree.readShortPath text) with
  | some (place, none) => .ok (tree.put place (.file bytes))
  | _ => .error .alreadyExists

/-- The tree with a file of these bytes at a path, in place of a file that was there. -/
def writeFile (tree : FileTree) (text : String) (bytes : List UInt8) :
    Except DeviceFault FileTree := do
  match ← tree.findFileRoom (← tree.readShortPath text) with
  | none | some (_, some .directory) => .error .isADirectory
  | some (place, _) => .ok (tree.put place (.file bytes))

def readFile (tree : FileTree) (text : String) : Except DeviceFault (List UInt8) := do
  match ← tree.find (← tree.readShortPath text) with
  | (_, .file bytes) => .ok bytes
  | (_, .directory) => .error .isADirectory

def readText (tree : FileTree) (text : String) : Except DeviceFault String := do
  match String.fromUTF8? (ByteArray.mk (← tree.readFile text).toArray) with
  | some content => .ok content
  | none => .error .notUtf8

def isFile (tree : FileTree) (text : String) : Bool :=
  match tree.readFile text with
  | .ok _ => true
  | .error _ => false

/-- The names in the directory at a path, in order; there are none in what is no directory. -/
def names (tree : FileTree) (text : String) : List String :=
  match tree.readShortPath text >>= tree.findDirectory with
  | .error _ => []
  | .ok place =>
      (tree.entries.keys.filter fun other => !other.isEmpty && other.dropLast == place).filterMap
        List.getLast?

end FileTree

end ImageImport
