import ImageImport.Text.Blank

/-!
Contract: how the text of a path is read.

A path is a list of names between slashes, followed from a starting place. Empty names and `.` lead
nowhere and are left out; but a path that ends in one of them can only name a directory.

Owns: the reading of a path, and the joining of two.
Does not own: what a path leads to.
-/

namespace ImageImport

inductive PathEnding where
  /-- The path ends in a name. -/
  | name
  /-- There is a slash behind the last name. -/
  | slash
  /-- The path ends in `.`, or has no name at all. -/
  | here
deriving DecidableEq, Repr

structure FilePath where
  /-- Whether the path starts from the top, and not from the home of its tree. -/
  isAbsolute : Bool
  /-- The names that are followed; `..` leads back. -/
  names : List String
  ending : PathEnding
deriving DecidableEq, Repr

namespace FilePath

def endingOf (pieces : List String) : PathEnding :=
  match pieces.reverse with
  | "" :: outer =>
      match outer.dropWhile (· == "") with
      | [] => .here
      | piece :: _ => if piece = "." then .here else .slash
  | "." :: _ => .here
  | _ => .name

def ofText (text : String) : FilePath :=
  let pieces := (Text.split '/' text.toList).map String.ofList
  ⟨text.toList.head? = some '/', pieces.filter fun piece => piece ≠ "" ∧ piece ≠ ".",
    endingOf pieces⟩

def outer (path : FilePath) : FilePath :=
  { path with names := path.names.dropLast, ending := .name }

/-- The name that a new file or directory at the path would have. -/
def newName? (path : FilePath) : Option String :=
  if path.ending = .here then none
  else
    match path.names.getLast? with
    | some ".." => none
    | last => last

/-- The text of a path followed from the directory of another. -/
def join (directory path : String) : String :=
  if path.toList.head? = some '/' then path
  else if directory = "" ∨ directory.toList.getLast? = some '/' then directory ++ path
  else directory ++ "/" ++ path

end FilePath

end ImageImport
