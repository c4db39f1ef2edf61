import ImageImport.Json.Record

/-!
Contract: members of loosely written objects.

A member that is not there counts as null. Where a value of a certain kind is wanted and the member
is of another, the answer is the reader's fallback; nothing is refused.

Owns: look-ups by name.
Does not own: records, which are read strictly.
-/

namespace ImageImport.Json

variable (value : Json) (name : String)

/-- The member of that name, null where there is none. -/
def part : Json := (value.get? name).getD .null

/-- The member of that name, unless it is null. -/
def part? : Option Json :=
  match value.part name with
  | .null => none
  | found => some found

def text? : Option String := (value.part name).str?

def text (fallback : String := "") : String := (value.text? name).getD fallback

def flag (fallback : Bool := false) : Bool := ((value.part name).bool?).getD fallback

def nat? : Option Nat := natBelow? UInt64.size (value.part name)

def nat (fallback : Nat := 0) : Nat := (value.nat? name).getD fallback

def word : UInt64 := (value.nat name).toUInt64

def items : List Json := (list? some (value.part name)).getD []

def texts : List String := (value.items name).filterMap str?

/-- An object with more members behind its own. -/
def append (more : List (String × Json)) : Json :=
  match value with
  | .obj members => .obj (members ++ more)
  | other => other

end ImageImport.Json
