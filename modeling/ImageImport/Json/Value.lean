/-!
Contract: JSON values as far as stored programs, languages and configurations use them.

Owns: the value type and its views. Members of an object stand in the order of the text, and a name
may occur more than once: what a repeated name means is for the reader of that object to say.
Does not own: text, in either direction.
-/

namespace ImageImport

inductive Json where
  | null
  | bool (value : Bool)
  | int (value : Int)
  | str (value : String)
  | arr (items : List Json)
  | obj (members : List (String × Json))
  /-- A value that is well formed as text and that nothing here has a use for: a number that is not
  written as an integer, or a string, or an object with a name, in which a surrogate stands alone. -/
  | unusable
deriving Inhabited

namespace Json

def ofNat (n : Nat) : Json := .int n

def ofOption {α : Type} (encode : α → Json) : Option α → Json
  | none => .null
  | some value => encode value

/-- The value of the last member with the given name. -/
def get? (name : String) : Json → Option Json
  | .obj members => (members.reverse.find? fun member => member.1 == name).map Prod.snd
  | _ => none

end Json

end ImageImport
