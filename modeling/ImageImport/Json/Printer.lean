import ImageImport.Text.Digits
import ImageImport.Json.Value

/-!
Contract: JSON text for a value, on one line or indented.

Owns: the escapes of a string literal and the two layouts. An indented array or object has one item
or member a line, two blanks further in than its brackets; an empty one is its two brackets.
Does not own: which members a record has.
-/

namespace ImageImport.Json

def literalChar (c : Char) : List Char :=
  if c = '"' then ['\\', '"']
  else if c = '\\' then ['\\', '\\']
  else if c = '\x08' then ['\\', 'b']
  else if c = '\x0c' then ['\\', 'f']
  else if c = '\n' then ['\\', 'n']
  else if c = '\r' then ['\\', 'r']
  else if c = '\t' then ['\\', 't']
  else if c.toNat < 0x20 then
    ['\\', 'u', '0', '0', Text.digit (c.toNat / 16), Text.digit (c.toNat % 16)]
  else [c]

def literal (text : String) : List Char :=
  ['"'] ++ text.toList.flatMap literalChar ++ ['"']

inductive Layout where
  | compact
  | indented
deriving DecidableEq

namespace Layout

def newLine (layout : Layout) (depth : Nat) : List Char :=
  match layout with
  | .compact => []
  | .indented => '\n' :: List.replicate (2 * depth) ' '

def afterColon : Layout → List Char
  | .compact => []
  | .indented => [' ']

end Layout

mutual

/-- The text of a value whose brackets stand at the given depth. -/
def render (layout : Layout) (depth : Nat) : Json → List Char
  | .null => "null".toList
  | .bool true => "true".toList
  | .bool false => "false".toList
  | .int i => (Text.decimalInt i).toList
  | .str s => literal s
  | .arr [] => ['[', ']']
  | .arr (item :: items) =>
      ['['] ++ layout.newLine (depth + 1) ++ render layout (depth + 1) item ++
        renderItems layout (depth + 1) items ++ layout.newLine depth ++ [']']
  | .obj [] => ['\x7b', '\x7d']
  | .obj ((name, value) :: members) =>
      ['\x7b'] ++ layout.newLine (depth + 1) ++ literal name ++ [':'] ++ layout.afterColon ++
        render layout (depth + 1) value ++ renderMembers layout (depth + 1) members ++
        layout.newLine depth ++ ['\x7d']
  | .unusable => ['-', '0']

def renderItems (layout : Layout) (depth : Nat) : List Json → List Char
  | [] => []
  | item :: items =>
      [','] ++ layout.newLine depth ++ render layout depth item ++ renderItems layout depth items

def renderMembers (layout : Layout) (depth : Nat) : List (String × Json) → List Char
  | [] => []
  | (name, value) :: members =>
      [','] ++ layout.newLine depth ++ literal name ++ [':'] ++ layout.afterColon ++
        render layout depth value ++ renderMembers layout depth members

end

def print (layout : Layout) (value : Json) : String :=
  String.ofList (render layout 0 value)

end ImageImport.Json
