import ImageImport.Json.Token
import ImageImport.Json.Value

/-!
Contract: the value that a JSON text denotes.

Owns: the order of tokens. The reader keeps the arrays and objects that are open, innermost first,
and what may come next; each token either fits or refuses the whole text.
Does not own: what a value means to a caller.
-/

namespace ImageImport.Json

/-- A container that is open, with what it holds so far, last first. -/
inductive Frame where
  | items (reversed : List Json)
  | members (reversed : List (Option String × Json)) (name : Option String)

inductive Next where
  | value
  | itemOrClose
  | nameOrClose
  | name (reversed : List (Option String × Json))
  | colon (reversed : List (Option String × Json)) (name : Option String)
  | ended (value : Json)

structure Reading where
  frames : List Frame
  next : Next

namespace Reading

def start : Reading := ⟨[], .value⟩

/-- An object whose names are all usable, and otherwise an unusable value. -/
def objectOf (reversed : List (Option String × Json)) : Json :=
  match reversed.reverse.mapM fun member => member.1.map fun name => (name, member.2) with
  | some members => .obj members
  | none => .unusable

def beginValue? (frames : List Frame) : Token → Option Reading
  | .null => some ⟨frames, .ended .null⟩
  | .bool b => some ⟨frames, .ended (.bool b)⟩
  | .int i => some ⟨frames, .ended (.int i)⟩
  | .number | .brokenStr => some ⟨frames, .ended .unusable⟩
  | .str s => some ⟨frames, .ended (.str s)⟩
  | .openBracket => some ⟨frames, .itemOrClose⟩
  | .openBrace => some ⟨frames, .nameOrClose⟩
  | .closeBrace | .closeBracket | .comma | .colon => none

/-- The member name that a token is, where one is expected. -/
def beginName? (frames : List Frame) (reversed : List (Option String × Json)) :
    Token → Option Reading
  | .str s => some ⟨frames, .colon reversed (some s)⟩
  | .brokenStr => some ⟨frames, .colon reversed none⟩
  | _ => none

def step? (reading : Reading) (token : Token) : Option Reading :=
  match reading.next, token with
  | .value, _ => beginValue? reading.frames token
  | .itemOrClose, .closeBracket => some ⟨reading.frames, .ended (.arr [])⟩
  | .itemOrClose, _ => beginValue? (.items [] :: reading.frames) token
  | .nameOrClose, .closeBrace => some ⟨reading.frames, .ended (.obj [])⟩
  | .nameOrClose, _ => beginName? reading.frames [] token
  | .name reversed, _ => beginName? reading.frames reversed token
  | .colon reversed name, .colon =>
      some ⟨.members reversed name :: reading.frames, .value⟩
  | .colon _ _, _ => none
  | .ended value, _ =>
      match reading.frames, token with
      | .items reversed :: frames, .comma => some ⟨.items (value :: reversed) :: frames, .value⟩
      | .items reversed :: frames, .closeBracket =>
          some ⟨frames, .ended (.arr (value :: reversed).reverse)⟩
      | .members reversed name :: frames, .comma =>
          some ⟨frames, .name ((name, value) :: reversed)⟩
      | .members reversed name :: frames, .closeBrace =>
          some ⟨frames, .ended (objectOf ((name, value) :: reversed))⟩
      | _, _ => none

def run? : Reading → List Token → Option Reading
  | reading, [] => some reading
  | reading, token :: rest =>
      match reading.step? token with
      | none => none
      | some next => run? next rest

def finish? : Reading → Option Json
  | ⟨[], .ended value⟩ => some value
  | _ => none

end Reading

/-- The value of a text that is one JSON value with blanks around it. -/
def parse? (text : String) : Option Json :=
  match Token.scan? text.toList with
  | none => none
  | some tokens =>
      match Reading.start.run? tokens with
      | none => none
      | some reading => reading.finish?

end ImageImport.Json
