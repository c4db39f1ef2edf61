import ImageImport.Text.Digits

/-!
Contract: JSON text as a run of tokens.

Owns: `Token.scan`, which accepts a text exactly when it is made of tokens with blanks between them.
Two tokens may touch; no JSON value has two neighbouring scalars, so nothing is gained or lost by it.
A string literal is decoded on the way; its escapes for surrogates have to pair up.
Does not own: in which order tokens may stand.
-/

namespace ImageImport.Json

inductive Token where
  | openBrace
  | closeBrace
  | openBracket
  | closeBracket
  | comma
  | colon
  | null
  | bool (value : Bool)
  | int (value : Int)
  /-- A number with a fraction or an exponent, or minus zero. -/
  | number
  | str (value : String)
  /-- A string literal in which a surrogate stands alone. -/
  | brokenStr
deriving DecidableEq

namespace Token

/-- The four blanks of JSON. -/
def isGap (c : Char) : Bool :=
  c == ' ' || c == '\t' || c == '\n' || c == '\r'

def isDecimalDigit (c : Char) : Bool :=
  '0' ≤ c && c ≤ '9'

/-- Characters that can continue a number. -/
def isNumberChar (c : Char) : Bool :=
  isDecimalDigit c || c == '-' || c == '+' || c == '.' || c == 'e' || c == 'E'

def isWordChar (c : Char) : Bool :=
  'a' ≤ c && c ≤ 'z'

def ofWord? (letters : List Char) : Option Token :=
  if letters = "null".toList then some .null
  else if letters = "true".toList then some (.bool true)
  else if letters = "false".toList then some (.bool false)
  else none

/-- Whether what follows the whole part of a number is an exponent or nothing. -/
def isExponentPart : List Char → Bool
  | [] => true
  | e :: rest =>
      (e == 'e' || e == 'E') &&
        match rest with
        | '+' :: digits | '-' :: digits => !digits.isEmpty && digits.all isDecimalDigit
        | digits => !digits.isEmpty && digits.all isDecimalDigit

/-- Whether what follows the whole part of a number is a fraction, an exponent, both or nothing. -/
def isFractionPart : List Char → Bool
  | '.' :: rest =>
      !(rest.takeWhile isDecimalDigit).isEmpty && isExponentPart (rest.dropWhile isDecimalDigit)
  | rest => isExponentPart rest

/-- The token of a number: the whole part has no leading zero. -/
def ofNumber? (text : List Char) : Option Token :=
  let negative := text.head? == some '-'
  let unsigned := if negative then text.tail else text
  let whole := unsigned.takeWhile isDecimalDigit
  let rest := unsigned.dropWhile isDecimalDigit
  match Text.readNumeral? 10 whole with
  | none => none
  | some value =>
      if whole.length ≠ 1 ∧ whole.head? = some '0' then none
      else if ¬ isFractionPart rest then none
      else if ¬ rest.isEmpty ∨ (negative ∧ value = 0) then some .number
      else if negative then some (.int (-(value : Int)))
      else some (.int value)

structure Literal where
  reversed : List Char
  /-- The first half of a surrogate pair, when its escape has just ended. -/
  highHalf : Option Nat
  broken : Bool
deriving DecidableEq

namespace Literal

def empty : Literal := ⟨[], none, false⟩

/-- A character that is no surrogate; a first half in front of it is alone. -/
def push (literal : Literal) (c : Char) : Literal :=
  ⟨c :: literal.reversed, none, literal.broken || literal.highHalf.isSome⟩

/-- The sixteen bits of an escape. -/
def pushUnit (literal : Literal) (code : Nat) : Literal :=
  if 0xd800 ≤ code ∧ code < 0xdc00 then
    { literal with highHalf := some code, broken := literal.broken || literal.highHalf.isSome }
  else if 0xdc00 ≤ code ∧ code < 0xe000 then
    match literal.highHalf with
    | some high =>
        ⟨Char.ofNat (0x10000 + (high - 0xd800) * 0x400 + (code - 0xdc00)) :: literal.reversed,
          none, literal.broken⟩
    | none => { literal with broken := true }
  else literal.push (Char.ofNat code)

def finish (literal : Literal) : Token :=
  if literal.broken || literal.highHalf.isSome then .brokenStr
  else .str (String.ofList literal.reversed.reverse)

end Literal

def escaped? : Char → Option Char
  | '"' => some '"'
  | '\\' => some '\\'
  | '/' => some '/'
  | 'b' => some '\x08'
  | 'f' => some '\x0c'
  | 'n' => some '\n'
  | 'r' => some '\r'
  | 't' => some '\t'
  | _ => none

inductive Place where
  | gap
  | word (reversed : List Char)
  | number (reversed : List Char)
  | inside (literal : Literal)
  | escape (literal : Literal)
  | code (literal : Literal) (digits value : Nat)
deriving DecidableEq

def start? (c : Char) : Option (Place × List Token) :=
  if isGap c then some (.gap, [])
  else if c = '\x7b' then some (.gap, [.openBrace])
  else if c = '\x7d' then some (.gap, [.closeBrace])
  else if c = '[' then some (.gap, [.openBracket])
  else if c = ']' then some (.gap, [.closeBracket])
  else if c = ',' then some (.gap, [.comma])
  else if c = ':' then some (.gap, [.colon])
  else if c = '"' then some (.inside .empty, [])
  else if isWordChar c then some (.word [c], [])
  else if isDecimalDigit c ∨ c = '-' then some (.number [c], [])
  else none

def step? : Place → Char → Option (Place × List Token)
  | .gap, c => start? c
  | .word reversed, c =>
      if isWordChar c then some (.word (c :: reversed), [])
      else do
        let token ← ofWord? reversed.reverse
        let (place, tokens) ← start? c
        return (place, token :: tokens)
  | .number reversed, c =>
      if isNumberChar c then some (.number (c :: reversed), [])
      else do
        let token ← ofNumber? reversed.reverse
        let (place, tokens) ← start? c
        return (place, token :: tokens)
  | .inside literal, c =>
      if c = '"' then some (.gap, [literal.finish])
      else if c = '\\' then some (.escape literal, [])
      else if c.toNat < 0x20 then none
      else some (.inside (literal.push c), [])
  | .escape literal, c =>
      if c = 'u' then some (.code literal 0 0, [])
      else (escaped? c).map fun e => (.inside (literal.push e), [])
  | .code literal digits value, c =>
      match Text.digitValue? 16 c with
      | none => none
      | some d =>
          if digits = 3 then some (.inside (literal.pushUnit (value * 16 + d)), [])
          else some (.code literal (digits + 1) (value * 16 + d), [])

def finish? : Place → Option (List Token)
  | .gap => some []
  | .word reversed => (ofWord? reversed.reverse).map ([·])
  | .number reversed => (ofNumber? reversed.reverse).map ([·])
  | .inside _ | .escape _ | .code .. => none

/-- The tokens from a place on; those read before stand in `reversed`, last first. -/
def scanFrom? (place : Place) (reversed : List Token) : List Char → Option (List Token)
  | [] => (finish? place).map (reversed.reverse ++ ·)
  | c :: rest =>
      match step? place c with
      | none => none
      | some (next, tokens) => scanFrom? next (tokens.reverse ++ reversed) rest

def scan? (text : List Char) : Option (List Token) :=
  scanFrom? .gap [] text

end Token

end ImageImport.Json
