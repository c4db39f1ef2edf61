import ImageImport.Json.Record
import ImageImport.Text.Blank
import ImageImport.Text.Digits

/-!
Contract: the access permissions of a memory block.

Three of eight bits have a meaning; the others are kept as they are.

Owns: the short form of three letters, and the stored form, which names every bit.
-/

namespace ImageImport

structure Permissions where
  bits : UInt8
deriving DecidableEq, Repr

namespace Permissions

def readBit : UInt8 := 1

def writeBit : UInt8 := 2

def executeBit : UInt8 := 4

def ofFlags (read write execute : Bool) : Permissions :=
  ⟨(if read then readBit else 0) ||| (if write then writeBit else 0) |||
    (if execute then executeBit else 0)⟩

def read : Permissions := ⟨readBit⟩

def all : Permissions := ofFlags true true true

def has (permissions : Permissions) (bit : UInt8) : Bool :=
  permissions.bits &&& bit == bit

/-- Three letters, with a dash for what is not permitted. -/
def text (permissions : Permissions) : String :=
  String.ofList
    [if permissions.has readBit then 'r' else '-', if permissions.has writeBit then 'w' else '-',
      if permissions.has executeBit then 'x' else '-']

/-- The bits with a meaning, by name. -/
def named : List (String × UInt8) :=
  [("READ", readBit), ("WRITE", writeBit), ("EXECUTE", executeBit)]

/-- The bits without a meaning. -/
def unnamedBits (permissions : Permissions) : UInt8 :=
  permissions.bits &&& ~~~(readBit ||| writeBit ||| executeBit)

/-- The names of the bits that are set; the bits without a name make one number. -/
def parts (permissions : Permissions) : List String :=
  (named.filter fun entry => permissions.has entry.2).map Prod.fst ++
    (if permissions.unnamedBits = 0 then [] else [Text.hex permissions.unnamedBits.toNat])

def storedText (permissions : Permissions) : String :=
  " | ".intercalate permissions.parts

/-- The bits that one part of a stored form stands for. -/
def readPart? (part : List Char) : Option UInt8 :=
  match Text.dropBeginning? ['0', 'x'] part with
  | some digits => (Text.readBelow? 16 256 digits).map Nat.toUInt8
  | none => named.lookup (String.ofList part)

/-- The permissions of a stored form; blanks around a part do not count. -/
def readStored? (written : String) : Option Permissions :=
  if (Text.trim written.toList).isEmpty then some ⟨0⟩
  else
    ((Text.split '|' (Text.trim written.toList)).mapM fun part => readPart? (Text.trim part)).map
      fun parts => ⟨parts.foldl (· ||| ·) 0⟩

def toJson (permissions : Permissions) : Json := .str permissions.storedText

def ofJson? (value : Json) : Option Permissions :=
  value.str?.bind readStored?

end Permissions

end ImageImport
