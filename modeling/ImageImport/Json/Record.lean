import ImageImport.Failure
import ImageImport.Json.Reader

/-!
Contract: records, choices and bounded numbers as JSON values.

Owns: how a record with a fixed list of fields is found in a value. An object gives its fields by
name, in any order, and names it does not know are skipped; a known name that stands twice refuses
the record. An array gives the fields in their declared order, and may end early but not run over.
Does not own: the records themselves; each is read beside its own type.
-/

namespace ImageImport.Json

/-- What a value holds at one field of a record. -/
inductive Slot where
  | present (value : Json)
  /-- The object has no member of that name. -/
  | unnamed
  /-- The array ends before the field. -/
  | beyond

namespace Slot

def required {α : Type} (decode : Json → Option α) : Slot → Option α
  | .present value => decode value
  | .unnamed | .beyond => none

/-- A field that may be left out for a default. -/
def withDefault {α : Type} (fallback : α) (decode : Json → Option α) : Slot → Option α
  | .present value => decode value
  | .unnamed | .beyond => some fallback

def optional {α : Type} (decode : Json → Option α) : Slot → Option (Option α)
  | .present .null => some none
  | .present value => (decode value).map some
  | .unnamed | .beyond => some none

/-- A field that may be null, or left out of an object but not of an array. -/
def nullable {α : Type} (decode : Json → Option α) : Slot → Option (Option α)
  | .present .null => some none
  | .present value => (decode value).map some
  | .unnamed => some none
  | .beyond => none

end Slot

/-- What an object holds at a field: nothing usable when the name stands twice. -/
def slotOf? (members : List (String × Json)) (name : String) : Option Slot :=
  match members.filter fun member => member.1 == name with
  | [] => some .unnamed
  | [member] => some (.present member.2)
  | _ => none

/-- What an array holds at the fields of a record, in order. -/
def slotsFrom? : List Json → List String → Option (List (String × Slot))
  | [], names => some (names.map fun name => (name, .beyond))
  | _ :: _, [] => none
  | item :: items, name :: names =>
      (slotsFrom? items names).map fun slots => (name, .present item) :: slots

/-- The slots of a record, one to a field. -/
structure Record where
  slots : List (String × Slot)

/-- The record with the given fields that a value is. -/
def record? (names : List String) : Json → Option Record
  | .obj members =>
      (names.mapM fun name => (slotOf? members name).map fun slot => (name, slot)).map Record.mk
  | .arr items => (slotsFrom? items names).map Record.mk
  | _ => none

def Record.slot (record : Record) (name : String) : Slot :=
  (record.slots.lookup name).getD .unnamed

def bool? : Json → Option Bool
  | .bool b => some b
  | _ => none

def str? : Json → Option String
  | .str s => some s
  | _ => none

/-- A non-negative integer below `bound`. -/
def natBelow? (bound : Nat) : Json → Option Nat
  | .int i => if 0 ≤ i ∧ i.toNat < bound then some i.toNat else none
  | _ => none

def uint8? (value : Json) : Option UInt8 :=
  (natBelow? UInt8.size value).map Nat.toUInt8

def uint16? (value : Json) : Option UInt16 :=
  (natBelow? UInt16.size value).map Nat.toUInt16

def uint64? (value : Json) : Option UInt64 :=
  (natBelow? UInt64.size value).map Nat.toUInt64

def int64? : Json → Option Int64
  | .int i =>
      if Int64.minValue.toInt ≤ i ∧ i ≤ Int64.maxValue.toInt then some (Int64.ofInt i) else none
  | _ => none

def list? {α : Type} (decode : Json → Option α) : Json → Option (List α)
  | .arr items => items.mapM decode
  | _ => none

/-- A name out of a fixed set, alone or as the one member of an object that holds null. -/
def name? (names : List String) : Json → Option String
  | .str s => if names.contains s then some s else none
  | .obj [(s, .null)] => if names.contains s then some s else none
  | _ => none

def choice? {α : Type} (options : List (String × α)) (value : Json) : Option α :=
  (name? (options.map Prod.fst) value).bind fun name => options.lookup name

def decode {α : Type} (ofJson? : Json → Option α) (value : Json) : Except Failure α :=
  match ofJson? value with
  | some decoded => .ok decoded
  | none => .error .serialization

/-- What a text denotes that is one JSON value. -/
def decodeText {α : Type} (ofJson? : Json → Option α) (text : String) : Except Failure α :=
  match parse? text with
  | some value => value.decode ofJson?
  | none => .error .serialization

end ImageImport.Json
