import ImageImport.Symbol

/-!
Contract: functions with contiguous bodies.

Owns: the table of functions by entry, in which no two bodies of one space share an offset.
-/

namespace ImageImport

structure Function where
  name : Option String
  entry : Address
  /-- How many offsets the body has, from the entry on. -/
  length : UInt64
  source : NameSource
deriving DecidableEq, Repr

namespace Function

/-- The last offset of the body, for a body that ends within sixty-four bits. -/
def lastOffset (function : Function) : UInt64 :=
  function.entry.offset + (if function.length = 0 then 0 else function.length - 1)

/-- Whether two bodies share an offset of one space. -/
def overlaps (left right : Function) : Bool :=
  left.entry.sameSpace right.entry && left.entry.offset ≤ right.lastOffset &&
    right.entry.offset ≤ left.lastOffset

def toJson (function : Function) : Json :=
  .obj [("name", .ofOption .str function.name), ("entry", function.entry.toJson),
    ("body_length", .ofNat function.length.toNat), ("source", function.source.toJson)]

def ofJson? (value : Json) : Option Function := do
  let record ← value.record? ["name", "entry", "body_length", "source"]
  let name ← (record.slot "name").nullable Json.str?
  let entry ← (record.slot "entry").required Address.ofJson?
  let length ← (record.slot "body_length").required Json.uint64?
  let source ← (record.slot "source").required NameSource.ofJson?
  return ⟨name, entry, length, source⟩

end Function

structure FunctionTable where
  functions : SortedMap Address Function
deriving DecidableEq, Repr

namespace FunctionTable

def empty : FunctionTable := ⟨.empty⟩

def toList (table : FunctionTable) : List Function := table.functions.values

def size (table : FunctionTable) : Nat := table.toList.length

def isEmpty (table : FunctionTable) : Bool := table.toList.isEmpty

def functionAt? (table : FunctionTable) (entry : Address) : Option Function :=
  table.functions.get? entry

/-- The table with one more function, and the function that now stands at its entry. -/
def create (table : FunctionTable) (function : Function) :
    Except Failure (Function × FunctionTable) :=
  if function.length = 0 then
    .error (.invalidAddress ("function at " ++ function.entry.text ++ " has an empty body"))
  else if table.toList.any fun existing => existing.overlaps function then
    .error (.overlappingFunction function.entry.text)
  else
    match table.functionAt? function.entry with
    | some existing => .ok (existing, table)
    | none => .ok (function, ⟨table.functions.insert function.entry function⟩)

end FunctionTable

end ImageImport
