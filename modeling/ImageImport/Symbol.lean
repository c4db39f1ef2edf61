import ImageImport.Address
import ImageImport.Failure
import ImageImport.SortedMap

/-!
Contract: labels at addresses.

Several labels may share an address under different names; one of them is primary, the first unless
another is made so. A pinned label is one that later analysis leaves alone.

Owns: labels, the names they may have, the table of labels and the set of external entry points.
Does not own: who creates labels, and when.
-/

namespace ImageImport

inductive NameSource where
  | default
  | imported
  | analysis
  | userDefined
deriving DecidableEq, Repr

namespace NameSource

def all : List NameSource :=
  [.default, .imported, .analysis, .userDefined]

def text : NameSource → String
  | .default => "Default"
  | .imported => "Imported"
  | .analysis => "Analysis"
  | .userDefined => "UserDefined"

def toJson (source : NameSource) : Json := .str source.text

def ofJson? (value : Json) : Option NameSource :=
  value.choice? (all.map fun source => (source.text, source))

end NameSource

structure Symbol where
  name : String
  address : Address
  scope : String
  source : NameSource
  isPrimary : Bool
  isPinned : Bool
deriving DecidableEq, Repr

namespace Symbol

def globalScope : String := "Global"

def text (symbol : Symbol) : String :=
  symbol.scope ++ "::" ++ symbol.name ++ " @ " ++ symbol.address.text ++
    if symbol.isPinned then " [pinned]" else ""

def toJson (symbol : Symbol) : Json :=
  .obj [("name", .str symbol.name), ("address", symbol.address.toJson),
    ("namespace", .str symbol.scope), ("source", symbol.source.toJson),
    ("primary", .bool symbol.isPrimary), ("pinned", .bool symbol.isPinned)]

def ofJson? (value : Json) : Option Symbol := do
  let record ← value.record? ["name", "address", "namespace", "source", "primary", "pinned"]
  let name ← (record.slot "name").required Json.str?
  let address ← (record.slot "address").required Address.ofJson?
  let scope ← (record.slot "namespace").required Json.str?
  let source ← (record.slot "source").required NameSource.ofJson?
  let isPrimary ← (record.slot "primary").required Json.bool?
  let isPinned ← (record.slot "pinned").required Json.bool?
  return ⟨name, address, scope, source, isPrimary, isPinned⟩

/-- A label name has characters, none of them blank or a control character. -/
def ValidName (name : String) : Prop :=
  name ≠ "" ∧ ∀ c ∈ name.toList, ¬ (Text.isBlank c ∨ Text.isControl c)

instance (name : String) : Decidable (ValidName name) :=
  @instDecidableAnd _ _ inferInstance (List.decidableBAll _ _)

def validateName (name : String) : Except Failure Unit :=
  if name = "" then .error (.invalidSymbolName "label name is empty")
  else if ValidName name then .ok ()
  else
    .error (.invalidSymbolName
      ("'" ++ name ++ "' contains whitespace or control characters"))

end Symbol

structure SymbolTable where
  /-- The labels at each labelled address, in the order of their creation. -/
  labels : SortedMap Address (List Symbol)
  entryPoints : SortedMap Address Unit
deriving DecidableEq, Repr

namespace SymbolTable

def empty : SymbolTable := ⟨.empty, .empty⟩

def symbolsAt (table : SymbolTable) (address : Address) : List Symbol :=
  (table.labels.get? address).getD []

def toList (table : SymbolTable) : List Symbol :=
  table.labels.values.flatten

def size (table : SymbolTable) : Nat := table.toList.length

def isEmpty (table : SymbolTable) : Bool := table.size == 0

def symbol? (table : SymbolTable) (address : Address) (name : String) : Option Symbol :=
  (table.symbolsAt address).find? fun symbol => symbol.name == name

def primary? (table : SymbolTable) (address : Address) : Option Symbol :=
  (table.symbolsAt address).find? Symbol.isPrimary

def symbolsNamed (table : SymbolTable) (name : String) : List Symbol :=
  table.toList.filter fun symbol => symbol.name == name

/-- A new label at an address, last among those there; a lone label is primary. -/
def newLabel (table : SymbolTable) (address : Address) (name : String) (source : NameSource) :
    Symbol :=
  ⟨name, address, Symbol.globalScope, source, (table.symbolsAt address).isEmpty, false⟩

/-- The table with a new label, and the label. -/
def create (table : SymbolTable) (address : Address) (name : String) (source : NameSource) :
    Except Failure (Symbol × SymbolTable) :=
  match Symbol.validateName name with
  | .error failure => .error failure
  | .ok () =>
      if (table.symbol? address name).isSome then
        .error (.duplicateSymbol name address.text)
      else
        let symbol := table.newLabel address name source
        .ok (symbol,
          { table with labels := table.labels.update address fun present => present.getD [] ++ [symbol] })

/-- A label is refused for its name, or because its name is taken at its address. -/
theorem create_error_cases {table : SymbolTable} {address : Address} {name : String}
    {source : NameSource} {failure : Failure}
    (refused : table.create address name source = .error failure) :
    (∃ reason, failure = .invalidSymbolName reason) ∨
      failure = .duplicateSymbol name address.text := by
  unfold create at refused
  cases checked : Symbol.validateName name with
  | error complaint =>
      obtain rfl : complaint = failure := by simpa [checked] using refused
      left
      unfold Symbol.validateName at checked
      split at checked
      · exact ⟨_, (Except.error.inj checked).symm⟩
      · split at checked
        · contradiction
        · exact ⟨_, (Except.error.inj checked).symm⟩
  | ok _ =>
      rw [checked] at refused
      by_cases taken : (table.symbol? address name).isSome = true
      · right
        simpa [taken] using refused.symm
      · simp [taken] at refused

def mapAt (table : SymbolTable) (address : Address) (change : Symbol → Symbol) : SymbolTable :=
  { table with labels := table.labels.update address fun present => (present.getD []).map change }

/-- The table with the named label primary at its address, and whether there is such a label. -/
def setPrimary (table : SymbolTable) (address : Address) (name : String) : Bool × SymbolTable :=
  if (table.symbol? address name).isSome then
    (true, table.mapAt address fun symbol => { symbol with isPrimary := symbol.name == name })
  else (false, table)

/-- The table with the named label pinned or not, and whether there is such a label. -/
def setPinned (table : SymbolTable) (address : Address) (name : String) (pinned : Bool) :
    Bool × SymbolTable :=
  if (table.symbol? address name).isSome then
    (true, table.mapAt address fun symbol =>
      if symbol.name = name then { symbol with isPinned := pinned } else symbol)
  else (false, table)

def addEntryPoint (table : SymbolTable) (address : Address) : SymbolTable :=
  { table with entryPoints := table.entryPoints.insert address () }

def isEntryPoint (table : SymbolTable) (address : Address) : Bool :=
  table.entryPoints.contains address

end SymbolTable

end ImageImport
