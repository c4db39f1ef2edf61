import ImageImport.Failure
import ImageImport.Json.Record
import ImageImport.Text.Blank
import ImageImport.Text.Digits

/-!
Contract: the options of a load, and their values on a command line.

An option has a declared type, which its value need not have until the option is validated. Two
boolean options are known to every loader; the others are for a loader to interpret.

Owns: option lists, their validation, and the reading of flags with values.
Does not own: the options of a particular loader.
-/

namespace ImageImport

inductive OptionType where
  | bool
  | int
  | string
deriving DecidableEq, Repr

namespace OptionType

def text : OptionType → String
  | .bool => "bool"
  | .int => "int"
  | .string => "string"

def storedName : OptionType → String
  | .bool => "Bool"
  | .int => "Int"
  | .string => "String"

def toJson (type : OptionType) : Json := .str type.storedName

def ofJson? (value : Json) : Option OptionType :=
  value.choice? ([bool, int, string].map fun type => (type.storedName, type))

end OptionType

inductive OptionValue where
  | bool (value : Bool)
  | int (value : Int64)
  | string (value : String)
deriving DecidableEq, Repr

namespace OptionValue

def type : OptionValue → OptionType
  | .bool _ => .bool
  | .int _ => .int
  | .string _ => .string

def asBool? : OptionValue → Option Bool
  | .bool value => some value
  | _ => none

def text : OptionValue → String
  | .bool true => "true"
  | .bool false => "false"
  | .int value => Text.decimalInt value.toInt
  | .string value => value

def toJson (value : OptionValue) : Json :=
  .obj [(value.type.storedName,
    match value with
    | .bool b => .bool b
    | .int i => .int i.toInt
    | .string s => .str s)]

def ofJson? : Json → Option OptionValue
  | .obj [(type, value)] =>
      if type = OptionType.bool.storedName then value.bool?.map .bool
      else if type = OptionType.int.storedName then value.int64?.map .int
      else if type = OptionType.string.storedName then value.str?.map .string
      else none
  | _ => none

end OptionValue

structure LoadOption where
  name : String
  value : OptionValue
  declaredType : OptionType
  /-- The command-line argument that stands in front of a value for the option. -/
  flag : Option String
deriving DecidableEq, Repr

namespace LoadOption

def applyLabelsName : String := "Apply Processor Defined Labels"

def anchorLabelsName : String := "Anchor Processor Defined Labels"

def defaultFlagStem : String := "-loader"

def boolean (name : String) (value : Bool) (flag : String) : LoadOption :=
  ⟨name, .bool value, .bool, some flag⟩

/-- The two options that every loader knows. -/
def defaults (applyLabels : Bool) (flagStem : String) : List LoadOption :=
  [boolean applyLabelsName applyLabels (flagStem ++ "-applyLabels"),
    boolean anchorLabelsName true (flagStem ++ "-anchorLabels")]

def typeComplaint (option : LoadOption) : String :=
  "Invalid type for option: " ++ option.name ++ " - " ++ option.declaredType.text

/-- The complaint about the first option whose declared type is not the one its name asks for. -/
def firstComplaint? (typeOf? : String → Option OptionType) (options : List LoadOption) :
    Option String :=
  (options.find? fun option =>
    match typeOf? option.name with
    | some type => option.declaredType != type
    | none => false).map typeComplaint

def knownType? (name : String) : Option OptionType :=
  if name = applyLabelsName ∨ name = anchorLabelsName then some .bool else none

def validate (options : List LoadOption) : Except String Unit :=
  match firstComplaint? knownType? options with
  | some complaint => .error complaint
  | none => .ok ()

/-- The value of the first option of that name; a default where it is absent or not boolean. -/
def booleanValue (name : String) (options : List LoadOption) (fallback : Bool) : Bool :=
  match options.find? fun option => option.name == name with
  | some option => option.value.asBool?.getD fallback
  | none => fallback

/-- The value that a command-line argument denotes for a declared type. -/
def readValue (flag raw : String) : OptionType → Except Failure OptionValue
  | .bool =>
      let lowered := Text.toAsciiLower raw
      if ["true", "yes", "1"].contains lowered then .ok (.bool true)
      else if ["false", "no", "0"].contains lowered then .ok (.bool false)
      else .error (.invalidOption (flag ++ " expects a boolean, got '" ++ raw ++ "'"))
  | .int =>
      match Text.readInt64? raw.toList with
      | some value => .ok (.int value)
      | none => .error (.invalidOption (flag ++ " expects an integer, got '" ++ raw ++ "'"))
  | .string => .ok (.string raw)

def assign (flag : String) (value : OptionValue) : List LoadOption → List LoadOption
  | [] => []
  | option :: rest =>
      if option.flag = some flag then { option with value } :: rest
      else option :: assign flag value rest

/-- Reads flags with a value each; arguments that do not begin as flags do are passed over. Options
that were set before an argument was refused stay set. -/
def parseArguments (flagStem : String) :
    List String → List LoadOption → Except Failure Unit × List LoadOption
  | [], options => (.ok (), options)
  | flag :: rest, options =>
      if (Text.dropBeginning? flagStem.toList flag.toList).isNone then
        parseArguments flagStem rest options
      else
        match options.find? fun option => option.flag == some flag with
        | none => (.error (.invalidOption ("unknown loader argument " ++ flag)), options)
        | some option =>
            match rest with
            | [] => (.error (.invalidOption (flag ++ " requires a value")), options)
            | raw :: rest =>
                match readValue flag raw option.declaredType with
                | .error failure => (.error failure, options)
                | .ok value => parseArguments flagStem rest (assign flag value options)

def toJson (option : LoadOption) : Json :=
  .obj [("name", .str option.name), ("value", option.value.toJson),
    ("declared_type", option.declaredType.toJson), ("arg", .ofOption .str option.flag)]

def ofJson? (value : Json) : Option LoadOption := do
  let record ← value.record? ["name", "value", "declared_type", "arg"]
  let name ← (record.slot "name").required Json.str?
  let optionValue ← (record.slot "value").required OptionValue.ofJson?
  let declaredType ← (record.slot "declared_type").required OptionType.ofJson?
  let flag ← (record.slot "arg").optional Json.str?
  return ⟨name, optionValue, declaredType, flag⟩

end LoadOption

end ImageImport
