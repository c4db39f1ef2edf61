import ImageImport.Load.Option

/-!
Contract: the configuration of loaders and byte sources.

Every section and every setting has a default, so a stored configuration names only what it changes.
-/

namespace ImageImport

structure SourceLimits where
  /-- The most bytes that a file may have to be opened. -/
  maxFileSize : UInt64
deriving DecidableEq, Repr

structure FlagNaming where
  flagStem : String
deriving DecidableEq, Repr

structure LabelDefaults where
  apply : Bool
  anchor : Bool
deriving DecidableEq, Repr

structure Config where
  limits : SourceLimits
  naming : FlagNaming
  labels : LabelDefaults
deriving DecidableEq, Repr

namespace Config

def default : Config := ⟨⟨1073741824⟩, ⟨LoadOption.defaultFlagStem⟩, ⟨false, true⟩⟩

def toJson (config : Config) : Json :=
  .obj
    [("io", .obj [("max_file_size", .ofNat config.limits.maxFileSize.toNat)]),
      ("naming", .obj [("command_line_arg_prefix", .str config.naming.flagStem)]),
      ("labels", .obj [("apply_by_default", .bool config.labels.apply),
        ("anchor_by_default", .bool config.labels.anchor)])]

def limitsOfJson? (value : Json) : Option SourceLimits := do
  let record ← value.record? ["max_file_size"]
  let maxFileSize ←
    (record.slot "max_file_size").withDefault default.limits.maxFileSize Json.uint64?
  return ⟨maxFileSize⟩

def namingOfJson? (value : Json) : Option FlagNaming := do
  let record ← value.record? ["command_line_arg_prefix"]
  let flagStem ←
    (record.slot "command_line_arg_prefix").withDefault default.naming.flagStem Json.str?
  return ⟨flagStem⟩

def labelsOfJson? (value : Json) : Option LabelDefaults := do
  let record ← value.record? ["apply_by_default", "anchor_by_default"]
  let apply ← (record.slot "apply_by_default").withDefault default.labels.apply Json.bool?
  let anchor ← (record.slot "anchor_by_default").withDefault default.labels.anchor Json.bool?
  return ⟨apply, anchor⟩

def ofJson? (value : Json) : Option Config := do
  let record ← value.record? ["io", "naming", "labels"]
  let limits ← (record.slot "io").withDefault default.limits limitsOfJson?
  let naming ← (record.slot "naming").withDefault default.naming namingOfJson?
  let labels ← (record.slot "labels").withDefault default.labels labelsOfJson?
  return ⟨limits, naming, labels⟩

def parse (text : String) : Except Failure Config :=
  Json.decodeText ofJson? text

end Config

end ImageImport
