import ImageImport.Load.Config
import ImageImport.Program.Snapshot
import ImageImport.Proofs.Json.Records
import ImageImport.Proofs.Memory.Permissions
import ImageImport.Proofs.Table.Order

/-!
Contract: every record that has a stored form is read back from it.

A record is written with all its fields, also those that a reader would take a default for, so its
reading comes down to the readings of the fields.

Owns: the records of a stored program, of languages and of configurations, field by field.
Does not own: the text of a stored form, and where it is kept.
-/

namespace ImageImport

open Json

/-! ## Kinds, spaces and addresses -/

theorem SpaceKind.inverts : Inverts SpaceKind.ofJson? SpaceKind.toJson where
  decode_encode kind := by cases kind <;> rfl
  ne_null := nofun

theorem RegisterKind.inverts : Inverts RegisterKind.ofJson? RegisterKind.toJson where
  decode_encode kind := by cases kind <;> rfl
  ne_null := nofun

theorem NameSource.inverts : Inverts NameSource.ofJson? NameSource.toJson where
  decode_encode source := by cases source <;> rfl
  ne_null := nofun

theorem AddressSpace.inverts : Inverts AddressSpace.ofJson? AddressSpace.toJson where
  decode_encode space := by
    rw [AddressSpace.ofJson?, AddressSpace.toJson, record?_of_names]
    · simp [SpaceKind.inverts.decode_encode, inverts_str.optional]
    · rfl
    · decide
  ne_null := nofun

theorem Address.inverts : Inverts Address.ofJson? Address.toJson where
  decode_encode address := by
    rw [Address.ofJson?, Address.toJson, record?_of_names]
    · simp [SpaceKind.inverts.decode_encode, inverts_uint16.optional]
    · rfl
    · decide
  ne_null := nofun

/-! ## What a program holds -/

theorem BlockSnapshot.inverts : Inverts BlockSnapshot.ofJson? BlockSnapshot.toJson where
  decode_encode block := by
    rw [BlockSnapshot.ofJson?, BlockSnapshot.toJson, record?_of_names]
    · simp [Address.inverts.decode_encode, Permissions.inverts.decode_encode]
    · rfl
    · decide
  ne_null := nofun

theorem Symbol.inverts : Inverts Symbol.ofJson? Symbol.toJson where
  decode_encode symbol := by
    rw [Symbol.ofJson?, Symbol.toJson, record?_of_names]
    · simp [Address.inverts.decode_encode, NameSource.inverts.decode_encode]
    · rfl
    · decide
  ne_null := nofun

theorem Function.inverts : Inverts Function.ofJson? Function.toJson where
  decode_encode function := by
    rw [Function.ofJson?, Function.toJson, record?_of_names]
    · simp [inverts_str.nullable, Address.inverts.decode_encode, NameSource.inverts.decode_encode]
    · rfl
    · decide
  ne_null := nofun

/-- Properties are read back if they stand in order, which those of a program do. -/
theorem Snapshot.propertiesOfJson?_propertiesToJson {properties : SortedMap String String}
    (ordered : properties.Ordered) :
    propertiesOfJson? (propertiesToJson properties) = some properties := by
  have members : (properties.entries.map fun entry => (entry.1, Json.str entry.2)).mapM
      readProperty? = some (properties.entries.map fun entry => entry) :=
    mapM_map_eq_some fun entry _ => rfl
  rw [propertiesToJson, propertiesOfJson?, members, List.map_id', Option.map_some,
    ordered.ofList_entries]

/-- A stored program is read back if its properties stand in order. -/
theorem Snapshot.ofJson?_toJson {snapshot : Snapshot} (ordered : snapshot.properties.Ordered) :
    ofJson? snapshot.toJson = some snapshot := by
  rw [Snapshot.ofJson?, Snapshot.toJson, record?_of_names]
  · simp [propertiesOfJson?_propertiesToJson ordered, Address.inverts.nullable,
      BlockSnapshot.inverts.list?, Symbol.inverts.list?, Address.inverts.list?,
      Function.inverts.list?]
  · rfl
  · decide

/-! ## Languages -/

theorem BlockDefinition.inverts : Inverts BlockDefinition.ofJson? BlockDefinition.toJson where
  decode_encode definition := by
    rw [BlockDefinition.ofJson?, BlockDefinition.toJson, record?_of_names]
    · simp [Permissions.inverts.decode_encode]
    · rfl
    · decide
  ne_null := nofun

theorem Register.inverts : Inverts Register.ofJson? Register.toJson where
  decode_encode register := by
    rw [Register.ofJson?, Register.toJson, record?_of_names]
    · simp [RegisterKind.inverts.decode_encode, Address.inverts.decode_encode]
    · rfl
    · decide
  ne_null := nofun

theorem DefaultLabel.inverts : Inverts DefaultLabel.ofJson? DefaultLabel.toJson where
  decode_encode label := by
    rw [DefaultLabel.ofJson?, DefaultLabel.toJson, record?_of_names]
    · simp [Address.inverts.decode_encode]
    · rfl
    · decide
  ne_null := nofun

theorem Language.inverts : Inverts Language.ofJson? Language.toJson where
  decode_encode language := by
    rw [Language.ofJson?, Language.toJson, record?_of_names]
    · simp [AddressSpace.inverts.list?, Register.inverts.list?, DefaultLabel.inverts.list?,
        BlockDefinition.inverts.list?]
    · rfl
    · decide
  ne_null := nofun

/-! ## Configurations -/

namespace Config

theorem limitsOfJson?_written (limits : SourceLimits) :
    limitsOfJson? (.obj [("max_file_size", .ofNat limits.maxFileSize.toNat)]) = some limits := by
  rw [limitsOfJson?, record?_of_names]
  · simp
  · rfl
  · decide

theorem namingOfJson?_written (naming : FlagNaming) :
    namingOfJson? (.obj [("command_line_arg_prefix", .str naming.flagStem)]) = some naming := by
  rw [namingOfJson?, record?_of_names]
  · simp
  · rfl
  · decide

theorem labelsOfJson?_written (labels : LabelDefaults) :
    labelsOfJson? (.obj [("apply_by_default", .bool labels.apply),
      ("anchor_by_default", .bool labels.anchor)]) = some labels := by
  rw [labelsOfJson?, record?_of_names]
  · simp
  · rfl
  · decide

theorem inverts : Inverts ofJson? toJson where
  decode_encode config := by
    rw [ofJson?, toJson, record?_of_names]
    · simp [limitsOfJson?_written, namingOfJson?_written, labelsOfJson?_written]
    · rfl
    · decide
  ne_null := nofun

end Config

end ImageImport
