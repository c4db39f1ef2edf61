import ImageImport.Proofs.Json.Parse
import ImageImport.Proofs.Program.Invariant
import ImageImport.Proofs.Store.Files
import ImageImport.Proofs.Store.Records
import ImageImport.Store.Directory
import ImageImport.Store.Memory

/-!
Contract: what is stored can be read back.

The text of a value is parsed as the value, and the value of a record is decoded as the record. A
record of a program asks for its properties in order, and whatever is done to a program keeps them
so. What a storage keeps is the text of the program as it was when it was stored.

Owns: stored programs in both storages, and the texts of languages and of configurations.
Does not own: the form of those texts.
-/

namespace ImageImport

namespace Program

/-- Of all changes, only a property that is set touches the properties, and it is put in its place. -/
theorem Mutation.change_keeps_properties_ordered (mutation : Mutation) (state next : ProgramState)
    (ordered : state.properties.Ordered) (changed : mutation.change state = .ok next) :
    next.properties.Ordered := by
  cases changes_of_change changed with
  | setsProperty key value => exact ordered.update key _
  | _ => exact ordered

/-- The properties of a program stand in order, whatever was done to it. -/
theorem ordered_properties_of_run (name : String) (language : Language) (compiler : String)
    (consumer : Consumer) (operations : List Operation) :
    (run operations (make name language compiler consumer)).2.state.properties.Ordered := by
  have empty : (make name language compiler consumer).Keeps
      fun state => state.properties.Ordered :=
    keeps_of_idle SortedMap.ordered_empty rfl
  exact (empty.run Mutation.change_keeps_properties_ordered operations).current

end Program

/-! ## Texts -/

/-- A printed value is decoded as what it is the value of. -/
theorem Json.decodeText_print {α : Type} {ofJson? : Json → Option α} {value : Json} {decoded : α}
    (decodes : ofJson? value = some decoded) (layout : Json.Layout) :
    Json.decodeText ofJson? (Json.print layout value) = .ok decoded := by
  rw [Json.decodeText, Json.parse?_print]
  simp only [Json.decode, decodes]

theorem Snapshot.parse_print {snapshot : Snapshot} (ordered : snapshot.properties.Ordered)
    (layout : Json.Layout) :
    Snapshot.parse (Json.print layout snapshot.toJson) = .ok snapshot :=
  Json.decodeText_print (Snapshot.ofJson?_toJson ordered) layout

theorem Language.parse_print {language : Language}
    (declared : language.defaultSpace?.isSome = true) (layout : Json.Layout) :
    Language.parse (Json.print layout language.toJson) = .ok language := by
  rw [Language.parse, Json.decodeText_print (Language.inverts.decode_encode language)]
  exact if_pos declared

theorem Config.parse_print (config : Config) (layout : Json.Layout) :
    Config.parse (Json.print layout config.toJson) = .ok config :=
  Json.decodeText_print (Config.inverts.decode_encode config) layout

/-! ## Storages -/

section Storages

variable {program : Program} {name : String} {monitor left : Monitor}

/-- A program that was stored in memory is found under its name as it was. -/
theorem MemoryStore.snapshot?_of_createFile {folder : MemoryFolder} {store stored : MemoryStore}
    (ordered : program.state.properties.Ordered)
    (created : (MemoryStore.createFile folder name program).apply (monitor, store) =
      (.ok (), left, stored)) :
    stored.snapshot? folder name = .ok (some (Snapshot.ofProgram program)) := by
  simp only [MemoryStore.createFile, Attempt.apply_of] at created
  split at created
  · simp at created
  · split at created
    · simp at created
    · split at created
      · simp at created
      · obtain ⟨-, rfl⟩ := Prod.mk.inj (Prod.mk.inj created).2
        have found : (MemoryStore.filesOf ⟨store.folders.insert folder.place
            ((store.filesOf folder).insert name (MemoryStore.storedText program))⟩ folder).get?
              name = some (MemoryStore.storedText program) := by
          rw [MemoryStore.filesOf, SortedMap.get?_insert, if_pos rfl, Option.getD_some,
            SortedMap.get?_insert, if_pos rfl]
        have read : Snapshot.parse (MemoryStore.storedText program) =
            .ok (Snapshot.ofProgram program) :=
          Snapshot.parse_print ordered .compact
        simp only [MemoryStore.snapshot?, found, read]

/-- A program that was stored in a directory is found under its name as it was. -/
theorem DirectoryFolder.snapshot_of_createFile {folder : DirectoryFolder} {tree stored : FileTree}
    (ordered : program.state.properties.Ordered)
    (created : (folder.createFile name program).apply (monitor, tree) = (.ok (), left, stored)) :
    DirectoryFolder.snapshot stored folder name = .ok (Snapshot.ofProgram program) := by
  simp only [DirectoryFolder.createFile, Attempt.apply_of] at created
  split at created
  · simp at created
  · split at created
    · simp at created
    · split at created
      · next made =>
          obtain ⟨-, rfl⟩ := Prod.mk.inj (Prod.mk.inj created).2
          have text := FileTree.readText_of_createFile made
          have read : Snapshot.parse (DirectoryFolder.storedText program) =
              .ok (Snapshot.ofProgram program) :=
            Snapshot.parse_print ordered .indented
          delta DirectoryFolder.snapshot
          rw [text]
          exact read
      · simp at created
      · simp at created

end Storages

/-- However a program is stored, it is read back as what it was then. -/
structure Program.ReadBack (program : Program) : Prop where
  asText : ∀ layout,
    Snapshot.parse (Json.print layout (Snapshot.ofProgram program).toJson) =
      .ok (Snapshot.ofProgram program)
  inMemory : ∀ (folder : MemoryFolder) (name : String) (monitor left : Monitor)
      (store stored : MemoryStore),
    (MemoryStore.createFile folder name program).apply (monitor, store) =
        (.ok (), left, stored) →
      stored.snapshot? folder name = .ok (some (Snapshot.ofProgram program))
  inDirectory : ∀ (folder : DirectoryFolder) (name : String) (monitor left : Monitor)
      (tree stored : FileTree),
    (folder.createFile name program).apply (monitor, tree) = (.ok (), left, stored) →
      DirectoryFolder.snapshot stored folder name = .ok (Snapshot.ofProgram program)

/-- What is stored is read back: every program that can come about, in memory, in a directory and in
either layout of the text; every language that declares its default space; and every
configuration. -/
theorem stored_is_read_back :
    (∀ (name : String) (language : Language) (compiler : String) (consumer : Consumer)
        (operations : List Program.Operation),
      (Program.run operations (Program.make name language compiler consumer)).2.ReadBack) ∧
    (∀ (language : Language) (layout : Json.Layout), language.defaultSpace?.isSome = true →
      Language.parse (Json.print layout language.toJson) = .ok language) ∧
    ∀ (config : Config) (layout : Json.Layout),
      Config.parse (Json.print layout config.toJson) = .ok config := by
  refine ⟨fun name language compiler consumer operations => ?_,
    fun language layout declared => Language.parse_print declared layout, Config.parse_print⟩
  have ordered :=
    Program.ordered_properties_of_run name language compiler consumer operations
  exact ⟨Snapshot.parse_print ordered,
    fun _ _ _ _ _ _ created => MemoryStore.snapshot?_of_createFile ordered created,
    fun _ _ _ _ _ _ created => DirectoryFolder.snapshot_of_createFile ordered created⟩

/-- A program with a block that ends at the largest offset of all, unnamed permissions and a
segmented image base, in both storages; and its language. -/
theorem read_back_from_the_end_of_a_space :
    let ram : AddressSpace := ⟨"ram", .ram, 64, none⟩
    let language := Language.make "target" ram
    let base : Address := ⟨"ram", .ram, 0x10005, 64, some 0x1000⟩
    let top : MemoryBlock :=
      ⟨"top", ⟨"ram", .ram, 0xfffffffffffffffe, 64, none⟩, 2, ⟨0xf5⟩, false, false,
        .uninitialized, ""⟩
    let operations : List Program.Operation :=
      [.start "fill", .mutate (.setProperty "clé" ""), .mutate (.setImageBase base),
        .mutate (.addBlock ram top), .finish 1 true]
    let program := (Program.run operations (.make "image" language "default" ⟨0⟩)).2
    let inMemory : MemoryFolder := ⟨"store", "/", []⟩
    let inDirectory : DirectoryFolder := ⟨"d", "d"⟩
    let kept := (MemoryStore.createFile inMemory "image" program).apply (.make none, .empty)
    let written :=
      (inDirectory.createFile "image" program).apply (.make none, FileTree.withOne "d")
    (Snapshot.ofProgram program).blocks = [BlockSnapshot.ofBlock top] ∧
      (Snapshot.ofProgram program).imageBase = some base ∧
      kept.1 = .ok () ∧
      kept.2.2.snapshot? inMemory "image" = .ok (some (Snapshot.ofProgram program)) ∧
      written.1 = .ok () ∧
      DirectoryFolder.snapshot written.2.2 inDirectory "image" =
        .ok (Snapshot.ofProgram program) ∧
      language.defaultSpace?.isSome = true ∧
      Language.parse (Json.print .compact language.toJson) = .ok language := by
  intro ram language base top operations program inMemory inDirectory kept written
  obtain ⟨programs, languages, -⟩ := stored_is_read_back
  have readBack : program.ReadBack := programs "image" language "default" ⟨0⟩ operations
  have keptIt : kept.1 = .ok () := by decide +kernel
  have wroteIt : written.1 = .ok () := by decide +kernel
  have declared : language.defaultSpace?.isSome = true := by decide
  exact ⟨by decide +kernel, by decide +kernel, keptIt,
    readBack.inMemory _ _ _ kept.2.1 _ _ (Prod.ext keptIt rfl), wroteIt,
    readBack.inDirectory _ _ _ written.2.1 _ _ (Prod.ext wroteIt rfl), declared,
    languages language .compact declared⟩

end ImageImport
