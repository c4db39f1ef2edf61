import ImageImport.Proofs.Store.Tree

/-!
Contract: what a new file is made with is read from it again.

A file is only made at a place where nothing is, so the way that led to the place leads there
afterwards too; and a path that leads to room for a file ends in a name, as the path of a file has to
when it is read. No limit of the tree and no form of the path is taken for granted.

Owns: the reading of a file that was just made, as bytes and as a text.
Does not own: what the text says.
-/

namespace ImageImport

/-! ## Texts as bytes -/

/-- The bytes that are left come behind those that were listed. -/
theorem toList_loop_eq (bytes : ByteArray) (i : Nat) (done : List UInt8) :
    ByteArray.toList.loop bytes i done = done.reverse ++ bytes.data.toList.drop i := by
  induction i, done using ByteArray.toList.loop.induct bytes with
  | case1 i done inside inductionHypothesis =>
      have next : bytes.data.toList.drop i = bytes.get! i :: bytes.data.toList.drop (i + 1) := by
        have inList : i < bytes.data.toList.length := by simpa using inside
        rw [List.drop_eq_getElem_cons inList, Array.getElem_toList]
        exact congrArg (· :: _) (getElem!_pos bytes.data i inside).symm
      rw [ByteArray.toList.loop, if_pos inside, inductionHypothesis, next]
      simp
  | case2 i done outside =>
      have atEnd : bytes.data.toList.drop i = [] := List.drop_eq_nil_of_le (by simpa using outside)
      rw [ByteArray.toList.loop, if_neg outside, atEnd, List.append_nil]

/-- A text is what its bytes denote. -/
theorem fromUTF8?_toUTF8 (text : String) :
    String.fromUTF8? (ByteArray.mk text.toUTF8.toList.toArray) = some text := by
  have sameBytes : ByteArray.mk text.toUTF8.toList.toArray = text.toByteArray := by
    rw [ByteArray.toList, toList_loop_eq]
    rfl
  rw [sameBytes, String.fromUTF8?, dif_pos text.isValidUTF8]
  rfl

namespace FileTree

/-! ## New files -/

variable {tree stored : FileTree} {text : String} {bytes : List UInt8} {path : FilePath}
  {place : List String}

theorem findRoom_eq_ok_some (found : tree.findRoom path = .ok (some place)) :
    path.newName?.isSome = true ∧ tree.locate path = .ok place := by
  unfold findRoom at found
  cases named : path.newName? with
  | none =>
      rw [named] at found
      cases around : tree.findDirectory path <;> simp [around, bind, Except.bind] at found
  | some name =>
      rw [named] at found
      cases around : tree.findDirectory path.outer with
      | error fault => simp [around, bind, Except.bind] at found
      | ok directory =>
          cases located : tree.locate path with
          | error fault => simp [around, located, bind, Except.bind] at found
          | ok there =>
              simp only [around, located, bind, Except.bind, pure, Except.pure, Except.ok.injEq,
                Option.some.injEq] at found
              exact ⟨rfl, congrArg Except.ok found⟩

/-- There is room for a file only where the path ends in a name. -/
theorem findFileRoom_eq_ok_some {present : Option FileEntry}
    (found : tree.findFileRoom path = .ok (some (place, present))) :
    path.ending = .name ∧ tree.locate path = .ok place ∧ tree.entry? place = present := by
  unfold findFileRoom at found
  split at found
  · cases around : tree.findDirectory path.outer <;> simp [around, bind, Except.bind] at found
  · next notSlash =>
      cases room : tree.findRoom path with
      | error fault => simp [room, bind, Except.bind] at found
      | ok there =>
          cases there with
          | none => simp [room, bind, Except.bind, pure, Except.pure] at found
          | some there =>
              simp only [room, bind, Except.bind, pure, Except.pure, Except.ok.injEq,
                Option.some.injEq, Prod.mk.injEq] at found
              obtain ⟨rfl, rfl⟩ := found
              obtain ⟨named, located⟩ := findRoom_eq_ok_some room
              refine ⟨?_, located, rfl⟩
              cases ending : path.ending with
              | name => rfl
              | slash => exact absurd ⟨ending, named⟩ notSlash
              | here => simp [FilePath.newName?, ending] at named

/-- A file is made at the place that its path leads to, where nothing was. -/
theorem createFile_eq_ok (created : tree.createFile text bytes = .ok stored) :
    ∃ path place, tree.readShortPath text = .ok path ∧ path.ending = .name ∧
      tree.locate path = .ok place ∧ tree.entry? place = none ∧
      stored = tree.put place (.file bytes) := by
  unfold createFile at created
  cases read : tree.readShortPath text with
  | error fault => simp [read, bind, Except.bind] at created
  | ok path =>
      cases room : tree.findFileRoom path with
      | error fault => simp [read, room, bind, Except.bind] at created
      | ok there =>
          simp only [read, room, bind, Except.bind] at created
          split at created
          · next place =>
              obtain ⟨endsInName, located, free⟩ := findFileRoom_eq_ok_some room
              exact ⟨path, place, rfl, endsInName, located, free, (Except.ok.inj created).symm⟩
          · contradiction

/-- A new file holds what it was made with. -/
theorem readFile_of_createFile (created : tree.createFile text bytes = .ok stored) :
    stored.readFile text = .ok bytes := by
  obtain ⟨path, place, read, endsInName, located, free, rfl⟩ := createFile_eq_ok created
  have readAgain : (tree.put place (.file bytes)).readShortPath text = .ok path := read
  have locatedAgain : (tree.put place (.file bytes)).locate path = .ok place :=
    follow_put free _ located
  have found : entry? (tree.put place (.file bytes)) place = some (.file bytes) := by
    rw [entry?_put free, if_pos rfl]
  simp [readFile, readAgain, find, locatedAgain, found, endsInName, bind, Except.bind]

/-- A text that was stored in a new file is read from it. -/
theorem readText_of_createFile {content : String}
    (created : tree.createFile text content.toUTF8.toList = .ok stored) :
    stored.readText text = .ok content := by
  have read := readFile_of_createFile created
  simp only [readText, read, bind, Except.bind, fromUTF8?_toUTF8]

end FileTree

end ImageImport
