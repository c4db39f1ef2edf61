import ImageImport.Proofs.Store.Ledger
import ImageImport.Proofs.Store.Tree
import ImageImport.Store.Directory
import ImageImport.Store.Memory

/-!
Contract: storage in memory and storage in a directory answer alike.

Both follow the ledger of what was stored. In memory that needs nothing: files and folders are kept
apart. In a directory they stand side by side, told apart by the ending of their names alone. So a
folder whose name has the ending of a file is taken for a program, and the name that is left without
the ending cannot be stored any more; and a question about a name with a slash in it looks into
another folder. Where neither comes up, the two answer alike.

Owns: what each of the two storages keeps for a ledger, and their agreement.
Does not own: what is in the files, faults of the file system, and files that others write.
-/

namespace ImageImport

open Storage Storage.Ledger

/-! ## Names -/

namespace Storage

theorem isName_of_validateName {name : String} (valid : validateName name = .ok ()) :
    FilePath.IsName name := by
  obtain ⟨⟨c, member, -⟩, notHere, notBack, allowed⟩ := (validateName_eq_ok_iff name).mp valid
  refine ⟨?_, notHere, notBack, fun slash => ?_, ?_⟩
  · rintro rfl
    exact List.not_mem_nil member
  · exact nomatch allowed '/' slash
  · refine List.any_eq_false.mpr fun other inName nul => ?_
    have forbidden : isForbidden other = true := by
      simp [isForbidden, Text.isControl, beq_iff_eq.mp nul]
    rw [allowed other inName] at forbidden
    contradiction

end Storage

/-! ## In memory -/

namespace MemoryStore

/-- The folder is at a place in the container. -/
def At (container : String) (_ : MemoryStore) (folder : MemoryFolder) (place : List String) :
    Prop :=
  folder.container = container ∧ folder.names = place

def filesAt (store : MemoryStore) (container : String) (place : List String) :
    SortedMap String String :=
  (store.folders.get? (container :: place)).getD .empty

/-- The container has exactly these files. -/
structure Has (container : String) (store : MemoryStore) (files : List (List String × String)) :
    Prop where
  ordered : ∀ place, (store.filesAt container place).Ordered
  keys_perm : ∀ place, (store.filesAt container place).keys.Perm (namesIn files place)

section

variable {container : String} {store : MemoryStore} {folder : MemoryFolder} {place : List String}
  {files : List (List String × String)} {name : String} {monitor : Monitor}

theorem filesOf_eq (folderAt : At container store folder place) :
    store.filesOf folder = store.filesAt container place := by
  obtain ⟨rfl, rfl⟩ := folderAt
  rfl

theorem Has.contains_iff (has : Has container store files)
    (folderAt : At container store folder place) :
    (store.filesOf folder).contains name = true ↔ name ∈ namesIn files place := by
  rw [filesOf_eq folderAt, SortedMap.contains_iff_mem_keys]
  exact (has.keys_perm place).mem_iff

theorem Has.stored (has : Has container store files) (folderAt : At container store folder place)
    (free : name ∉ namesIn files place) (program : Program) :
    Has container (store.keep folder name program) ((place, name) :: files) := by
  have filesAt_keep (other : List String) :
      (store.keep folder name program).filesAt container other =
        if other = place then (store.filesAt container place).insert name (storedText program)
        else store.filesAt container other := by
    obtain ⟨rfl, rfl⟩ := folderAt
    rw [filesAt, keep, MemoryFolder.place, SortedMap.get?_insert]
    by_cases same : other = folder.names
    · rw [if_pos (by rw [same]), if_pos same]
      rfl
    · rw [if_neg (fun sameKey => same (List.cons.inj sameKey).2), if_neg same]
      rfl
  have absent : (store.filesAt container place).get? name = none := by
    rw [← Option.not_isSome_iff_eq_none, ← filesOf_eq folderAt]
    exact mt (has.contains_iff folderAt).mp free
  refine ⟨fun other => ?_, fun other => ?_⟩
  · rw [filesAt_keep]
    split
    · exact (has.ordered place).update name _
    · exact has.ordered other
  · rw [filesAt_keep, namesIn_cons]
    by_cases same : other = place
    · rw [if_pos same, if_pos same, same]
      exact (SortedMap.keys_insert_perm absent).trans ((has.keys_perm place).cons name)
    · rw [if_neg same, if_neg same]
      exact has.keys_perm other

theorem Has.createFile_eq (has : Has container store files)
    (folderAt : At container store folder place) (program : Program) :
    (storage.createFile folder name program).apply (monitor, store) =
      match outcome files place name monitor with
      | .ok () => (.ok (), monitor.check.2, store.keep folder name program)
      | .error failure => (.error failure, monitor.check.2, store) := by
  have taken_iff : (store.filesOf folder).contains name = true ↔ name ∈ namesIn files place :=
    has.contains_iff folderAt
  simp only [storage, createFile, Attempt.apply_of, outcome]
  cases monitor.check with
  | mk result polled =>
  cases result with
  | error failure => rfl
  | ok _ =>
  cases validateName name with
  | error failure => rfl
  | ok _ =>
  by_cases taken : name ∈ namesIn files place
  · simp only [taken_iff.mpr taken, taken, if_true]
  · simp only [taken_iff, taken, if_false]
    rfl

end

/-- Storage in memory follows the ledger, whatever it is asked. -/
theorem follows (container : String) :
    Follows storage (fun _ => True) (At container) (Has container) where
  createFile_of_ok := by
    intro store folder place files name monitor folderAt has judged program
    obtain ⟨-, -, free⟩ := outcome_eq_ok_iff.mp judged
    refine ⟨store.keep folder name program, ?_, has.stored folderAt free program, id⟩
    rw [has.createFile_eq folderAt, judged]
  createFile_of_error := by
    intro store folder place files name monitor failure folderAt has judged program
    rw [has.createFile_eq folderAt, judged]
  createFolder_of_ok := by
    intro store folder place files name folderAt has _ valid
    obtain ⟨rfl, rfl⟩ := folderAt
    refine ⟨{ folder with names := folder.names ++ [name] }, store, ?_, ⟨rfl, rfl⟩, has, id⟩
    simp [storage, createFolder, valid]
  createFolder_of_error := by
    intro folder name failure refused store
    simp [storage, createFolder, refused]
  contains_iff := by
    intro store folder place files name folderAt has _ _
    exact has.contains_iff folderAt
  fileNames_eq := by
    intro store folder place files folderAt has
    have increasing : (store.filesAt container place).keys.Pairwise (· < ·) :=
      (has.ordered place).keys_increasing.imp fun less => compareOfLessAndEq_eq_lt.mp less
    calc storage.fileNames folder store
        = (store.filesAt container place).keys := by rw [← filesOf_eq folderAt]; rfl
      _ = sorted (store.filesAt container place).keys := (sorted_eq_self increasing).symm
      _ = sorted (namesIn files place) := sorted_congr (has.keys_perm place)

end MemoryStore

/-! ## In a directory -/

namespace DirectoryFolder

theorem programName?_eq_some_iff {fileName name : String} :
    programName? fileName = some name ↔ fileName = name ++ fileEnding := by
  unfold programName?
  rw [Option.map_eq_some_iff]
  constructor
  · rintro ⟨reversed, dropped, rfl⟩
    rw [Text.dropBeginning?_eq_some_iff] at dropped
    rw [← String.toList_inj, String.toList_append, String.toList_ofList, ← List.reverse_inj,
      dropped]
    simp
  · rintro rfl
    refine ⟨name.toList.reverse, Text.dropBeginning?_eq_some_iff.mpr (by simp), by simp⟩

/-- The file of a program can be named, if the program can be asked for by a mere name. -/
theorem isName_append_fileEnding {name : String} (noSlash : '/' ∉ name.toList)
    (noNul : name.toList.any (·.toNat == 0) = false) : FilePath.IsName (name ++ fileEnding) := by
  have longer (short : String) (isShort : short.toList.length < 11) :
      name ++ fileEnding ≠ short := by
    rintro rfl
    have ending : fileEnding.toList.length = 11 := by decide
    rw [String.toList_append, List.length_append, ending] at isShort
    omega
  refine ⟨longer "" (by decide), longer "." (by decide), longer ".." (by decide), ?_, ?_⟩
  · have absent : '/' ∉ fileEnding.toList := by decide
    rw [String.toList_append, List.mem_append, not_or]
    exact ⟨noSlash, absent⟩
  · have absent : fileEnding.toList.any (·.toNat == 0) = false := by decide
    rw [String.toList_append, List.any_append, noNul, absent]
    rfl

/-- The folder leads to a place in the directory. -/
def At (root : List String) (tree : FileTree) (folder : DirectoryFolder) (place : List String) :
    Prop :=
  tree.Opens folder.path (root ++ place)

/-- A request that names no directory like a file, and asks for no path in place of a name. -/
def Plain : Request → Prop
  | .createFolder name => validateName name = .ok () → programName? name = none
  | .contains name => '/' ∉ name.toList
  | .createFile .. | .fileNames => True

instance : DecidablePred Plain
  | .createFolder name =>
      inferInstanceAs (Decidable (validateName name = .ok () → programName? name = none))
  | .contains name => inferInstanceAs (Decidable ('/' ∉ name.toList))
  | .createFile .. | .fileNames => .isTrue trivial

/-- The directory has exactly these files, and what is named like one is one. -/
structure Has (root : List String) (tree : FileTree) (files : List (List String × String)) :
    Prop where
  unlimited : tree.Unlimited
  free_iff : ∀ place name,
    tree.entry? (root ++ place ++ [name ++ fileEnding]) = none ↔ name ∉ namesIn files place
  isDirectory_iff : ∀ place fileName entry, tree.entry? (root ++ place ++ [fileName]) = some entry →
    (entry = .directory ↔ programName? fileName = none)
  names_perm : ∀ place,
    ((tree.namesIn (root ++ place)).filterMap programName?).Perm (namesIn files place)

section

variable {root : List String} {tree : FileTree} {folder : DirectoryFolder} {place : List String}
  {files : List (List String × String)} {name fileName : String} {monitor : Monitor}

/-- The names after a file was put in a place, if it was one. -/
theorem namesIn_elim (files : List (List String × String)) (place other : List String)
    (stored : Option String) :
    namesIn (stored.elim files fun name => (place, name) :: files) other =
      if other = place then stored.toList ++ namesIn files other else namesIn files other := by
  cases stored with
  | none => simp
  | some name => exact namesIn_cons files place other name

/-- What is put in the directory is one more file exactly if it is named so. -/
theorem Has.put (has : Has root tree files)
    (free : tree.entry? (root ++ place ++ [fileName]) = none) (entry : FileEntry)
    (kind : entry = .directory ↔ programName? fileName = none) :
    Has root (tree.put (root ++ place ++ [fileName]) entry)
      ((programName? fileName).elim files fun name => (place, name) :: files) := by
  have entryAt (other : List String) (otherName : String) :
      FileTree.entry? (tree.put (root ++ place ++ [fileName]) entry)
          (root ++ other ++ [otherName]) =
        if other = place ∧ otherName = fileName then some entry
        else tree.entry? (root ++ other ++ [otherName]) := by
    rw [FileTree.entry?_put free]
    exact if_congr (by simp [List.append_assoc]) rfl rfl
  refine ⟨has.unlimited.put _ _, fun other name => ?_, fun other otherName present found => ?_,
    fun other => ?_⟩
  · rw [entryAt, namesIn_elim]
    by_cases there : other = place
    · rw [if_pos there, List.mem_append, Option.mem_toList,
        programName?_eq_some_iff, not_or, ← has.free_iff]
      by_cases same : fileName = name ++ fileEnding
      · simp [there, same]
      · simp [same, Ne.symm same]
    · rw [if_neg there, if_neg (fun both => there both.1), has.free_iff]
  · rw [entryAt] at found
    by_cases same : other = place ∧ otherName = fileName
    · rw [if_pos same] at found
      obtain rfl := Option.some.inj found
      rw [same.2]
      exact kind
    · rw [if_neg same] at found
      exact has.isDirectory_iff other otherName present found
  · have listed := (FileTree.namesIn_put free entry (root ++ other)).filterMap programName?
    have before := has.names_perm other
    refine listed.trans ?_
    simp only [namesIn_elim, List.append_cancel_left_eq]
    by_cases there : other = place
    · rw [if_pos there, if_pos there, List.filterMap_cons]
      cases programName? fileName with
      | none => exact before
      | some stored => exact before.cons stored
    · rw [if_neg there, if_neg there]
      exact before

theorem Has.exists_file_iff (has : Has root tree files) :
    (∃ bytes, tree.entry? (root ++ place ++ [name ++ fileEnding]) = some (.file bytes)) ↔
      name ∈ namesIn files place := by
  rw [← not_not (a := name ∈ namesIn files place), ← has.free_iff place name]
  constructor
  · rintro ⟨bytes, found⟩
    rw [found]
    nofun
  · intro taken
    obtain ⟨entry, there⟩ := Option.ne_none_iff_exists'.mp taken
    cases entry with
    | file bytes => exact ⟨bytes, there⟩
    | directory =>
        have named := (has.isDirectory_iff place (name ++ fileEnding) _ there).mp rfl
        rw [programName?_eq_some_iff.mpr rfl] at named
        contradiction

theorem Has.createFile_eq (has : Has root tree files) (folderAt : At root tree folder place)
    (program : Program) :
    (storage.createFile folder name program).apply (monitor, tree) =
      match outcome files place name monitor with
      | .ok () => (.ok (), monitor.check.2, tree.put (root ++ place ++ [name ++ fileEnding])
          (.file (storedText program).toUTF8.toList))
      | .error failure => (.error failure, monitor.check.2, tree) := by
  have free_iff := has.free_iff place name
  simp only [storage, createFile, Attempt.apply_of, outcome]
  cases monitor.check with
  | mk result polled =>
  cases result with
  | error failure => rfl
  | ok _ =>
  cases validated : validateName name with
  | error failure => rfl
  | ok _ =>
  have isName := isName_of_validateName validated
  have created := FileTree.Opens.createFile_eq has.unlimited folderAt
    (isName_append_fileEnding isName.noSlash isName.noNul) (storedText program).toUTF8.toList
  simp only [filePath, created]
  by_cases taken : name ∈ namesIn files place
  · have present : (tree.entry? (root ++ place ++ [name ++ fileEnding])).isSome = true := by
      rw [← Option.ne_none_iff_isSome]
      exact fun free => free_iff.mp free taken
    simp only [present, taken, if_true]
  · simp only [free_iff.mpr taken, taken, if_false]
    rfl

theorem Has.createFolder_eq (has : Has root tree files) (folderAt : At root tree folder place)
    (valid : validateName name = .ok ()) (notFile : programName? name = none) :
    (storage.createFolder folder name).apply tree =
      (.ok ⟨FilePath.join folder.path name, FilePath.join folder.display name⟩,
        if tree.entry? (root ++ place ++ [name]) = none
          then tree.put (root ++ place ++ [name]) .directory else tree) := by
  have made := FileTree.Opens.makeDirectories_eq has.unlimited folderAt
    (isName_of_validateName valid)
  simp only [storage, createFolder, valid, openAt, Attempt.apply_of, made]
  cases there : tree.entry? (root ++ place ++ [name]) with
  | none => simp
  | some entry =>
      obtain rfl := (has.isDirectory_iff place name entry there).mpr notFile
      simp

end

/-- Storage in a directory follows the ledger of plain requests. -/
theorem follows (root : List String) :
    Follows storage Plain (At root) (Has root) where
  createFile_of_ok := by
    intro tree folder place files name monitor folderAt has judged program
    obtain ⟨-, -, absent⟩ := outcome_eq_ok_iff.mp judged
    have free := (has.free_iff place name).mpr absent
    have named : programName? (name ++ fileEnding) = some name := programName?_eq_some_iff.mpr rfl
    refine ⟨_, ?_, ?_, fun there => FileTree.Opens.put free
      (.file (storedText program).toUTF8.toList) there⟩
    · rw [has.createFile_eq folderAt, judged]
    · have stored := has.put free (.file (storedText program).toUTF8.toList)
        (by simp [named])
      rwa [named] at stored
  createFile_of_error := by
    intro tree folder place files name monitor failure folderAt has judged program
    rw [has.createFile_eq folderAt, judged]
  createFolder_of_ok := by
    intro tree folder place files name folderAt has plain valid
    have notFile := plain valid
    have isName := isName_of_validateName valid
    have done := has.createFolder_eq folderAt valid notFile
    refine ⟨_, _, done, ?_⟩
    unfold At
    rw [← List.append_assoc]
    by_cases free : tree.entry? (root ++ place ++ [name]) = none
    · rw [if_pos free]
      have made : FileTree.entry? (tree.put (root ++ place ++ [name]) .directory)
          (root ++ place ++ [name]) = some .directory := by
        rw [FileTree.entry?_put free, if_pos rfl]
      have opens := FileTree.Opens.put free .directory folderAt
      have stays := has.put free .directory (by simp [notFile])
      rw [notFile] at stays
      exact ⟨opens.entered (has.unlimited.put _ _) isName made, stays,
        fun there => FileTree.Opens.put free .directory there⟩
    · -- What is there already is a directory, because the name has not the ending of a file.
      rw [if_neg free]
      obtain ⟨entry, there⟩ := Option.ne_none_iff_exists'.mp free
      obtain rfl := (has.isDirectory_iff place name entry there).mpr notFile
      exact ⟨FileTree.Opens.entered has.unlimited folderAt isName there, has, id⟩
  createFolder_of_error := by
    intro folder name failure refused tree
    simp [storage, createFolder, refused, Attempt.ofExcept]
  contains_iff := by
    intro tree folder place files name folderAt has sound noSlash
    show tree.isFile (FilePath.join folder.path (name ++ fileEnding)) = true ↔ _
    -- With the character NUL the text is no path, and the name was never stored.
    cases nul : name.toList.any (·.toNat == 0) with
    | true =>
        have notStored : name ∉ namesIn files place := by
          intro stored
          rw [(isName_of_validateName (sound.valid stored)).noNul] at nul
          contradiction
        have inPath : (FilePath.join folder.path (name ++ fileEnding)).toList.any
            (·.toNat == 0) = true := by
          obtain ⟨c, member, isNul⟩ := List.any_eq_true.mp nul
          refine List.any_eq_true.mpr ⟨c, FilePath.subset_join _ _ ?_, isNul⟩
          rw [String.toList_append]
          exact List.mem_append_left _ member
        rw [FileTree.isFile_of_nul inPath]
        exact iff_of_false Bool.false_ne_true notStored
    | false =>
        rw [FileTree.Opens.isFile_iff has.unlimited folderAt (isName_append_fileEnding noSlash nul)]
        exact has.exists_file_iff
  fileNames_eq := by
    intro tree folder place files folderAt has
    calc storage.fileNames folder tree
        = sorted ((tree.namesIn (root ++ place)).filterMap programName?) := by
          rw [← FileTree.Opens.names_eq has.unlimited folderAt]
          rfl
      _ = sorted (namesIn files place) := sorted_congr (has.names_perm place)

end DirectoryFolder

/-! ## Both storages -/

namespace Storage

/-- A new container in memory and an empty directory give the same answers to any plain calls, also
on the folders that are made on the way. In both, every folder then lists, contains and refuses as
duplicates exactly the names that were stored in it. -/
theorem storages_answer_alike (container rootPath : String) {store : MemoryStore}
    (fresh : ∀ place, store.filesAt container place = .empty) {tree : FileTree} {path : String}
    {root : List String} (empty : tree.OpensEmpty path root) (display : String)
    {calls : List Call} (plain : ∀ call ∈ calls, DirectoryFolder.Plain call.request) :
    let memory := MemoryStore.storage.performAll calls ⟨[⟨container, rootPath, []⟩], store⟩
    let directory := DirectoryFolder.storage.performAll calls ⟨[⟨path, display⟩], tree⟩
    let ledger := Ledger.ofHistory memory.1
    directory.1 = memory.1 ∧ ShowsAll MemoryStore.storage (fun _ => True) memory.2 ledger ∧
      ShowsAll DirectoryFolder.storage DirectoryFolder.Plain directory.2 ledger := by
  have nothing : Sound [] := ⟨nofun, fun _ => .nil⟩
  have memoryStands : Stands (MemoryStore.At container) (MemoryStore.Has container)
      ⟨[⟨container, rootPath, []⟩], store⟩ Ledger.start := by
    refine ⟨.cons ⟨rfl, rfl⟩ .nil, ⟨fun place => ?_, fun place => ?_⟩, nothing⟩
    · rw [fresh]
      exact SortedMap.ordered_empty
    · rw [fresh]
      exact .refl _
  have directoryStands : Stands (DirectoryFolder.At root) (DirectoryFolder.Has root)
      ⟨[⟨path, display⟩], tree⟩ Ledger.start := by
    refine ⟨.cons ?_ .nil, ⟨empty.unlimited, fun place name => ?_, fun place name entry there => ?_,
      fun place => ?_⟩, nothing⟩
    · rw [DirectoryFolder.At, List.append_nil]
      exact empty.opens
    · rw [List.append_assoc, empty.nothing _ (by simp)]
      exact iff_of_true rfl List.not_mem_nil
    · rw [List.append_assoc, empty.nothing _ (by simp)] at there
      contradiction
    · rw [empty.namesIn_eq]
      exact .refl _
  intro memory directory ledger
  obtain ⟨memoryHistory, memoryLast⟩ :=
    (MemoryStore.follows container).performAll (fun _ _ => trivial) memoryStands
  obtain ⟨directoryHistory, directoryLast⟩ :=
    (DirectoryFolder.follows root).performAll plain directoryStands
  have sameHistory : directory.1 = memory.1 := directoryHistory.trans memoryHistory.symm
  rw [directoryHistory, ← memoryHistory] at directoryLast
  exact ⟨sameHistory, memoryLast.showsAll (MemoryStore.follows container),
    directoryLast.showsAll (DirectoryFolder.follows root)⟩

/-- A name is stored beside a folder of that name and in the folder, but only once in each. -/
theorem foo_is_stored_once_in_each_folder :
    let program := Program.make "image" (.make "target" ⟨"ram", .ram, 16, none⟩) "default" ⟨1⟩
    let monitor := Monitor.make none
    let calls : List Call := [⟨0, .createFile "foo" program monitor⟩, ⟨0, .createFolder "foo"⟩,
      ⟨1, .contains "foo"⟩, ⟨1, .createFile "foo" program monitor⟩,
      ⟨0, .createFile "foo" program monitor⟩, ⟨0, .createFolder ".."⟩, ⟨0, .fileNames⟩]
    let directory := DirectoryFolder.storage.performAll calls ⟨[⟨"box", "box"⟩], .withOne "box"⟩
    (∀ place, MemoryStore.empty.filesAt "box" place = .empty) ∧
      (FileTree.withOne "box").OpensEmpty "box" ["box"] ∧
      (∀ call ∈ calls, DirectoryFolder.Plain call.request) ∧
      directory.1.map Prod.snd = [.created (.ok ()) monitor, .opened (.ok ()), .found false,
        .created (.ok ()) monitor, .created (.error (.duplicateName "foo")) monitor,
        .opened (.error (.invalidName "..")), .listed ["foo"]] := by
  intro program monitor calls directory
  have fresh : ∀ place, MemoryStore.empty.filesAt "box" place = .empty := fun _ => rfl
  have empty : (FileTree.withOne "box").OpensEmpty "box" ["box"] :=
    FileTree.opensEmpty_withOne (isName_of_validateName (by decide +kernel))
  have plain : ∀ call ∈ calls, DirectoryFolder.Plain call.request := by decide +kernel
  refine ⟨fresh, empty, plain, ?_⟩
  have alike := storages_answer_alike "box" "/" fresh empty "box" plain
  rw [show directory.1 = _ from alike.1]
  decide +kernel

/-- A folder with the ending of a file takes a name away, and a path finds what is in another
folder, but not in memory. -/
theorem directory_tells_folders_and_paths_wrong :
    let program := Program.make "image" (.make "target" ⟨"ram", .ram, 16, none⟩) "default" ⟨1⟩
    let monitor := Monitor.make none
    let calls : List Call := [⟨0, .createFolder "foo.hoard.json"⟩,
      ⟨0, .createFile "foo" program monitor⟩, ⟨0, .createFolder "sub"⟩,
      ⟨2, .createFile "x" program monitor⟩, ⟨0, .contains "sub/x"⟩]
    let memory := MemoryStore.storage.performAll calls ⟨[⟨"box", "/", []⟩], .empty⟩
    let directory := DirectoryFolder.storage.performAll calls ⟨[⟨"box", "box"⟩], .withOne "box"⟩
    (∀ place, MemoryStore.empty.filesAt "box" place = .empty) ∧
      (FileTree.withOne "box").OpensEmpty "box" ["box"] ∧
      memory.1.map Prod.snd = [.opened (.ok ()), .created (.ok ()) monitor, .opened (.ok ()),
        .created (.ok ()) monitor, .found false] ∧
      directory.1.map Prod.snd = [.opened (.ok ()),
        .created (.error (.duplicateName "foo")) monitor, .opened (.ok ()),
        .created (.ok ()) monitor, .found true] := by
  intro program monitor calls memory directory
  have empty : (FileTree.withOne "box").OpensEmpty "box" ["box"] :=
    FileTree.opensEmpty_withOne (isName_of_validateName (by decide +kernel))
  refine ⟨fun _ => rfl, empty, ?_, ?_⟩
  · decide +kernel
  · decide +kernel

end Storage

end ImageImport
