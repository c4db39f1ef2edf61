import ImageImport.Store.Memory
import Mathlib.Data.Set.Insert

/-!
Contract: laws that a storage may keep.

Owns: what it is to hold a new file exactly when a call to store it succeeds, what it is to disturb no
load, and a storage of each kind.
Does not own: what a load makes of these laws.
-/

namespace ImageImport

variable {κ σ φ : Type}

/-- The files of a storage, of which a call adds its own if it succeeds, and else none. -/
structure Storage.FileView (storage : Storage κ σ) (φ : Type) where
  files : σ → Set φ
  file : κ → String → Program → φ
  files_of_ok : ∀ {folder name program monitor monitor' store store'},
    (storage.createFile folder name program).apply (monitor, store) =
        (.ok (), monitor', store') →
      files store' = insert (file folder name program) (files store)
  files_of_error : ∀ {folder name program monitor monitor' store store' failure},
    (storage.createFile folder name program).apply (monitor, store) =
        (.error failure, monitor', store') →
      files store' = files store

namespace MemoryStore

/-- The files of a store, each by its place, its name and its text. -/
def files (store : MemoryStore) : Set (List String × String × String) :=
  {file | ((store.folders.get? file.1).getD .empty).get? file.2.1 = some file.2.2}

/-- What comes of a call, by the polls and the files that there are. -/
theorem createFile_cases {folder : MemoryFolder} {name : String} {program : Program}
    {monitor monitor' : Monitor} {store store' : MemoryStore} {answer : Except Failure Unit}
    (called : (createFile folder name program).apply (monitor, store) =
      (answer, monitor', store')) :
    (∃ failure, answer = .error failure ∧ store' = store) ∨
      answer = .ok () ∧ (store.filesOf folder).get? name = none ∧
        store'.folders = store.folders.insert folder.place
          ((store.filesOf folder).insert name (storedText program)) := by
  simp only [createFile, Attempt.apply_of] at called
  cases checked : monitor.check with
  | mk result polled =>
  cases result with
  | error failure =>
      obtain ⟨rfl, -, rfl⟩ := by simpa [checked] using called
      exact .inl ⟨failure, rfl, rfl⟩
  | ok _ =>
  cases validated : Storage.validateName name with
  | error failure =>
      obtain ⟨rfl, -, rfl⟩ := by simpa [checked, validated] using called
      exact .inl ⟨failure, rfl, rfl⟩
  | ok _ =>
  cases taken : (store.filesOf folder).contains name with
  | true =>
      obtain ⟨rfl, -, rfl⟩ := by simpa [checked, validated, taken] using called
      exact .inl ⟨.duplicateName name, rfl, rfl⟩
  | false =>
      obtain ⟨rfl, -, rfl⟩ := by simpa [checked, validated, taken] using called
      exact .inr ⟨rfl, by simpa [SortedMap.contains] using taken, rfl⟩

def fileView : storage.FileView (List String × String × String) where
  files := files
  file folder name program := (folder.place, name, storedText program)
  files_of_ok := by
    intro folder name program monitor monitor' store store' called
    rcases createFile_cases called with ⟨failure, contra, -⟩ | ⟨-, free, stored⟩
    · contradiction
    · ext ⟨place, other, text⟩
      simp only [files, Set.mem_ofPred_eq, Set.mem_insert_iff, Prod.mk.injEq, stored,
        SortedMap.get?_insert]
      by_cases samePlace : place = folder.place
      · subst samePlace
        by_cases sameName : other = name
        · subst sameName
          have free' : ((store.folders.get? folder.place).getD .empty).get? other = none := free
          simp [free', SortedMap.get?_insert, eq_comm]
        · simp [SortedMap.get?_insert, filesOf, sameName]
      · simp [samePlace]
  files_of_error := by
    intro folder name program monitor monitor' store store' failure called
    rcases createFile_cases called with ⟨_, -, rfl⟩ | ⟨contra, -, -⟩
    · rfl
    · contradiction

end MemoryStore

/-! ## Storages that disturb no load -/

namespace Storage

/-- A storage that leaves the monitor alone and never answers that the load is cancelled; its rank
falls with every name found taken. -/
def Steady (storage : Storage κ σ) (rank : σ → Nat) : Prop :=
  ∀ folder name program monitor store, ∃ answer store',
    (storage.createFile folder name program).apply (monitor, store) =
        (answer, monitor, store') ∧
      answer ≠ .error .cancelled ∧ rank store' ≤ rank store ∧
      ∀ other, answer = .error (.duplicateName other) → rank store' < rank store

/-- A storage that answers the next calls as it was told, and stores everything after them. It finds
a name taken, or has a reason to refuse it. -/
def scripted : Storage String (List (Option String)) where
  pathText := id
  createFile _ name _ :=
    .of fun (monitor, script) =>
      match script with
      | [] => (.ok (), monitor, [])
      | none :: rest => (.error (.duplicateName name), monitor, rest)
      | some reason :: rest => (.error (.storage reason []), monitor, rest)
  createFolder folder _ := pure folder
  contains _ _ _ := false
  fileNames _ _ := []

theorem scripted_steady : scripted.Steady List.length := by
  intro folder name program monitor script
  cases script with
  | nil => exact ⟨_, _, rfl, by simp, by simp, by simp⟩
  | cons next rest =>
      cases next with
      | none => exact ⟨_, _, rfl, by simp, by simp, by simp⟩
      | some reason => exact ⟨_, _, rfl, by simp, by simp, by simp⟩

end Storage

end ImageImport
