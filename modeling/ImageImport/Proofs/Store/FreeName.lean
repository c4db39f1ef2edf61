import Mathlib.Data.List.TakeWhile
import ImageImport.Load.FreeName
import ImageImport.Proofs.Store.Laws
import ImageImport.Proofs.Store.ReadBack
import ImageImport.Proofs.Text.Numeral

/-!
Contract: a store in memory keeps a program under the first name that is free, and keeps what it
has.

The names that are tried are all different, and a folder has finitely many files. So the search ends
after no more names than the folder has files, and one. A name that may be stored under stays one
with a number behind it; a name that may not is refused before any other is tried.

Owns: the names that are tried, one attempt and one search in a store, and any calls one after
another.
Does not own: searches in other storages, and searches that are cancelled.
-/

namespace ImageImport

/-! ## The names that are tried -/

theorem Text.trim_eq_nil_iff (text : List Char) :
    trim text = [] ↔ ∀ c ∈ text, isBlank c = true := by
  have trimEnd_eq_nil_iff (rest : List Char) :
      trimEnd isBlank rest = [] ↔ ∀ c ∈ rest, isBlank c = true := by
    rw [trimEnd, List.reverse_eq_nil_iff, List.dropWhile_eq_nil_iff]
    simp only [List.mem_reverse]
  rw [trim, trimEnd_eq_nil_iff]
  induction text with
  | nil => simp
  | cons first rest inductionHypothesis =>
      by_cases blank : isBlank first = true
      · simp [blank, inductionHypothesis]
      · simp [blank]

namespace Storage

theorem validateName_eq_ok_iff (name : String) :
    validateName name = .ok () ↔
      (∃ c ∈ name.toList, Text.isBlank c = false) ∧ name ≠ "." ∧ name ≠ ".." ∧
        ∀ c ∈ name.toList, isForbidden c = false := by
  have blank_iff : (Text.trim name.toList).isEmpty = true ↔
      ¬ ∃ c ∈ name.toList, Text.isBlank c = false := by
    rw [List.isEmpty_iff, Text.trim_eq_nil_iff]
    simp
  have forbidden_iff : name.toList.any isForbidden = true ↔
      ¬ ∀ c ∈ name.toList, isForbidden c = false := by
    simp
  unfold validateName
  split
  · next blank => simp [blank_iff.mp blank]
  · next notBlank =>
      have visible := not_not.mp (mt blank_iff.mpr notBlank)
      split
      · next dotted =>
          exact iff_of_false nofun fun valid => dotted.elim valid.2.1 valid.2.2.1
      · next notDotted =>
          rw [not_or] at notDotted
          split
          · next forbidden =>
              exact iff_of_false nofun fun valid => forbidden_iff.mp forbidden valid.2.2.2
          · next plain =>
              exact iff_of_true rfl
                ⟨visible, notDotted.1, notDotted.2, not_not.mp (mt forbidden_iff.mpr plain)⟩

/-- A name is only ever refused as a name. -/
theorem invalidName_of_validateName {name : String} {failure : Failure}
    (refused : validateName name = .error failure) : ∃ reason, failure = .invalidName reason := by
  unfold validateName at refused
  split at refused
  · exact ⟨_, (Except.error.inj refused).symm⟩
  · split at refused
    · exact ⟨_, (Except.error.inj refused).symm⟩
    · split at refused
      · exact ⟨_, (Except.error.inj refused).symm⟩
      · contradiction

theorem digit_isPlain {value : Nat} (below : value < 10) :
    isForbidden (Text.digit value) = false ∧ Text.digit value ≠ '.' := by
  interval_cases value <;> decide

/-- A name stays valid with a number behind it. -/
theorem validateName_attemptName {name : String} (valid : validateName name = .ok ()) (n : Nat) :
    validateName (attemptName name n) = .ok () := by
  cases n with
  | zero => exact valid
  | succ n =>
      obtain ⟨⟨c, member, visible⟩, -, -, plain⟩ := (validateName_eq_ok_iff name).mp valid
      obtain ⟨front, ends⟩ := Text.toList_decimal n
      -- The last character is a digit, so the name is none of the two that are made of dots.
      have notDotted (dots : List Char) : (attemptName name (n + 1)).toList ≠ dots ++ ['.'] := by
        rw [attemptName, String.toList_append, ends, ← List.append_assoc]
        intro same
        have lastIsDot := List.singleton_inj.mp (List.append_inj_right' same rfl)
        exact (digit_isPlain (Nat.mod_lt n (by decide))).2 lastIsDot
      refine (validateName_eq_ok_iff _).mpr ⟨⟨c, ?_, visible⟩, ?_, ?_, ?_⟩
      · rw [attemptName, String.toList_append]
        exact List.mem_append_left _ member
      · exact fun same => notDotted [] (congrArg String.toList same)
      · exact fun same => notDotted ['.'] (congrArg String.toList same)
      · intro other inName
        rw [attemptName, String.toList_append, List.mem_append] at inName
        rcases inName with inFront | inNumeral
        · exact plain other inFront
        · obtain ⟨value, below, rfl⟩ := Text.mem_decimal inNumeral
          exact (digit_isPlain below).1

/-- No name is tried twice. -/
theorem attemptName_injective (name : String) : Function.Injective (attemptName name) := by
  have longer (n : Nat) : attemptName name (n + 1) ≠ name := by
    obtain ⟨front, ends⟩ := Text.toList_decimal n
    intro same
    have lengths := congrArg (fun text => text.toList.length) same
    simp only [attemptName, String.toList_append, ends, List.length_append,
      List.length_singleton] at lengths
    omega
  intro left right same
  cases left with
  | zero =>
      cases right with
      | zero => rfl
      | succ right => exact absurd same.symm (longer right)
  | succ left =>
      cases right with
      | zero => exact absurd same (longer left)
      | succ right => rw [Text.append_decimal_injective name same]

end Storage

namespace MemoryStore

open Storage

/-- Among the names that are tried there is a first one that is free, and it comes early. -/
theorem exists_first_free (files : SortedMap String String) (name : String) :
    ∃ n ≤ files.keys.length, files.contains (attemptName name n) = false ∧
      ∀ earlier < n, files.contains (attemptName name earlier) = true := by
  obtain ⟨n, early, notTaken, least⟩ :=
    Text.exists_least_free (attemptName_injective name) files.keys
  refine ⟨n, early, Bool.eq_false_iff.mpr (mt (files.contains_iff_mem_keys _).mp notTaken), ?_⟩
  intro earlier less
  by_contra free
  exact absurd (least (mt (files.contains_iff_mem_keys _).mpr free)) (not_le.mpr less)

/-! ## One attempt -/

section Attempts

variable (folder : MemoryFolder) {name : String} (program : Program)
  {before : Surroundings MemoryStore}

/-- The store with one more file. -/
def keep (store : MemoryStore) (folder : MemoryFolder) (name : String) (program : Program) :
    MemoryStore :=
  ⟨store.folders.insert folder.place ((store.filesOf folder).insert name (storedText program))⟩

theorem createFile_of_invalid {monitor : Monitor} (store : MemoryStore) {failure : Failure}
    (quiet : monitor.Quiet) (invalid : validateName name = .error failure) :
    (storage.createFile folder name program).apply (monitor, store) =
      (.error failure, monitor, store) := by
  simp [storage, createFile, quiet.check_eq, invalid]

theorem createFile_of_valid {monitor : Monitor} (store : MemoryStore) (quiet : monitor.Quiet)
    (valid : validateName name = .ok ()) :
    (storage.createFile folder name program).apply (monitor, store) =
      if (store.filesOf folder).contains name then (.error (.duplicateName name), monitor, store)
      else (.ok (), monitor, store.keep folder name program) := by
  simp [storage, createFile, quiet.check_eq, valid, keep]

theorem tryName_of_quiet (quiet : before.monitor.Quiet) {answer : Except Failure Unit}
    {store : MemoryStore}
    (called : (storage.createFile folder name program).apply (before.monitor, before.store) =
      (answer, before.monitor, store)) {attempted : Attempted}
    (judged : verdict answer = .ok attempted) :
    (storage.tryName folder name program).apply before =
      (.ok attempted, { before with
        store, log := before.log.addAll (attempted.messages name) }) := by
  have polled : Surroundings.checkCancelled.apply before = (.ok (), before) := by
    simp [Surroundings.checkCancelled, quiet.check_eq]
  rw [tryName_apply, polled]
  simp only [Surroundings.storing, Attempt.apply_onPart, called, judged]

theorem tryName_of_taken (quiet : before.monitor.Quiet) (valid : validateName name = .ok ())
    (taken : (before.store.filesOf folder).contains name = true) :
    (storage.tryName folder name program).apply before = (.ok .taken, before) := by
  have called := createFile_of_valid folder program before.store quiet valid
  rw [if_pos taken] at called
  rw [tryName_of_quiet folder program quiet called rfl, Attempted.messages_taken, Log.addAll_nil]

theorem tryName_of_free (quiet : before.monitor.Quiet) (valid : validateName name = .ok ())
    (free : (before.store.filesOf folder).contains name = false) :
    (storage.tryName folder name program).apply before =
      (.ok .stored, { before with store := before.store.keep folder name program }) := by
  have called := createFile_of_valid folder program before.store quiet valid
  rw [free] at called
  rw [tryName_of_quiet folder program quiet called rfl, Attempted.messages_stored, Log.addAll_nil]

theorem tryName_of_invalid (quiet : before.monitor.Quiet) {failure : Failure}
    (invalid : validateName name = .error failure) :
    (storage.tryName folder name program).apply before =
      (.ok (.refused failure), { before with
        log := before.log.addAll ["Unexpected exception creating file: " ++ name,
          failure.report] }) := by
  obtain ⟨reason, rfl⟩ := invalidName_of_validateName invalid
  exact tryName_of_quiet folder program quiet
    (createFile_of_invalid folder program before.store quiet invalid) rfl

/-! ## One search -/

/-- The search goes past the names that are taken, and ends at the first that is free. -/
theorem saveFrom_of_first_free (quiet : before.monitor.Quiet)
    (valid : validateName name = .ok ()) {n : Nat}
    (free : (before.store.filesOf folder).contains (attemptName name n) = false)
    (taken : ∀ earlier < n,
      (before.store.filesOf folder).contains (attemptName name earlier) = true)
    (left : Nat) {attempt : Nat} (ahead : attempt + left = n) :
    storage.saveFrom folder name program attempt before =
      (.ok true, { before with
        store := before.store.keep folder (attemptName name n) program }) := by
  induction left generalizing attempt with
  | zero =>
      obtain rfl : attempt = n := by omega
      rw [saveFrom,
        tryName_of_free folder program quiet (validateName_attemptName valid attempt) free]
  | succ left inductionHypothesis =>
      rw [saveFrom, tryName_of_taken folder program quiet (validateName_attemptName valid attempt)
        (taken attempt (by omega))]
      exact inductionHypothesis (by omega)

/-- A program saved under a valid name, after a search of so many names that were taken. -/
structure Saved (folder : MemoryFolder) (name : String) (program : Program)
    (before after : Surroundings MemoryStore) (n : Nat) : Prop where
  /-- The search goes past the names before. -/
  taken : ∀ earlier < n,
    (before.store.filesOf folder).contains (attemptName name earlier) = true ∧
    (storage.tryName folder (attemptName name earlier) program).apply before =
      (.ok .taken, before)
  free : (before.store.filesOf folder).contains (attemptName name n) = false
  /-- The search ends at the name that is free. -/
  stored : (storage.tryName folder (attemptName name n) program).apply before =
    (.ok .stored, after)
  atMost : n ≤ (before.store.filesOf folder).keys.length
  log_eq : after.log = before.log
  monitor_eq : after.monitor = before.monitor
  files_eq : files after.store =
    insert (folder.place, attemptName name n, storedText program) (files before.store)
  /-- The text is that of the snapshot of the program, which is read back from it. The properties
  stand in order whatever calls made the program, by `Program.ordered_properties_of_run`. -/
  read_back : program.state.properties.Ordered →
    after.store.snapshot? folder (attemptName name n) = .ok (some (Snapshot.ofProgram program))

theorem saveUnderFreeName_of_valid (quiet : before.monitor.Quiet)
    (valid : validateName name = .ok ()) :
    ∃ n after, (storage.saveUnderFreeName folder name program).apply before = (.ok true, after) ∧
      Saved folder name program before after n := by
  obtain ⟨n, atMost, free, taken⟩ := exists_first_free (before.store.filesOf folder) name
  have saved := saveFrom_of_first_free folder program quiet valid free taken n (Nat.zero_add n)
  have stored := tryName_of_free folder program quiet (validateName_attemptName valid n) free
  have created := createFile_of_valid folder program before.store quiet
    (validateName_attemptName valid n)
  rw [free, if_neg Bool.false_ne_true] at created
  refine ⟨n, _, saved, fun earlier less => ⟨taken earlier less, ?_⟩, free, stored, atMost, rfl, rfl,
    fileView.files_of_ok created, fun ordered => snapshot?_of_createFile ordered created⟩
  exact tryName_of_taken folder program quiet (validateName_attemptName valid earlier)
    (taken earlier less)

theorem saveUnderFreeName_of_invalid (quiet : before.monitor.Quiet) {failure : Failure}
    (invalid : validateName name = .error failure) :
    (storage.saveUnderFreeName folder name program).apply before =
      (.ok false, { before with
        log := before.log.addAll ["Unexpected exception creating file: " ++ name,
          failure.report] }) := by
  rw [saveUnderFreeName, Attempt.apply_of, saveFrom, attemptName,
    tryName_of_invalid folder program quiet invalid]

/-- No call disturbs what is stored, and the monitor stays as quiet as it is. -/
theorem saveUnderFreeName_keeps (name : String) (quiet : before.monitor.Quiet) :
    files before.store ⊆
        files ((storage.saveUnderFreeName folder name program).apply before).2.store ∧
      ((storage.saveUnderFreeName folder name program).apply before).2.monitor.Quiet := by
  cases judged : validateName name with
  | error failure =>
      rw [saveUnderFreeName_of_invalid folder program quiet judged]
      exact ⟨subset_rfl, quiet⟩
  | ok _ =>
      obtain ⟨n, after, done, saved⟩ := saveUnderFreeName_of_valid folder program quiet judged
      rw [done]
      exact ⟨saved.files_eq ▸ Set.subset_insert _ _, saved.monitor_eq ▸ quiet⟩

end Attempts

/-! ## Calls one after another -/

/-- Calls to save programs in one folder, one after another. -/
def saveEach (folder : MemoryFolder) (calls : List (String × Program)) :
    Surroundings MemoryStore → List (Except Failure Bool) × Surroundings MemoryStore :=
  Attempt.each (calls.map fun call => storage.saveUnderFreeName folder call.1 call.2)

theorem saveEach_keeps (folder : MemoryFolder) (calls : List (String × Program))
    {start : Surroundings MemoryStore} (quiet : start.monitor.Quiet) :
    files start.store ⊆ files (saveEach folder calls start).2.store ∧
      (saveEach folder calls start).2.monitor.Quiet := by
  induction calls generalizing start with
  | nil => exact ⟨subset_rfl, quiet⟩
  | cons call rest inductionHypothesis =>
      obtain ⟨kept, stillQuiet⟩ := saveUnderFreeName_keeps folder call.2 call.1 quiet
      obtain ⟨keptAfter, quietAfter⟩ := inductionHypothesis stillQuiet
      exact ⟨kept.trans keptAfter, quietAfter⟩

/-- After any calls on a folder, whatever it held before, the next call ends. Under a valid name it
stores the program under the first of the names tried that is free, where its snapshot is read back,
and says nothing. Under any other it stores nothing, and says why. What is stored stays stored. -/
theorem saves_take_the_first_free_name (folder : MemoryFolder) {start : Surroundings MemoryStore}
    (quiet : start.monitor.Quiet) (calls : List (String × Program)) :
    let before := (saveEach folder calls start).2
    files start.store ⊆ files before.store ∧
    ∀ name program,
      let done := (storage.saveUnderFreeName folder name program).apply before
      (validateName name = .ok () →
        done.1 = .ok true ∧ ∃ n, Saved folder name program before done.2 n) ∧
      (∀ failure, validateName name = .error failure →
        done.1 = .ok false ∧ done.2.store = before.store ∧
        done.2.log.messages = before.log.messages ++
          ["Unexpected exception creating file: " ++ name, failure.report]) ∧
      files before.store ⊆ files done.2.store := by
  intro before
  obtain ⟨kept, stillQuiet⟩ := saveEach_keeps folder calls quiet
  refine ⟨kept, ?_⟩
  intro name program done
  refine ⟨fun valid => ?_, fun failure invalid => ?_,
    (saveUnderFreeName_keeps folder program name stillQuiet).1⟩
  · obtain ⟨n, after, saving, saved⟩ := saveUnderFreeName_of_valid folder program
      stillQuiet valid
    have stored : done = (.ok true, after) := saving
    rw [stored]
    exact ⟨rfl, n, saved⟩
  · have refused : done = (.ok false, { before with
        log := before.log.addAll ["Unexpected exception creating file: " ++ name,
          failure.report] }) := saveUnderFreeName_of_invalid folder program stillQuiet invalid
    rw [refused]
    exact ⟨rfl, rfl, rfl⟩

/-- A program is saved under the second number, after a call under a name that no store takes. -/
theorem foo_is_saved_as_foo1_beside_foo_and_foo0 :
    let folder : MemoryFolder := ⟨"images", "/", []⟩
    let program := Program.make "image" (.make "target" ⟨"ram", .ram, 16, none⟩) "default" ⟨1⟩
    let start : Surroundings MemoryStore :=
      ⟨0, .empty, .make none, ⟨⟨[(["images"], ⟨[("foo", "1"), ("foo0", "2")]⟩)]⟩⟩⟩
    let before := (saveEach folder [("a/b", program)] start).2
    let done := (storage.saveUnderFreeName folder "foo" program).apply before
    start.monitor.Quiet ∧ validateName "foo" = .ok () ∧ done.1 = .ok true ∧
      files done.2.store =
        insert (["images"], "foo1", storedText program) (files start.store) ∧
      done.2.store.snapshot? folder "foo1" = .ok (some (Snapshot.ofProgram program)) := by
  intro folder program start before done
  have quiet : start.monitor.Quiet := ⟨rfl, rfl⟩
  have valid : validateName "foo" = .ok () := by decide +kernel
  have refused := ((saves_take_the_first_free_name folder quiet []).2 "a/b" program).2.1 _ rfl
  have unchanged : before.store = start.store := refused.2.1
  obtain ⟨saved, n, search⟩ :=
    ((saves_take_the_first_free_name folder quiet [("a/b", program)]).2 "foo" program).1 valid
  have two : (start.store.filesOf folder).keys.length = 2 := by decide +kernel
  have named : attemptName "foo" 2 = "foo1" := by decide +kernel
  have early := search.atMost
  rw [unchanged, two] at early
  have free := search.free
  rw [unchanged] at free
  have second : n = 2 := by
    interval_cases n
    · exact absurd free (by decide +kernel)
    · exact absurd free (by decide +kernel)
    · rfl
  subst second
  rw [← unchanged, ← named]
  exact ⟨quiet, valid, saved, search.files_eq, search.read_back SortedMap.ordered_empty⟩

end MemoryStore

end ImageImport
