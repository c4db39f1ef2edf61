import ImageImport.Proofs.Program.Bracket
import ImageImport.Proofs.Table.Bodies

/-!
Contract: marking an entry as a function makes sure that some body covers it, and touches no other.

The first look is for a function under the whole address of the entry, segment and all, while the
table compares names of spaces and offsets alone. An entry that the first look misses, because it lies
inside a larger body or is written in another form, is still refused by the table, and that refusal
is what is passed over.

Owns: when a mark adds a function, and what it leaves of a program.
Does not own: bodies of more than one byte.
-/

namespace ImageImport

namespace FunctionTable

variable {table : FunctionTable} {entry : Address} {name : Option String}

/-- Whether a stored body covers an offset, in a space of the same name. -/
def CoversAt (table : FunctionTable) (entry : Address) : Prop :=
  ∃ function ∈ table.toList, function.entry.space = entry.space ∧
    function.Covers entry.offset.toNat

theorem entryFunction_nonempty (name : Option String) (entry : Address) :
    (Program.entryFunction name entry).length ≠ 0 :=
  show (1 : UInt64) ≠ 0 by decide

/-- A body of one byte shares an offset with those that cover its entry. -/
theorem sharesOffset_entryFunction_iff {function : Function} :
    function.SharesOffset (Program.entryFunction name entry) ↔
      function.entry.space = entry.space ∧ function.Covers entry.offset.toNat := by
  have onlyEntry : ∀ offset, (Program.entryFunction name entry).Covers offset ↔
      offset = entry.offset.toNat := by
    intro offset
    show entry.offset.toNat ≤ offset ∧ offset < entry.offset.toNat + 1 ↔ _
    omega
  simp only [Function.SharesOffset, onlyEntry, exists_eq_right]
  rfl

theorem endsInRange_entryFunction (name : Option String) (entry : Address) :
    (Program.entryFunction name entry).EndsInRange :=
  entry.offset.toNat_lt

/-- The table refuses an entry that some body covers, from wherever it does. -/
theorem WellFormed.create_of_coversAt (wellFormed : table.WellFormed)
    (covered : table.CoversAt entry) (name : Option String) :
    table.create (Program.entryFunction name entry) =
      .error (.overlappingFunction entry.text) := by
  obtain ⟨function, member, covers⟩ := covered
  have created := wellFormed.created (endsInRange_entryFunction name entry)
  generalize table.create (Program.entryFunction name entry) = outcome at created
  cases created with
  | empty isEmpty => exact absurd isEmpty (entryFunction_nonempty name entry)
  | overlapping nonempty stored shared => rfl
  | stored nonempty apart free =>
      exact absurd (sharesOffset_entryFunction_iff.mpr covers) (apart function member)

/-- The table with a mark at an entry. -/
def withEntry (table : FunctionTable) (name : Option String) (entry : Address) : FunctionTable :=
  ⟨table.functions.insert entry (Program.entryFunction name entry)⟩

/-- An entry that no body covers is free, and the table takes the mark. -/
theorem WellFormed.create_of_not_coversAt (wellFormed : table.WellFormed)
    (uncovered : ¬ table.CoversAt entry) (name : Option String) :
    table.functionAt? entry = none ∧ (table.withEntry name entry).WellFormed ∧
      table.create (Program.entryFunction name entry) =
        .ok (Program.entryFunction name entry, table.withEntry name entry) := by
  have ends := endsInRange_entryFunction name entry
  have created := wellFormed.created ends
  generalize table.create (Program.entryFunction name entry) = outcome at created
  cases created with
  | empty isEmpty => exact absurd isEmpty (entryFunction_nonempty name entry)
  | overlapping nonempty member shared =>
      exact absurd ⟨_, member, sharesOffset_entryFunction_iff.mp shared⟩ uncovered
  | stored nonempty apart free => exact ⟨free, wellFormed.insert nonempty ends apart free, rfl⟩

theorem functionAt?_withEntry (table : FunctionTable) (name : Option String) (entry key : Address) :
    (table.withEntry name entry).functionAt? key =
      if key = entry then some (Program.entryFunction name entry) else table.functionAt? key :=
  SortedMap.get?_insert _ _ _ _

theorem toList_withEntry_perm (free : table.functionAt? entry = none) (name : Option String) :
    (table.withEntry name entry).toList.Perm (Program.entryFunction name entry :: table.toList) :=
  SortedMap.values_insert_perm free

theorem coversAt_withEntry (free : table.functionAt? entry = none) (name : Option String) :
    (table.withEntry name entry).CoversAt entry :=
  ⟨Program.entryFunction name entry,
    (toList_withEntry_perm free name).mem_iff.mpr List.mem_cons_self, rfl,
    Function.covers_entry (entryFunction_nonempty name entry)⟩

end FunctionTable

namespace Program

variable {program : Program} {entry : Address}

/-- A covered entry is passed over; what may stay of it is a note. -/
theorem markFunction_of_coversAt (noRefusal : program.refusal? = none)
    (wellFormed : program.functions.WellFormed) (covered : program.functions.CoversAt entry)
    (name : Option String) :
    ∃ notes, program.markFunction name entry = (.ok (), program.changedTo program.state notes) := by
  by_cases found : (program.functions.functionAt? entry).isSome = true
  · refine ⟨[], ?_⟩
    rw [markFunction, if_pos found, changedTo_state]
  · refine ⟨["functions"], ?_⟩
    have refused : program.state.functions.create (entryFunction name entry) = _ :=
      wellFormed.create_of_coversAt covered name
    have same : (program.noteChange "functions").state = program.state := rfl
    rw [markFunction, if_neg found]
    simp only [createFunction, changeFunctions, writable, noRefusal, same, refused]
    rfl

theorem functions_markFunction_of_coversAt (noRefusal : program.refusal? = none)
    (wellFormed : program.functions.WellFormed) (covered : program.functions.CoversAt entry)
    (name : Option String) :
    (program.markFunction name entry).1 = .ok () ∧
      (program.markFunction name entry).2.functions = program.functions ∧
      (program.markFunction name entry).2.refusal? = none := by
  obtain ⟨notes, marks⟩ := markFunction_of_coversAt noRefusal wellFormed covered name
  rw [marks, refusal?_changedTo]
  exact ⟨rfl, rfl, noRefusal⟩

/-- An entry that no body covers gets a function of one byte. -/
theorem markFunction_of_not_coversAt (noRefusal : program.refusal? = none)
    (wellFormed : program.functions.WellFormed) (uncovered : ¬ program.functions.CoversAt entry)
    (name : Option String) :
    program.markFunction name entry = (.ok (), program.changedTo { program.state with
      functions := program.functions.withEntry name entry } ["functions"]) := by
  obtain ⟨free, -, created⟩ := wellFormed.create_of_not_coversAt uncovered name
  have same : (program.noteChange "functions").state = program.state := rfl
  have stored : program.state.functions.create (entryFunction name entry) = _ := created
  rw [markFunction, free]
  simp only [createFunction, changeFunctions, writable, noRefusal, same, stored]
  rfl

/-- Marking an entry succeeds in a transaction of an open program, and some body covers the entry
afterwards. Every stored function stays as it is, and a function is added exactly if no body covered
the entry: the one of a single byte at the entry. Marking the entry again, under any name, changes the
table no more. -/
theorem markFunction_covers_its_entry {nest : OpenTransaction} {calls : List Function}
    (isOpen : program.isClosed = false) (held : program.transaction = some nest)
    (reached : program.functions = .afterCalls calls)
    (ends : ∀ function ∈ program.functions.toList, function.EndsInRange)
    (name : Option String) (entry : Address) :
    let marked := program.markFunction name entry
    let before := program.functions
    let after := marked.2.functions
    marked.1 = .ok () ∧ after.CoversAt entry ∧
      (∀ key function, before.functionAt? key = some function →
        after.functionAt? key = some function) ∧
      (after = before ↔ before.CoversAt entry) ∧
      (after ≠ before → after.toList.Perm (⟨name, entry, 1, .imported⟩ :: before.toList) ∧
        after.functionAt? entry = some ⟨name, entry, 1, .imported⟩) ∧
      ∀ again, (marked.2.markFunction again entry).1 = .ok () ∧
        (marked.2.markFunction again entry).2.functions = after := by
  intro marked before after
  have noRefusal : program.refusal? = none := by simp [refusal?, isOpen, held]
  have wellFormed : before.WellFormed := by
    show program.functions.WellFormed
    rw [reached] at ends ⊢
    exact FunctionTable.wellFormed_empty.each_creating calls ends
  -- Whatever the first mark did, a second one finds the entry covered.
  by_cases covered : before.CoversAt entry
  · obtain ⟨succeeds, unchanged, ready⟩ :=
      functions_markFunction_of_coversAt noRefusal wellFormed covered name
    have same : after = before := unchanged
    have stillWellFormed : after.WellFormed := same ▸ wellFormed
    have stillCovered : after.CoversAt entry := same ▸ covered
    have second := functions_markFunction_of_coversAt ready stillWellFormed stillCovered
    exact ⟨succeeds, stillCovered, fun key function found => same ▸ found,
      iff_of_true same covered, fun changed => absurd same changed,
      fun again => ⟨(second again).1, (second again).2.1⟩⟩
  · have marks := markFunction_of_not_coversAt noRefusal wellFormed covered name
    obtain ⟨free, extendedWellFormed, -⟩ := wellFormed.create_of_not_coversAt covered name
    have ready : marked.2.refusal? = none := by
      rw [show marked = _ from marks, refusal?_changedTo, noRefusal]
    have extended : after = before.withEntry name entry :=
      congrArg (fun outcome => outcome.2.functions) marks
    have nowWellFormed : after.WellFormed := extended ▸ extendedWellFormed
    have nowCovered : after.CoversAt entry :=
      extended ▸ FunctionTable.coversAt_withEntry free name
    have stored (key : Address) : after.functionAt? key =
        if key = entry then some (entryFunction name entry) else before.functionAt? key :=
      extended ▸ before.functionAt?_withEntry name entry key
    have second := functions_markFunction_of_coversAt ready nowWellFormed nowCovered
    have changed : after ≠ before := fun same => covered (same ▸ nowCovered)
    refine ⟨congrArg Prod.fst marks, nowCovered, fun key function found => ?_,
      iff_of_false changed covered,
      fun _ => ⟨extended ▸ FunctionTable.toList_withEntry_perm free name,
        (stored entry).trans (if_pos rfl)⟩,
      fun again => ⟨(second again).1, (second again).2.1⟩⟩
    have taken : key ≠ entry := by
      rintro rfl
      simp [free] at found
    rw [stored, if_neg taken, found]

/-- The last offset of a space lies inside a larger body, and is found there in whatever form it is
written; in a space of another name it is marked, once. -/
theorem last_offset_is_marked_once :
    let last : Function :=
      ⟨some "last", ⟨"ram", .ram, 0xfffffffffffffff0, 64, none⟩, 16, .imported⟩
    let inside : Address := ⟨"ram", .overlay, 0xffffffffffffffff, 8, some 3⟩
    let elsewhere : Address := { inside with space := "rom" }
    let made := make "image" (.make "target" ⟨"ram", .ram, 64, none⟩) "default" ⟨1⟩
    let program := { made with
      state := { made.state with functions := .afterCalls [last] }
      transaction := some ⟨[(1, "mark")], made.state, false, []⟩ }
    let marked := (program.markFunction (some "entry") elsewhere).2
    program.functions.toList = [last] ∧ last.EndsInRange ∧
      (program.markFunction (some "entry") inside).2.functions = program.functions ∧
      marked.functions.functionAt? last.entry = some last ∧
      marked.functions.functionAt? elsewhere = some ⟨some "entry", elsewhere, 1, .imported⟩ ∧
      (marked.markFunction none elsewhere).2.functions = marked.functions := by
  intro last inside elsewhere made program marked
  have onlyLast : program.functions.toList = [last] := by decide +kernel
  have lastEnds : last.EndsInRange := by simp [last, Function.EndsInRange]
  have ends : ∀ function ∈ program.functions.toList, function.EndsInRange := by
    rw [onlyLast]
    exact List.forall_mem_singleton.mpr lastEnds
  have stored : program.functions.functionAt? last.entry = some last := by decide +kernel
  have isOpen : program.isClosed = false := rfl
  have covered : program.functions.CoversAt inside := by
    refine ⟨last, ?_, rfl, by decide, by decide⟩
    rw [onlyLast]
    exact List.mem_singleton_self last
  have uncovered : ¬ program.functions.CoversAt elsewhere := by
    rintro ⟨function, member, sameSpace, -⟩
    rw [onlyLast] at member
    obtain rfl := List.mem_singleton.mp member
    exact absurd sameSpace (by decide)
  have markInside := markFunction_covers_its_entry isOpen rfl rfl ends (some "entry") inside
  have markElsewhere := markFunction_covers_its_entry isOpen rfl rfl ends (some "entry") elsewhere
  obtain ⟨-, -, -, unchanged, -, -⟩ := markInside
  obtain ⟨-, -, kept, changes, added, again⟩ := markElsewhere
  exact ⟨onlyLast, lastEnds, unchanged.mpr covered, kept _ _ stored,
    (added (mt changes.mp uncovered)).2, (again none).2⟩

end Program

end ImageImport
