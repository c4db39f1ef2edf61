import ImageImport.Attempt
import ImageImport.Function
import ImageImport.Proofs.Memory.Layout
import ImageImport.Proofs.Table.Order

/-!
Contract: the function table after any calls, accepted or refused.

Functions are kept under their whole entry, while bodies are compared by the name of their space and
their offsets alone. The two never come apart: a body covers its own entry, so a function whose entry
is taken shares an offset with the one there, and is refused before the table is asked.

Offsets are compared as unbounded integers. A body that ends within sixty-four bits has a last offset
that does not wrap around, up to the very last one.

Owns: `FunctionTable.WellFormed`, its preservation, and exactly when and how the next call is refused.
Does not own: bodies that end beyond sixty-four bits.
-/

namespace ImageImport

namespace Function

variable {left right function : Function}

def Covers (function : Function) (offset : Nat) : Prop :=
  function.entry.offset.toNat ≤ offset ∧
    offset < function.entry.offset.toNat + function.length.toNat

/-- Some offset belongs to both bodies, in spaces of one name. -/
def SharesOffset (left right : Function) : Prop :=
  left.entry.space = right.entry.space ∧ ∃ offset, left.Covers offset ∧ right.Covers offset

/-- The last offset of the body, if there is one, is an offset of sixty-four bits. -/
def EndsInRange (function : Function) : Prop :=
  function.entry.offset.toNat + (function.length.toNat - 1) < 2 ^ 64

theorem SharesOffset.symm (shared : left.SharesOffset right) : right.SharesOffset left := by
  obtain ⟨space, offset, onLeft, onRight⟩ := shared
  exact ⟨space.symm, offset, onRight, onLeft⟩

theorem covers_entry (nonempty : function.length ≠ 0) :
    function.Covers function.entry.offset.toNat := by
  have positive := MemoryBlock.length_pos nonempty
  exact ⟨le_refl _, by omega⟩

/-- A body that is not empty is one that covers something. -/
theorem exists_covers_iff : (∃ offset, function.Covers offset) ↔ function.length ≠ 0 := by
  constructor
  · rintro ⟨offset, low, high⟩ empty
    rw [empty, UInt64.toNat_zero] at high
    omega
  · exact fun nonempty => ⟨_, covers_entry nonempty⟩

theorem lastOffset_toNat (nonempty : function.length ≠ 0) (ends : function.EndsInRange) :
    function.lastOffset.toNat = function.entry.offset.toNat + (function.length.toNat - 1) := by
  rw [lastOffset, if_neg nonempty]
  exact MemoryBlock.last_toNat nonempty ends

/-- Comparing entries with last offsets decides whether two bodies share an offset. -/
theorem overlaps_iff (leftNonempty : left.length ≠ 0) (rightNonempty : right.length ≠ 0)
    (leftEnds : left.EndsInRange) (rightEnds : right.EndsInRange) :
    left.overlaps right = true ↔ left.SharesOffset right := by
  have lastOfLeft := lastOffset_toNat leftNonempty leftEnds
  have lastOfRight := lastOffset_toNat rightNonempty rightEnds
  have leftPositive := MemoryBlock.length_pos leftNonempty
  have rightPositive := MemoryBlock.length_pos rightNonempty
  simp only [overlaps, Address.sameSpace, Bool.and_eq_true, beq_iff_eq, decide_eq_true_eq,
    UInt64.le_iff_toNat_le, lastOfLeft, lastOfRight]
  constructor
  · rintro ⟨⟨space, startsBefore⟩, endsAfter⟩
    refine ⟨space, max left.entry.offset.toNat right.entry.offset.toNat, ?_, ?_⟩
    · exact ⟨le_max_left _ _, by omega⟩
    · exact ⟨le_max_right _ _, by omega⟩
  · rintro ⟨space, offset, ⟨low, high⟩, low', high'⟩
    exact ⟨⟨space, by omega⟩, by omega⟩

end Function

namespace FunctionTable

variable {table : FunctionTable} {function : Function}

/-- What every call of `create` keeps. -/
structure WellFormed (table : FunctionTable) : Prop where
  ordered : table.functions.Ordered
  own_entry : ∀ {entry function}, table.functionAt? entry = some function →
    function.entry = entry
  nonempty : ∀ function ∈ table.toList, function.length ≠ 0
  ends : ∀ function ∈ table.toList, function.EndsInRange
  apart : table.toList.Pairwise fun left right => ¬ left.SharesOffset right

theorem wellFormed_empty : WellFormed .empty :=
  ⟨SortedMap.ordered_empty, nofun, nofun, nofun, .nil⟩

theorem mem_toList_of_functionAt? {entry : Address}
    (found : table.functionAt? entry = some function) : function ∈ table.toList :=
  List.mem_map_of_mem (SortedMap.mem_entries_of_get? found)

theorem WellFormed.functionAt?_of_mem (wellFormed : table.WellFormed)
    (member : function ∈ table.toList) : table.functionAt? function.entry = some function := by
  obtain ⟨⟨entry, stored⟩, inEntries, rfl⟩ := List.mem_map.mp member
  have found : table.functionAt? entry = some stored := wellFormed.ordered.get?_of_mem inEntries
  rw [wellFormed.own_entry found, found]

/-- Where no stored body shares an offset with a body, nothing is kept under its entry. -/
theorem WellFormed.functionAt?_of_apart (wellFormed : table.WellFormed)
    (nonempty : function.length ≠ 0)
    (apart : ∀ stored ∈ table.toList, ¬ stored.SharesOffset function) :
    table.functionAt? function.entry = none := by
  cases found : table.functionAt? function.entry with
  | none => rfl
  | some stored =>
      have member := mem_toList_of_functionAt? found
      have sameEntry := wellFormed.own_entry found
      have covered := Function.covers_entry (wellFormed.nonempty stored member)
      rw [sameEntry] at covered
      refine absurd ?_ (apart stored member)
      exact ⟨by rw [sameEntry], _, covered, Function.covers_entry nonempty⟩

/-- All that a call can come to, for a body that ends within sixty-four bits. -/
inductive Created (table : FunctionTable) (function : Function) :
    Except Failure (Function × FunctionTable) → Prop where
  | empty (isEmpty : function.length = 0) :
      Created table function (.error (.invalidAddress
        ("function at " ++ function.entry.text ++ " has an empty body")))
  | overlapping (nonempty : function.length ≠ 0) {stored : Function}
      (member : stored ∈ table.toList) (shared : stored.SharesOffset function) :
      Created table function (.error (.overlappingFunction function.entry.text))
  | stored (nonempty : function.length ≠ 0)
      (apart : ∀ stored ∈ table.toList, ¬ stored.SharesOffset function)
      (free : table.functionAt? function.entry = none) :
      Created table function
        (.ok (function, ⟨table.functions.insert function.entry function⟩))

theorem WellFormed.created (wellFormed : table.WellFormed) (ends : function.EndsInRange) :
    Created table function (table.create function) := by
  have overlaps_iff (nonempty : function.length ≠ 0) {stored : Function}
      (member : stored ∈ table.toList) :
      stored.overlaps function = true ↔ stored.SharesOffset function :=
    Function.overlaps_iff (wellFormed.nonempty stored member) nonempty
      (wellFormed.ends stored member) ends
  unfold create
  by_cases isEmpty : function.length = 0
  · rw [if_pos isEmpty]
    exact .empty isEmpty
  rw [if_neg isEmpty]
  by_cases overlapping : (table.toList.any fun stored => stored.overlaps function) = true
  · rw [if_pos overlapping]
    obtain ⟨stored, member, overlaps⟩ := List.any_eq_true.mp overlapping
    exact .overlapping isEmpty member ((overlaps_iff isEmpty member).mp overlaps)
  · rw [if_neg overlapping]
    have apart : ∀ stored ∈ table.toList, ¬ stored.SharesOffset function := by
      intro stored member shared
      have overlaps := (overlaps_iff isEmpty member).mpr shared
      exact overlapping (List.any_eq_true.mpr ⟨stored, member, overlaps⟩)
    have free := wellFormed.functionAt?_of_apart isEmpty apart
    rw [free]
    exact .stored isEmpty apart free

/-- A body that shares no offset with the others may be put under its entry. -/
theorem WellFormed.insert (wellFormed : table.WellFormed) (nonempty : function.length ≠ 0)
    (ends : function.EndsInRange)
    (apart : ∀ stored ∈ table.toList, ¬ stored.SharesOffset function)
    (free : table.functionAt? function.entry = none) :
    WellFormed ⟨table.functions.insert function.entry function⟩ := by
  have permuted : (table.functions.insert function.entry function).values.Perm
      (function :: table.toList) := SortedMap.values_insert_perm free
  have stored_cases : ∀ stored ∈ (table.functions.insert function.entry function).values,
      stored = function ∨ stored ∈ table.toList := fun stored member =>
    List.mem_cons.mp (permuted.mem_iff.mp member)
  constructor
  · exact wellFormed.ordered.update _ _
  · intro entry stored found
    rw [functionAt?, SortedMap.get?_insert] at found
    split at found
    · next same =>
        obtain rfl := Option.some.inj found
        exact same.symm
    · exact wellFormed.own_entry found
  · intro stored member
    rcases stored_cases stored member with rfl | before
    · exact nonempty
    · exact wellFormed.nonempty stored before
  · intro stored member
    rcases stored_cases stored member with rfl | before
    · exact ends
    · exact wellFormed.ends stored before
  · have symmetric : ∀ left right : Function,
        ¬ left.SharesOffset right → ¬ right.SharesOffset left :=
      fun left right distinct shared => distinct shared.symm
    refine (permuted.pairwise_iff fun {left right} => symmetric left right).mpr ?_
    exact List.pairwise_cons.mpr
      ⟨fun stored member => symmetric _ _ (apart stored member), wellFormed.apart⟩

/-! ## Calls one after another -/

/-- A call of `create`, after which a refused function has changed nothing. -/
def creating (function : Function) : Attempt FunctionTable Function :=
  .ofUpdate fun table => table.create function

/-- The table after calls, from the empty one on, of which any may have been refused. -/
def afterCalls (calls : List Function) : FunctionTable :=
  (Attempt.each (calls.map creating) .empty).2

theorem WellFormed.creating (wellFormed : table.WellFormed) (ends : function.EndsInRange) :
    ((creating function).apply table).2.WellFormed := by
  rw [FunctionTable.creating, Attempt.apply_ofUpdate]
  have created := wellFormed.created ends
  generalize table.create function = outcome at created
  cases created with
  | empty isEmpty => exact wellFormed
  | overlapping nonempty member shared => exact wellFormed
  | stored nonempty apart free => exact wellFormed.insert nonempty ends apart free

theorem wellFormed_afterCalls {calls : List Function}
    (ends : ∀ function ∈ calls, function.EndsInRange) : (afterCalls calls).WellFormed := by
  have kept : ∀ table : FunctionTable, table.WellFormed →
      (Attempt.each (calls.map FunctionTable.creating) table).2.WellFormed := by
    induction calls with
    | nil => exact fun table wellFormed => wellFormed
    | cons function rest inductionHypothesis =>
        intro table wellFormed
        have next := wellFormed.creating (ends function List.mem_cons_self)
        exact inductionHypothesis (fun later member => ends later (List.mem_cons_of_mem _ member)) _
          next
  exact kept .empty wellFormed_empty

/-- A call changes nothing, or stores its function beside all others. -/
theorem creating_cases (table : FunctionTable) (function : Function) :
    ((FunctionTable.creating function).apply table).2 = table ∨
      ((FunctionTable.creating function).apply table).2.toList.Perm (function :: table.toList) := by
  rw [FunctionTable.creating, Attempt.apply_ofUpdate, create]
  split_ifs with isEmpty overlapping
  · exact .inl rfl
  · exact .inl rfl
  · cases found : table.functionAt? function.entry with
    | some existing => exact .inl rfl
    | none => exact .inr (SortedMap.values_insert_perm found)

/-- A stored function stays stored, whatever else is asked for. -/
theorem mem_each_creating {stored : Function} (calls : List Function)
    (member : stored ∈ table.toList) :
    stored ∈ (Attempt.each (calls.map FunctionTable.creating) table).2.toList := by
  induction calls generalizing table with
  | nil => exact member
  | cons function rest inductionHypothesis =>
      refine @inductionHypothesis ((FunctionTable.creating function).apply table).2 ?_
      rcases creating_cases table function with unchanged | stores
      · rwa [unchanged]
      · exact stores.mem_iff.mpr (List.mem_cons_of_mem _ member)

/-- It is enough that the functions which are stored in the end do end within sixty-four bits; of
calls that were refused on the way nothing is asked. -/
theorem WellFormed.each_creating (wellFormed : table.WellFormed) (calls : List Function)
    (ends : ∀ function ∈ (Attempt.each (calls.map FunctionTable.creating) table).2.toList,
      function.EndsInRange) :
    (Attempt.each (calls.map FunctionTable.creating) table).2.WellFormed := by
  induction calls generalizing table with
  | nil => exact wellFormed
  | cons function rest inductionHypothesis =>
      refine @inductionHypothesis ((FunctionTable.creating function).apply table).2 ?_ ends
      rcases creating_cases table function with unchanged | stores
      · rwa [unchanged]
      · have inMiddle := stores.mem_iff.mpr List.mem_cons_self
        exact wellFormed.creating (ends function (mem_each_creating rest inMiddle))

/-- After any calls with bodies that end within sixty-four bits, every function stands under its own
entry with a body that is not empty, and no two bodies in spaces of one name share an offset. The
next such call is refused exactly for an empty body, or for an offset that it shares with a stored
one, and then changes nothing. Any other is stored and given back as it is, and no other function
is touched. -/
theorem bodies_kept_apart_by_calls (calls : List Function)
    (ends : ∀ function ∈ calls, function.EndsInRange) :
    let table := afterCalls calls
    (∀ entry function, table.functionAt? entry = some function →
      function.entry = entry ∧ ∃ offset, function.Covers offset) ∧
    (∀ function, function ∈ table.toList ↔ table.functionAt? function.entry = some function) ∧
    (table.toList.Pairwise fun left right => ¬ left.SharesOffset right) ∧
    ∀ function : Function, function.EndsInRange →
      let called := (creating function).apply table
      let overlapping : Failure := .overlappingFunction function.entry.text
      let empty : Failure :=
        .invalidAddress ("function at " ++ function.entry.text ++ " has an empty body")
      (called.1 = .error overlapping ↔
        (∃ offset, function.Covers offset) ∧
          ∃ stored ∈ table.toList, stored.SharesOffset function) ∧
      (called.1 = .error empty ↔ ¬ ∃ offset, function.Covers offset) ∧
      (∀ failure, called.1 = .error failure →
        (failure = overlapping ∨ failure = empty) ∧ called.2 = table) ∧
      ∀ returned, called.1 = .ok returned →
        returned = function ∧ table.functionAt? function.entry = none ∧
        ∀ entry, called.2.functionAt? entry =
          if entry = function.entry then some function else table.functionAt? entry := by
  intro table
  have wellFormed : table.WellFormed := wellFormed_afterCalls ends
  refine ⟨fun entry function found => ?_, fun function => ?_, wellFormed.apart,
    fun function functionEnds => ?_⟩
  · have nonempty := wellFormed.nonempty function (mem_toList_of_functionAt? found)
    exact ⟨wellFormed.own_entry found, Function.exists_covers_iff.mpr nonempty⟩
  · exact ⟨wellFormed.functionAt?_of_mem, mem_toList_of_functionAt?⟩
  · intro called
    have created := wellFormed.created functionEnds
    have outcome : called = _ :=
      Attempt.apply_ofUpdate (fun table : FunctionTable => table.create function) table
    beta_reduce at outcome
    rw [Function.exists_covers_iff, not_not]
    generalize table.create function = result at created outcome
    cases created with
    | empty isEmpty =>
        rw [outcome]
        refine ⟨iff_of_false nofun fun both => both.1 isEmpty, iff_of_true rfl isEmpty, ?_, nofun⟩
        exact fun failure refused => ⟨.inr (Except.error.inj refused).symm, rfl⟩
    | overlapping nonempty member shared =>
        rw [outcome]
        refine ⟨iff_of_true rfl ⟨nonempty, _, member, shared⟩, iff_of_false nofun nonempty, ?_,
          nofun⟩
        exact fun failure refused => ⟨.inl (Except.error.inj refused).symm, rfl⟩
    | stored nonempty apart free =>
        rw [outcome]
        refine ⟨iff_of_false nofun ?_, iff_of_false nofun nonempty, nofun, ?_⟩
        · rintro ⟨-, stored, member, shared⟩
          exact apart stored member shared
        · intro returned accepted
          obtain rfl := Except.ok.inj accepted
          exact ⟨rfl, free, fun entry => SortedMap.get?_insert _ _ entry _⟩

/-- Sixteen offsets at the very end of a space leave no room in a space of the same name, whatever
its kind, and all room in one of another name. -/
theorem last_offsets_are_kept :
    let last : Function :=
      ⟨some "last", ⟨"ram", .ram, 0xfffffffffffffff0, 64, none⟩, 16, .imported⟩
    let inside : Function := ⟨none, ⟨"ram", .overlay, 0xffffffffffffffff, 8, some 3⟩, 1, .analysis⟩
    let elsewhere : Function := { inside with entry := { inside.entry with space := "rom" } }
    let table := afterCalls [last, inside]
    table.toList = [last] ∧
      ((creating inside).apply table).1 = .error (.overlappingFunction inside.entry.text) ∧
      ((creating elsewhere).apply table).1 = .ok elsewhere ∧
      ((creating elsewhere).apply table).2.functionAt? last.entry = some last := by
  intro last inside elsewhere table
  have ends : ∀ function ∈ [last, inside], function.EndsInRange := by
    simp [last, inside, Function.EndsInRange]
  have stored : table.toList = [last] := by decide +kernel
  have apart := (bodies_kept_apart_by_calls [last, inside] ends).2.2.2
  have refused := (apart inside (by simp [inside, Function.EndsInRange])).1
  have accepted : ((creating elsewhere).apply table).1 = .ok elsewhere := by decide +kernel
  have kept := (apart elsewhere (by simp [elsewhere, inside, Function.EndsInRange])).2.2.2 _ accepted
  refine ⟨stored, refused.mpr ⟨⟨_, Function.covers_entry (by decide)⟩, last, ?_, ?_⟩, accepted, ?_⟩
  · show last ∈ table.toList
    rw [stored]
    exact List.mem_singleton.mpr rfl
  · exact ⟨rfl, 0xffffffffffffffff, ⟨by decide, by decide⟩, ⟨by decide, by decide⟩⟩
  · rw [kept.2.2 last.entry, if_neg (by decide)]
    decide +kernel

end FunctionTable

end ImageImport
