import ImageImport.Proofs.Table.Requests

/-!
Contract: requests that differ in nothing but their pins, and requests that are made again.

Whether a label is created, what stands at its address and which label is primary there hangs on
names and addresses alone. So it does not matter whether pins are erased before a run of requests or
after it. And a request that was made once finds its name taken, if it is a name at all, so that it
is passed over from then on.

Owns: tables without pins, the pins after a run of requests, and a second run of the same requests.
Does not own: which requests a language makes.
-/

namespace ImageImport

def Symbol.unpinned (symbol : Symbol) : Symbol :=
  { symbol with isPinned := false }

/-- The name of a label, and whether it is pinned. -/
def Symbol.nameAndPin (symbol : Symbol) : String × Bool :=
  (symbol.name, symbol.isPinned)

/-- The table with no label pinned, and the same otherwise. -/
def SymbolTable.unpinned (table : SymbolTable) : SymbolTable :=
  { table with labels := table.labels.mapValues (List.map Symbol.unpinned) }

theorem SymbolTable.symbolsAt_unpinned (table : SymbolTable) (address : Address) :
    table.unpinned.symbolsAt address = (table.symbolsAt address).map Symbol.unpinned := by
  rw [symbolsAt, unpinned, SortedMap.get?_mapValues, symbolsAt]
  cases table.labels.get? address <;> rfl

theorem SymbolTable.unpinned_withLabels (table : SymbolTable) (address : Address)
    (labels : List Symbol) : (table.withLabels address labels).unpinned =
      table.unpinned.withLabels address (labels.map Symbol.unpinned) :=
  congrArg (fun map => { table with labels := map })
    (SortedMap.mapValues_insert table.labels address labels)

namespace Program

def LabelRequest.unpinned (request : LabelRequest) : LabelRequest :=
  { request with isPinned := false }

section Pins

open LabelRequest

variable {table after : SymbolTable} {requests : List LabelRequest} {request : LabelRequest}

theorem unpinned_enter (request : LabelRequest) (table : SymbolTable) :
    (request.enter table).unpinned = request.unpinned.enter table.unpinned := by
  unfold LabelRequest.enter
  cases isEntry : request.isEntry with
  | true => simp only [isEntry, LabelRequest.unpinned, if_true]; rfl
  | false => simp [isEntry, LabelRequest.unpinned]

theorem unpinned_labelsWith (request : LabelRequest) (present : List Symbol) :
    (request.labelsWith present).map Symbol.unpinned =
      request.unpinned.labelsWith (present.map Symbol.unpinned) := by
  have behind : (request.labelsBehind present).map Symbol.unpinned =
      request.unpinned.labelsBehind (present.map Symbol.unpinned) := by
    simp [labelsBehind, LabelRequest.unpinned, Symbol.unpinned, label]
  cases isPrimary : request.isPrimary with
  | true =>
      have stillPrimary : request.unpinned.isPrimary = true := isPrimary
      rw [labelsWith, if_pos isPrimary, labelsWith, if_pos stillPrimary, ← behind]
      simp [Function.comp_def, Symbol.unpinned, LabelRequest.unpinned]
  | false =>
      have notPrimary : request.unpinned.isPrimary = false := isPrimary
      rw [labelsWith, isPrimary, labelsWith, notPrimary]
      exact behind

/-- There is room for the same labels without pins. -/
theorem hasRoomFor_unpinned_iff (table : SymbolTable) (address : Address) (name : String) :
    table.unpinned.HasRoomFor address name ↔ table.HasRoomFor address name := by
  rw [SymbolTable.HasRoomFor, SymbolTable.symbolsAt_unpinned, List.forall_mem_map]
  rfl

/-- Pins may be erased before a request or after it. -/
theorem unpinned_carryOut (ordered : table.labels.Ordered) (request : LabelRequest) :
    (carryOut table request).unpinned = carryOut table.unpinned request.unpinned := by
  have sameRoom := hasRoomFor_unpinned_iff table request.address request.name
  by_cases room : table.HasRoomFor request.address request.name
  · rw [carryOut_eq_of_room ordered room, SymbolTable.unpinned_withLabels, unpinned_enter,
      unpinned_labelsWith, ← SymbolTable.symbolsAt_unpinned]
    exact (@carryOut_eq_of_room _ request.unpinned ordered.mapValues (sameRoom.mpr room)).symm
  · rw [carryOut_of_no_room room]
    exact (@carryOut_of_no_room _ request.unpinned (mt sameRoom.mp room)).symm

/-- Pins never feed back: the table of a run, without its pins, is that of the requests without
theirs. -/
theorem unpinned_foldl_carryOut (ordered : table.labels.Ordered) (requests : List LabelRequest) :
    (requests.foldl carryOut table).unpinned =
      (requests.map LabelRequest.unpinned).foldl carryOut table.unpinned := by
  induction requests using List.reverseRecOn with
  | nil => rfl
  | append_singleton requests request inductionHypothesis =>
      rw [List.foldl_append, List.map_append, List.foldl_append, ← inductionHypothesis]
      exact unpinned_carryOut (listed_of_requests ordered requests).ordered request

/-- The pins at an address after a run are those that were there and those that were asked for. -/
theorem Listed.pins_eq (listed : Listed table requests after) (address : Address) :
    (after.symbolsAt address).map Symbol.nameAndPin =
      (table.symbolsAt address).map Symbol.nameAndPin ++
        (addedAt table requests address).map fun request => (request.name, request.isPinned) := by
  have pins := congrArg (List.map Symbol.nameAndPin) (listed.demoted_eq address)
  rw [List.map_append, List.map_map, List.map_map, List.map_map] at pins
  exact pins

/-- A request that was made once is passed over from then on. -/
theorem Listed.carryOut_of_asked (listed : Listed table requests after)
    (asked : request ∈ requests) : carryOut after request = after := by
  apply carryOut_of_no_room
  intro room
  obtain ⟨-, -, unasked⟩ := listed.adds_iff.mpr room
  exact unasked request asked ⟨rfl, rfl⟩

/-- Whatever a table is like, and in whatever order labels are asked for, to ask for them a second
time changes nothing. -/
theorem foldl_carryOut_again (ordered : table.labels.Ordered) (requests : List LabelRequest) :
    requests.foldl carryOut (requests.foldl carryOut table) = requests.foldl carryOut table := by
  have listed := listed_of_requests ordered requests
  have unchanged (again : List LabelRequest) (asked : ∀ request ∈ again, request ∈ requests) :
      again.foldl carryOut (requests.foldl carryOut table) = requests.foldl carryOut table := by
    induction again with
    | nil => rfl
    | cons request rest inductionHypothesis =>
        obtain ⟨first, others⟩ := List.forall_mem_cons.mp asked
        rw [List.foldl_cons, listed.carryOut_of_asked first, inductionHypothesis others]
  exact unchanged requests fun _ asked => asked

end Pins

end Program

end ImageImport
