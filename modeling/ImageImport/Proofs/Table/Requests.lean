import Mathlib.Data.List.Induction
import ImageImport.Proofs.Program.Labelling
import ImageImport.Proofs.Table.Labels

/-!
Contract: the table after requests for labels, one after another.

A request adds its label if the name is valid and nobody has it at that address yet, neither a label
of the table nor a request before it; otherwise it leaves nothing, no mark and no entry either. So
the labels that are added can be told from the requests alone, and with them the one label of each
address that ends up primary.

Owns: which requests add a label, and the labels, marks and entry points after a run of requests.
Does not own: which requests a language makes.
-/

namespace ImageImport

/-- The label while it is not primary. -/
def Symbol.demoted (symbol : Symbol) : Symbol :=
  { symbol with isPrimary := false }

/-- A label of that name can be created at the address. -/
def SymbolTable.HasRoomFor (table : SymbolTable) (address : Address) (name : String) : Prop :=
  Symbol.ValidName name ∧ ∀ other ∈ table.symbolsAt address, other.name ≠ name

namespace Program

namespace LabelRequest

/-- The label that a request adds, while it is not primary. -/
def label (request : LabelRequest) : Symbol :=
  ⟨request.name, request.address, Symbol.globalScope, .imported, false, request.isPinned⟩

/-- Whether two requests are for one label. -/
def Same (left right : LabelRequest) : Prop :=
  left.address = right.address ∧ left.name = right.name

/-- Whether a request adds a label to the table after earlier requests. -/
def Adds (table : SymbolTable) (earlier : List LabelRequest) (request : LabelRequest) : Prop :=
  Symbol.ValidName request.name ∧
    (∀ other ∈ table.symbolsAt request.address, other.name ≠ request.name) ∧
    ∀ other ∈ earlier, ¬ other.Same request

instance (left right : LabelRequest) : Decidable (left.Same right) := by
  unfold Same
  infer_instance

instance (table : SymbolTable) (earlier : List LabelRequest) (request : LabelRequest) :
    Decidable (request.Adds table earlier) := by
  unfold Adds
  infer_instance

/-- Those of the requests that add a label, after earlier ones. -/
def addedAfter (table : SymbolTable) (earlier : List LabelRequest) :
    List LabelRequest → List LabelRequest
  | [] => []
  | request :: rest =>
      (if request.Adds table earlier then [request] else []) ++
        addedAfter table (earlier ++ [request]) rest

/-- Those of the requests that add a label. -/
def added (table : SymbolTable) (requests : List LabelRequest) : List LabelRequest :=
  addedAfter table [] requests

/-- Those of the requests that add a label at an address. -/
def addedAt (table : SymbolTable) (requests : List LabelRequest) (address : Address) :
    List LabelRequest :=
  (added table requests).filter fun request => request.address = address

/-- The name of the label that is primary at an address, from the labels that were there and the
requests that add one: the last of these that asks for it, and otherwise the label that was primary,
and otherwise the first. -/
def primaryName? (present : List Symbol) (added : List LabelRequest) : Option String :=
  (((added.filter LabelRequest.isPrimary).getLast?.map LabelRequest.name).or
    ((present.find? Symbol.isPrimary).map Symbol.name)).or (added.head?.map LabelRequest.name)

/-- The labels of an address after requests, from those that were there before. -/
def labelsAfter (present : List Symbol) (added : List LabelRequest) : List Symbol :=
  (present ++ added.map label).map fun symbol =>
    { symbol with isPrimary := primaryName? present added == some symbol.name }

variable {table : SymbolTable} {earlier requests : List LabelRequest} {request : LabelRequest}

/-! ## The requests that add a label -/

/-- The requests that add a label are those in front that do, and then those behind them. -/
theorem addedAfter_append (earlier first second : List LabelRequest) :
    addedAfter table earlier (first ++ second) =
      addedAfter table earlier first ++ addedAfter table (earlier ++ first) second := by
  induction first generalizing earlier with
  | nil => simp [addedAfter]
  | cons request rest inductionHypothesis =>
      rw [List.cons_append, addedAfter, inductionHypothesis, addedAfter]
      simp [List.append_assoc]

theorem added_concat (table : SymbolTable) (requests : List LabelRequest)
    (request : LabelRequest) :
    added table (requests ++ [request]) =
      added table requests ++ if request.Adds table requests then [request] else [] := by
  rw [added, addedAfter_append, added]
  simp [addedAfter]

/-- A request adds a label exactly if it stands somewhere among the requests where it does. -/
theorem mem_addedAfter_iff :
    request ∈ addedAfter table earlier requests ↔
      ∃ before later, requests = before ++ request :: later ∧
        request.Adds table (earlier ++ before) := by
  induction requests generalizing earlier with
  | nil => simp [addedAfter]
  | cons first rest inductionHypothesis =>
      rw [addedAfter, List.mem_append, inductionHypothesis]
      constructor
      · rintro (isFirst | ⟨before, later, rfl, adds⟩)
        · by_cases adds : first.Adds table earlier
          · rw [if_pos adds, List.mem_singleton] at isFirst
            subst isFirst
            exact ⟨[], rest, rfl, by rwa [List.append_nil]⟩
          · simp [adds] at isFirst
        · exact ⟨first :: before, later, rfl, by simpa using adds⟩
      · rintro ⟨before, later, split, adds⟩
        cases before with
        | nil =>
            obtain ⟨rfl, rfl⟩ := List.cons.inj split
            rw [List.append_nil] at adds
            exact .inl (by simp [adds])
        | cons head others =>
            obtain ⟨rfl, rfl⟩ := List.cons.inj split
            exact .inr ⟨others, later, rfl, by simpa using adds⟩

theorem mem_added_iff :
    request ∈ added table requests ↔
      ∃ earlier later, requests = earlier ++ request :: later ∧ request.Adds table earlier :=
  mem_addedAfter_iff

theorem Same.trans {first second third : LabelRequest} (same : first.Same second)
    (next : second.Same third) : first.Same third :=
  ⟨same.1.trans next.1, same.2.trans next.2⟩

/-- A label that is asked for, and can be added, is added by one of the requests. -/
theorem exists_added_of_asked (valid : Symbol.ValidName request.name)
    (free : ∀ other ∈ table.symbolsAt request.address, other.name ≠ request.name)
    (unasked : ∀ other ∈ earlier, ¬ other.Same request) (asked : request ∈ requests) :
    ∃ first ∈ addedAfter table earlier requests, first.Same request := by
  induction requests generalizing earlier with
  | nil => contradiction
  | cons head rest inductionHypothesis =>
      rw [addedAfter]
      by_cases same : head.Same request
      · have adds : head.Adds table earlier :=
          ⟨same.2 ▸ valid, by rwa [same.1, same.2], fun other before sameHead =>
            unasked other before (sameHead.trans same)⟩
        exact ⟨head, by simp [adds], same⟩
      · have inRest : request ∈ rest := by
          rcases List.mem_cons.mp asked with rfl | inRest
          · exact absurd ⟨rfl, rfl⟩ same
          · exact inRest
        have stillUnasked : ∀ other ∈ earlier ++ [head], ¬ other.Same request := by
          rw [List.forall_mem_append, List.forall_mem_singleton]
          exact ⟨unasked, same⟩
        obtain ⟨first, member, sameFirst⟩ := inductionHypothesis stillUnasked inRest
        exact ⟨first, List.mem_append_right _ member, sameFirst⟩

theorem mem_of_mem_addedAfter (member : request ∈ addedAfter table earlier requests) :
    request ∈ requests := by
  obtain ⟨before, later, rfl, -⟩ := mem_addedAfter_iff.mp member
  simp

/-- The labels that are added are those that are asked for under a valid name, not there yet and not
asked for before. -/
theorem exists_addedAfter_iff {address : Address} {name : String} :
    (∃ request ∈ addedAfter table earlier requests,
        request.address = address ∧ request.name = name) ↔
      Symbol.ValidName name ∧ (∀ other ∈ table.symbolsAt address, other.name ≠ name) ∧
        (∀ other ∈ earlier, ¬ (other.address = address ∧ other.name = name)) ∧
        ∃ request ∈ requests, request.address = address ∧ request.name = name := by
  constructor
  · rintro ⟨request, member, rfl, rfl⟩
    obtain ⟨before, later, -, valid, free, unasked⟩ := mem_addedAfter_iff.mp member
    exact ⟨valid, free, fun other isEarlier => unasked other (List.mem_append_left _ isEarlier),
      request, mem_of_mem_addedAfter member, rfl, rfl⟩
  · rintro ⟨valid, free, unasked, request, asked, rfl, rfl⟩
    exact exists_added_of_asked valid free unasked asked

theorem exists_added_iff {address : Address} {name : String} :
    (∃ request ∈ added table requests, request.address = address ∧ request.name = name) ↔
      Symbol.ValidName name ∧ (∀ other ∈ table.symbolsAt address, other.name ≠ name) ∧
        ∃ request ∈ requests, request.address = address ∧ request.name = name := by
  rw [added, exists_addedAfter_iff]
  simp

/-- No label is added twice. -/
theorem added_pairwise (table : SymbolTable) (requests : List LabelRequest) :
    (added table requests).Pairwise fun left right => ¬ left.Same right := by
  induction requests using List.reverseRecOn with
  | nil => exact .nil
  | append_singleton requests last inductionHypothesis =>
      rw [added_concat]
      refine List.pairwise_append.mpr ⟨inductionHypothesis, ?_, fun earlier member other isLast => ?_⟩
      · split
        · exact List.pairwise_singleton _ _
        · exact .nil
      · by_cases adds : last.Adds table requests
        · rw [if_pos adds, List.mem_singleton] at isLast
          rw [isLast]
          exact adds.2.2 earlier (mem_of_mem_addedAfter member)
        · simp [adds] at isLast

theorem addedAt_concat_of_adds (adds : request.Adds table requests) (address : Address) :
    addedAt table (requests ++ [request]) address =
      addedAt table requests address ++ if request.address = address then [request] else [] := by
  rw [addedAt, added_concat, if_pos adds, List.filter_append, addedAt, List.filter_singleton]
  simp

theorem addedAt_concat_of_not_adds (notAdds : ¬ request.Adds table requests) (address : Address) :
    addedAt table (requests ++ [request]) address = addedAt table requests address := by
  rw [addedAt, added_concat, if_neg notAdds, List.append_nil, addedAt]

end LabelRequest

/-! ## One request -/

section Request

variable {table : SymbolTable} {request : LabelRequest}

/-- A request for a label under a bad name, or one that is there, is passed over. -/
theorem carryOut_of_refused {failure : Failure}
    (refused : table.create request.address request.name .imported = .error failure) :
    carryOut table request = table := by
  unfold carryOut requestLabel
  rw [refused]
  rcases SymbolTable.create_error_cases refused with ⟨reason, rfl⟩ | rfl
  · rfl
  · rfl

theorem validateName_eq_ok_iff {name : String} :
    Symbol.validateName name = .ok () ↔ Symbol.ValidName name := by
  unfold Symbol.validateName
  by_cases isEmpty : name = ""
  · simp [isEmpty, Symbol.ValidName]
  · by_cases valid : Symbol.ValidName name
    · simp [isEmpty, valid]
    · simp [isEmpty, valid]

/-- A request that there is no room for is passed over. -/
theorem carryOut_of_no_room (noRoom : ¬ table.HasRoomFor request.address request.name) :
    carryOut table request = table := by
  cases created : table.create request.address request.name .imported with
  | error failure => exact carryOut_of_refused created
  | ok made =>
      obtain ⟨valid, free, -⟩ := SymbolTable.create_eq_ok_iff.mp created
      exact absurd ⟨validateName_eq_ok_iff.mp valid, free⟩ noRoom

/-- The labels at the address of a request, once its label is there and pinned as it asks. -/
def LabelRequest.labelsBehind (request : LabelRequest) (present : List Symbol) : List Symbol :=
  present ++ [{ request.label with isPrimary := present.isEmpty }]

/-- The labels at the address of a request that is carried out, from those that were there. -/
def LabelRequest.labelsWith (request : LabelRequest) (present : List Symbol) : List Symbol :=
  if request.isPrimary then
    (request.labelsBehind present).map fun symbol =>
      { symbol with isPrimary := symbol.name == request.name }
  else request.labelsBehind present

/-- The table with the address of a request as an entry point, if it asks for that. -/
def LabelRequest.enter (request : LabelRequest) (table : SymbolTable) : SymbolTable :=
  if request.isEntry then table.addEntryPoint request.address else table

theorem labels_enter (request : LabelRequest) (table : SymbolTable) :
    (request.enter table).labels = table.labels := by
  unfold LabelRequest.enter
  split <;> rfl

theorem symbolsAt_enter (request : LabelRequest) (table : SymbolTable) (address : Address) :
    (request.enter table).symbolsAt address = table.symbolsAt address := by
  rw [SymbolTable.symbolsAt, labels_enter, SymbolTable.symbolsAt]

theorem enter_withLabels (request : LabelRequest) (table : SymbolTable) (address : Address)
    (labels : List Symbol) : request.enter (table.withLabels address labels) =
      (request.enter table).withLabels address labels := by
  unfold LabelRequest.enter
  split <;> rfl

theorem isEntryPoint_enter_iff (request : LabelRequest) (table : SymbolTable) (address : Address) :
    (request.enter table).isEntryPoint address = true ↔
      table.isEntryPoint address = true ∨ request.isEntry = true ∧ request.address = address := by
  unfold LabelRequest.enter SymbolTable.isEntryPoint SymbolTable.addEntryPoint SortedMap.contains
  cases request.isEntry with
  | false => simp
  | true =>
      rw [if_pos rfl, SortedMap.get?_insert]
      by_cases same : address = request.address
      · simp [same]
      · simp [same, Ne.symm same]

/-- A request that there is room for changes the labels of its address, and nothing else but perhaps
the entry points. -/
theorem carryOut_eq_of_room (ordered : table.labels.Ordered)
    (room : table.HasRoomFor request.address request.name) :
    carryOut table request = (request.enter table).withLabels request.address
      (request.labelsWith (table.symbolsAt request.address)) := by
  obtain ⟨valid, free⟩ := room
  let present := table.symbolsAt request.address
  let symbol := table.newLabel request.address request.name .imported
  have created : table.create request.address request.name .imported =
      .ok (symbol, table.withLabels request.address (present ++ [symbol])) :=
    SymbolTable.create_eq_withLabels ordered (validateName_eq_ok_iff.mpr valid) free
  have pinned : ((table.withLabels request.address (present ++ [symbol])).setPinned request.address
      request.name request.isPinned).2 =
        table.withLabels request.address (request.labelsBehind present) := by
    have untouched : present.map (fun other =>
        if other.name = request.name then { other with isPinned := request.isPinned }
        else other) = present := by
      rw [List.map_congr_left fun other member => if_neg (free other member), List.map_id']
    have isThere : ∃ other ∈ present ++ [symbol], other.name = request.name :=
      ⟨symbol, by simp, rfl⟩
    rw [SymbolTable.setPinned_withLabels isThere, List.map_append, untouched]
    simp [symbol, present, SymbolTable.newLabel, LabelRequest.labelsBehind, LabelRequest.label]
  have outcome : carryOut table request =
      let entered := (request.enter table).withLabels request.address
        (request.labelsBehind present)
      if request.isPrimary then (entered.setPrimary request.address request.name).2
      else entered := by
    rw [← enter_withLabels, ← pinned]
    simp only [carryOut, requestLabel, created, LabelRequest.enter]
    cases request.isPrimary <;> rfl
  rw [outcome]
  cases isPrimary : request.isPrimary with
  | true =>
      have isThere : ∃ other ∈ request.labelsBehind present, other.name = request.name :=
        ⟨_, List.mem_append_right _ (List.mem_singleton_self _), rfl⟩
      simp only [if_true, SymbolTable.setPrimary_withLabels isThere, LabelRequest.labelsWith,
        isPrimary, present]
  | false =>
      simp [LabelRequest.labelsWith, isPrimary, present]

theorem LabelRequest.soundAt_labelsWith {present : List Symbol}
    (sound : present ≠ [] → SymbolTable.SoundAt request.address present)
    (valid : Symbol.ValidName request.name)
    (free : ∀ other ∈ present, other.name ≠ request.name) :
    SymbolTable.SoundAt request.address (request.labelsWith present) := by
  have behind : SymbolTable.SoundAt request.address (request.labelsBehind present) :=
    SymbolTable.soundAt_concat sound rfl (validateName_eq_ok_iff.mpr valid) free rfl
  unfold labelsWith
  split
  · exact behind.setPrimary ⟨_, List.mem_append_right _ (List.mem_singleton_self _), rfl⟩
  · exact behind

/-- What the table is like after a request that is carried out. -/
structure CarriedOut (table : SymbolTable) (request : LabelRequest) (after : SymbolTable) :
    Prop where
  ordered : after.labels.Ordered
  symbolsAt_eq : ∀ address, after.symbolsAt address =
    if address = request.address then request.labelsWith (table.symbolsAt address)
    else table.symbolsAt address
  entries : ∀ address, after.isEntryPoint address = true ↔
    table.isEntryPoint address = true ∨ request.isEntry = true ∧ request.address = address

/-- A request that there is room for is carried out. -/
theorem carryOut_of_room (ordered : table.labels.Ordered)
    (room : table.HasRoomFor request.address request.name) :
    CarriedOut table request (carryOut table request) := by
  rw [carryOut_eq_of_room ordered room]
  refine ⟨?_, fun address => ?_, isEntryPoint_enter_iff request table⟩
  · rw [← labels_enter request table] at ordered
    exact ordered.update _ _
  · rw [SymbolTable.symbolsAt_withLabels, symbolsAt_enter]
    split
    · next same => rw [same]
    · rfl

theorem wellFormed_carryOut_of_room (wellFormed : table.WellFormed)
    (room : table.HasRoomFor request.address request.name) :
    (carryOut table request).WellFormed := by
  rw [carryOut_eq_of_room wellFormed.ordered room]
  have entered : (request.enter table).WellFormed := by
    unfold LabelRequest.enter
    split
    · exact (wellFormed.grown_addEntryPoint request.address).wellFormed
    · exact wellFormed
  exact entered.withLabels
    (LabelRequest.soundAt_labelsWith wellFormed.sound_symbolsAt room.1 room.2)

end Request

/-! ## Requests one after another -/

namespace LabelRequest

variable {table : SymbolTable} {requests : List LabelRequest} {request : LabelRequest}
  {address : Address} {present : List Symbol} {news : List LabelRequest}

theorem names_labelsAfter (present : List Symbol) (news : List LabelRequest) :
    (labelsAfter present news).map Symbol.name = present.map Symbol.name ++ news.map name := by
  simp [labelsAfter, label, Function.comp_def]

theorem primaryName?_concat_of_primary (isPrimary : request.isPrimary = true) :
    primaryName? present (news ++ [request]) = some request.name := by
  simp [primaryName?, isPrimary]

theorem primaryName?_concat_of_not_primary (notPrimary : request.isPrimary = false) :
    primaryName? present (news ++ [request]) =
      (primaryName? present news).or (some request.name) := by
  rw [primaryName?, List.filter_append, List.filter_singleton, notPrimary, primaryName?]
  cases news with
  | nil => simp
  | cons first rest => simp

/-- The primary label is one of those at the address. -/
theorem mem_of_primaryName? {name : String} (found : primaryName? present news = some name) :
    name ∈ present.map Symbol.name ++ news.map LabelRequest.name := by
  rw [primaryName?, Option.or_eq_some_iff, Option.or_eq_some_iff] at found
  rcases found with (asked | ⟨-, stood⟩) | ⟨-, first⟩
  · obtain ⟨request, last, rfl⟩ := Option.map_eq_some_iff.mp asked
    have member := (List.mem_filter.mp (List.mem_of_getLast? last)).1
    exact List.mem_append_right _ (List.mem_map_of_mem member)
  · obtain ⟨symbol, primary, rfl⟩ := Option.map_eq_some_iff.mp stood
    exact List.mem_append_left _ (List.mem_map_of_mem (List.mem_of_find?_eq_some primary))
  · obtain ⟨request, head, rfl⟩ := Option.map_eq_some_iff.mp first
    exact List.mem_append_right _ (List.mem_map_of_mem (List.mem_of_head? head))

/-- Where there are labels, one is primary. -/
theorem eq_nil_of_primaryName? (sound : present ≠ [] → SymbolTable.SoundAt address present)
    (noPrimary : primaryName? present news = none) : present = [] ∧ news = [] := by
  simp only [primaryName?, Option.or_eq_none_iff, Option.map_eq_none_iff] at noPrimary
  obtain ⟨⟨-, unmarked⟩, noFirst⟩ := noPrimary
  refine ⟨?_, List.head?_eq_none_iff.mp noFirst⟩
  by_contra labelled
  have one := (sound labelled).one_primary
  rw [List.countP_eq_zero.mpr (List.find?_eq_none.mp unmarked)] at one
  contradiction

/-- Sound labels have the marks that the name of their primary label gives. -/
theorem isPrimary_eq_of_sound (sound : SymbolTable.SoundAt address present) {symbol : Symbol}
    (member : symbol ∈ present) :
    (primaryName? present [] == some symbol.name) = symbol.isPrimary := by
  have one := sound.one_primary
  rw [List.countP_eq_length_filter, List.length_eq_one_iff] at one
  obtain ⟨primary, only⟩ := one
  have found : present.find? Symbol.isPrimary = some primary := by
    rw [← List.head?_filter, only, List.head?_singleton]
  have isThere : primary ∈ present := List.mem_of_find?_eq_some found
  have isPrimary : primary.isPrimary = true := List.find?_some found
  have named : primaryName? present [] = some primary.name := by simp [primaryName?, found]
  rw [named, Bool.eq_iff_iff, beq_iff_eq, Option.some.injEq]
  constructor
  · intro sameName
    rw [← List.inj_on_of_nodup_map sound.names_nodup isThere member sameName]
    exact isPrimary
  · intro marked
    have inFilter := List.mem_filter.mpr ⟨member, marked⟩
    rw [only, List.mem_singleton] at inFilter
    rw [inFilter]

/-- The primary label of an address is the one that `primaryName?` names. -/
theorem find?_isPrimary_labelsAfter (present : List Symbol) (news : List LabelRequest) :
    ((labelsAfter present news).find? Symbol.isPrimary).map Symbol.name =
      primaryName? present news := by
  have marked (symbol : Symbol) (member : symbol ∈ labelsAfter present news) :
      symbol.isPrimary = true ↔ primaryName? present news = some symbol.name := by
    obtain ⟨before, -, rfl⟩ := List.mem_map.mp member
    exact beq_iff_eq
  cases found : (labelsAfter present news).find? Symbol.isPrimary with
  | some first =>
      have isFirst := (marked first (List.mem_of_find?_eq_some found)).mp (List.find?_some found)
      rw [isFirst, Option.map_some]
  | none =>
      cases primary : primaryName? present news with
      | none => rfl
      | some name =>
          have named := mem_of_primaryName? primary
          rw [← names_labelsAfter] at named
          obtain ⟨symbol, member, rfl⟩ := List.mem_map.mp named
          exact absurd ((marked symbol member).mpr primary) (List.find?_eq_none.mp found symbol member)

/-- Without a request that adds a label, the marks of sound labels stay. -/
theorem labelsAfter_nil (sound : present ≠ [] → SymbolTable.SoundAt address present) :
    labelsAfter present [] = present := by
  rw [labelsAfter, List.map_nil, List.append_nil]
  by_cases labelled : present = []
  · rw [labelled, List.map_nil]
  · have unchanged (symbol : Symbol) (member : symbol ∈ present) :
        { symbol with isPrimary := primaryName? present [] == some symbol.name } = symbol := by
      rw [isPrimary_eq_of_sound (sound labelled) member]
    rw [List.map_congr_left unchanged, List.map_id']

/-- One more request that adds a label is carried out on the labels that the others leave. -/
theorem labelsWith_labelsAfter (sound : present ≠ [] → SymbolTable.SoundAt address present)
    (isNew : request.name ∉ present.map Symbol.name ++ news.map LabelRequest.name) :
    request.labelsWith (labelsAfter present news) = labelsAfter present (news ++ [request]) := by
  cases isPrimary : request.isPrimary with
  | true =>
      rw [labelsWith, if_pos isPrimary, labelsBehind, labelsAfter, labelsAfter,
        primaryName?_concat_of_primary isPrimary]
      simp [Function.comp_def, label, @BEq.comm _ _ _ request.name]
  | false =>
      rw [labelsWith, isPrimary, if_neg Bool.false_ne_true, labelsBehind]
      cases primary : primaryName? present news with
      | none =>
          obtain ⟨rfl, rfl⟩ := eq_nil_of_primaryName? sound primary
          simp [labelsAfter, primaryName?, isPrimary, label]
      | some name =>
          have other : name ≠ request.name := fun same =>
            isNew (same ▸ mem_of_primaryName? primary)
          have labelled : labelsAfter present news ≠ [] := by
            intro isNil
            have noNames := names_labelsAfter present news
            rw [isNil, List.map_nil] at noNames
            simpa [← noNames] using mem_of_primaryName? primary
          have nextPrimary : primaryName? present (news ++ [request]) = some name := by
            rw [primaryName?_concat_of_not_primary isPrimary, primary, Option.some_or]
          rw [List.isEmpty_eq_false_iff.mpr labelled]
          simp [labelsAfter, primary, nextPrimary, label, other]

end LabelRequest

/-- The labels of each address after requests, whatever the table before is like, but for the mark of
the primary one. -/
structure Listed (table : SymbolTable) (requests : List LabelRequest) (after : SymbolTable) :
    Prop where
  ordered : after.labels.Ordered
  demoted_eq : ∀ address, (after.symbolsAt address).map Symbol.demoted =
    (table.symbolsAt address).map Symbol.demoted ++
      (LabelRequest.addedAt table requests address).map LabelRequest.label

/-- The table after requests, from the table before. -/
structure Requested (table : SymbolTable) (requests : List LabelRequest) (after : SymbolTable) :
    Prop where
  wellFormed : after.WellFormed
  symbolsAt_eq : ∀ address, after.symbolsAt address =
    LabelRequest.labelsAfter (table.symbolsAt address)
      (LabelRequest.addedAt table requests address)
  entries : ∀ address, after.isEntryPoint address = true ↔
    table.isEntryPoint address = true ∨
      ∃ request ∈ LabelRequest.added table requests,
        request.isEntry = true ∧ request.address = address

section Requests

open LabelRequest

variable {table after : SymbolTable} {requests : List LabelRequest} {request : LabelRequest}

theorem Listed.names_eq (listed : Listed table requests after) (address : Address) :
    (after.symbolsAt address).map Symbol.name = (table.symbolsAt address).map Symbol.name ++
      (addedAt table requests address).map LabelRequest.name := by
  have names := congrArg (List.map Symbol.name) (listed.demoted_eq address)
  simpa [Function.comp_def, Symbol.demoted, label] using names

/-- The names at the address of a request, after others, are those of the table and those that the
others add. -/
theorem Listed.free_iff (listed : Listed table requests after) :
    (∀ other ∈ after.symbolsAt request.address, other.name ≠ request.name) ↔
      request.name ∉ (table.symbolsAt request.address).map Symbol.name ++
        (addedAt table requests request.address).map LabelRequest.name := by
  rw [← listed.names_eq, List.mem_map]
  simp

/-- After requests, the next one is carried out exactly if it adds a label. -/
theorem Listed.adds_iff (listed : Listed table requests after) :
    request.Adds table requests ↔ after.HasRoomFor request.address request.name := by
  rw [SymbolTable.HasRoomFor, listed.free_iff, Adds]
  refine and_congr_right fun valid => ?_
  constructor
  · rintro ⟨free, unasked⟩ taken
    rcases List.mem_append.mp taken with inTable | isAdded
    · obtain ⟨other, member, same⟩ := List.mem_map.mp inTable
      exact free other member same
    · obtain ⟨other, atAddress, sameName⟩ := List.mem_map.mp isAdded
      obtain ⟨member, sameAddress⟩ := List.mem_filter.mp atAddress
      exact unasked other (mem_of_mem_addedAfter member) ⟨of_decide_eq_true sameAddress, sameName⟩
  · intro isNew
    rw [List.mem_append, not_or] at isNew
    have free : ∀ other ∈ table.symbolsAt request.address, other.name ≠ request.name :=
      fun other member same => isNew.1 (List.mem_map.mpr ⟨other, member, same⟩)
    refine ⟨free, fun other asked same => isNew.2 ?_⟩
    obtain ⟨first, member, sameFirst⟩ : ∃ first ∈ added table requests, first.Same other :=
      exists_added_of_asked (same.2 ▸ valid) (by rwa [same.1, same.2]) nofun asked
    obtain ⟨sameAddress, sameName⟩ := sameFirst.trans same
    exact List.mem_map.mpr ⟨first, List.mem_filter.mpr ⟨member, by simp [sameAddress]⟩, sameName⟩

theorem demoted_labelsWith (request : LabelRequest) (present : List Symbol) :
    (request.labelsWith present).map Symbol.demoted =
      present.map Symbol.demoted ++ [request.label] := by
  unfold labelsWith labelsBehind
  split <;> simp [Function.comp_def, Symbol.demoted, label]

theorem Listed.step (listed : Listed table requests after) (request : LabelRequest) :
    Listed table (requests ++ [request]) (carryOut after request) := by
  by_cases adds : request.Adds table requests
  · have carried := carryOut_of_room listed.ordered (listed.adds_iff.mp adds)
    refine ⟨carried.ordered, fun address => ?_⟩
    rw [carried.symbolsAt_eq, addedAt_concat_of_adds adds]
    by_cases same : address = request.address
    · rw [if_pos same, if_pos same.symm, demoted_labelsWith, listed.demoted_eq]
      simp
    · rw [if_neg same, if_neg (Ne.symm same), List.append_nil, listed.demoted_eq]
  · rw [carryOut_of_no_room (mt listed.adds_iff.mpr adds)]
    refine ⟨listed.ordered, fun address => ?_⟩
    rw [listed.demoted_eq, addedAt_concat_of_not_adds adds]

/-- A run of requests adds to an ordered table the labels of the requests that add one. -/
theorem listed_of_requests (ordered : table.labels.Ordered) (requests : List LabelRequest) :
    Listed table requests (requests.foldl carryOut table) := by
  induction requests using List.reverseRecOn with
  | nil => exact ⟨ordered, fun address => by simp [addedAt, added, addedAfter]⟩
  | append_singleton requests request inductionHypothesis =>
      rw [List.foldl_append]
      exact inductionHypothesis.step request

theorem Requested.listed (requested : Requested table requests after) :
    Listed table requests after := by
  refine ⟨requested.wellFormed.ordered, fun address => ?_⟩
  rw [requested.symbolsAt_eq, labelsAfter, List.map_map, List.map_append, List.map_map]
  rfl

/-- One more request. -/
theorem Requested.step (wellFormed : table.WellFormed) (requested : Requested table requests after)
    (request : LabelRequest) :
    Requested table (requests ++ [request]) (carryOut after request) := by
  have listed := requested.listed
  by_cases adds : request.Adds table requests
  · have room := listed.adds_iff.mp adds
    have carried := carryOut_of_room listed.ordered room
    refine ⟨wellFormed_carryOut_of_room requested.wellFormed room, fun address => ?_,
      fun address => ?_⟩
    · rw [carried.symbolsAt_eq, requested.symbolsAt_eq, addedAt_concat_of_adds adds]
      by_cases same : address = request.address
      · subst same
        rw [if_pos rfl, if_pos rfl]
        exact labelsWith_labelsAfter wellFormed.sound_symbolsAt (listed.free_iff.mp room.2)
      · rw [if_neg same, if_neg (Ne.symm same), List.append_nil]
    · rw [carried.entries, requested.entries, added_concat, if_pos adds]
      simp [or_and_right, exists_or, or_assoc]
  · rw [carryOut_of_no_room (mt listed.adds_iff.mpr adds)]
    refine ⟨requested.wellFormed, fun address => ?_, fun address => ?_⟩
    · rw [requested.symbolsAt_eq, addedAt_concat_of_not_adds adds]
    · rw [requested.entries, added_concat, if_neg adds, List.append_nil]

/-- A run of requests does to a table what the requests that add a label say. -/
theorem requested_of_requests (wellFormed : table.WellFormed) (requests : List LabelRequest) :
    Requested table requests (requests.foldl carryOut table) := by
  induction requests using List.reverseRecOn with
  | nil =>
      refine ⟨wellFormed, fun address => ?_, fun address => by simp [added, addedAfter]⟩
      exact (labelsAfter_nil wellFormed.sound_symbolsAt).symm
  | append_singleton requests request inductionHypothesis =>
      rw [List.foldl_append]
      exact inductionHypothesis.step wellFormed request

end Requests

end Program

end ImageImport
