import ImageImport.Attempt
import ImageImport.Symbol
import ImageImport.Proofs.Table.Order
import Mathlib.Data.List.Count

/-!
Contract: the symbol table after any calls, accepted or refused.

At a labelled address one label is primary, and two calls move that mark: the creation of a first
label, and `setPrimary`. Both look at the names that are there, and names at one address are all
different, so that the mark is never lost and never given twice. Nothing is ever taken away: apart
from the two marks, the labels of an address are the creations that succeeded there, in their order.

A creation may also begin with an empty list at its address, before it looks for the name. That list
never stays empty, because a name can only be taken where there are labels already.

Owns: `SymbolTable.WellFormed`, its preservation, and what a history of calls leaves in the table.
Does not own: labels that are decoded, and the marks that a load gives.
-/

namespace ImageImport

/-- The label without the two marks that may change. -/
def Symbol.unmarked (symbol : Symbol) : Symbol :=
  { symbol with isPrimary := false, isPinned := false }

namespace SymbolTable

variable {table : SymbolTable} {address : Address} {name : String} {source : NameSource}
  {labels : List Symbol} {symbol : Symbol}

/-! ## The labels of one address -/

/-- What the labels of an address have to be. -/
structure SoundAt (address : Address) (labels : List Symbol) : Prop where
  nonempty : labels ≠ []
  address_eq : ∀ symbol ∈ labels, symbol.address = address
  valid : ∀ symbol ∈ labels, Symbol.validateName symbol.name = .ok ()
  names_nodup : (labels.map Symbol.name).Nodup
  one_primary : labels.countP Symbol.isPrimary = 1

/-- A label under a new name may come behind the others; a lone one has to be primary. -/
theorem soundAt_concat (before : labels ≠ [] → SoundAt address labels)
    (address_eq : symbol.address = address) (valid : Symbol.validateName symbol.name = .ok ())
    (isNew : ∀ other ∈ labels, other.name ≠ symbol.name)
    (mark : symbol.isPrimary = labels.isEmpty) : SoundAt address (labels ++ [symbol]) := by
  by_cases lone : labels = []
  · subst lone
    have isPrimary : symbol.isPrimary = true := mark
    exact ⟨by simp, by simp [address_eq], by simp [valid], by simp, by simp [isPrimary]⟩
  · obtain ⟨nonempty, addresses, names, nodup, primary⟩ := before lone
    have notPrimary : symbol.isPrimary = false := by rw [mark, List.isEmpty_eq_false_iff.mpr lone]
    refine ⟨by simp, ?_, ?_, ?_, ?_⟩
    · intro other member
      rcases List.mem_append.mp member with earlier | last
      · exact addresses other earlier
      · rw [List.mem_singleton.mp last, address_eq]
    · intro other member
      rcases List.mem_append.mp member with earlier | last
      · exact names other earlier
      · rw [List.mem_singleton.mp last, valid]
    · rw [List.map_append, List.map_singleton, List.nodup_append]
      refine ⟨nodup, List.nodup_singleton _, ?_⟩
      intro taken member fresh isFresh
      obtain ⟨other, earlier, rfl⟩ := List.mem_map.mp member
      rw [List.mem_singleton.mp isFresh]
      exact isNew other earlier
    · rw [List.countP_append, primary, List.countP_singleton, notPrimary]
      rfl

/-- Changes of marks leave everything sound but the count of primary labels. -/
theorem SoundAt.map (sound : SoundAt address labels) {change : Symbol → Symbol}
    (name_eq : ∀ symbol, (change symbol).name = symbol.name)
    (address_eq : ∀ symbol, (change symbol).address = symbol.address)
    (one_primary : (labels.map change).countP Symbol.isPrimary = 1) :
    SoundAt address (labels.map change) := by
  refine ⟨by simpa using sound.nonempty, ?_, ?_, ?_, one_primary⟩
  · intro changed member
    obtain ⟨symbol, before, rfl⟩ := List.mem_map.mp member
    rw [address_eq, sound.address_eq symbol before]
  · intro changed member
    obtain ⟨symbol, before, rfl⟩ := List.mem_map.mp member
    rw [name_eq, sound.valid symbol before]
  · have sameNames : (labels.map change).map Symbol.name = labels.map Symbol.name := by
      rw [List.map_map]
      exact List.map_congr_left fun symbol _ => name_eq symbol
    rw [sameNames]
    exact sound.names_nodup

/-- Only one label has the name that is made primary. -/
theorem SoundAt.setPrimary (sound : SoundAt address labels) (present : ∃ symbol ∈ labels,
    symbol.name = name) :
    SoundAt address (labels.map fun symbol => { symbol with isPrimary := symbol.name == name }) := by
  refine sound.map (fun _ => rfl) (fun _ => rfl) ?_
  have named : name ∈ labels.map Symbol.name := List.mem_map.mpr present
  calc (labels.map fun symbol => { symbol with isPrimary := symbol.name == name }).countP
          Symbol.isPrimary
      = (labels.map Symbol.name).count name := by
        rw [List.countP_map, List.count, List.countP_map]
        rfl
    _ = 1 := List.count_eq_one_of_mem sound.names_nodup named

theorem SoundAt.setPinned (sound : SoundAt address labels) (name : String) (pinned : Bool) :
    SoundAt address (labels.map fun symbol =>
      if symbol.name = name then { symbol with isPinned := pinned } else symbol) := by
  refine sound.map ?_ ?_ ?_
  · intro symbol
    split <;> rfl
  · intro symbol
    split <;> rfl
  · rw [List.countP_map, ← sound.one_primary]
    refine List.countP_congr fun symbol _ => ?_
    rw [Function.comp_apply]
    split <;> rfl

/-! ## The table -/

/-- What every call keeps. -/
structure WellFormed (table : SymbolTable) : Prop where
  ordered : table.labels.Ordered
  sound : ∀ {address labels}, table.labels.get? address = some labels → SoundAt address labels

theorem wellFormed_empty : WellFormed .empty :=
  ⟨SortedMap.ordered_empty, nofun⟩

theorem WellFormed.sound_symbolsAt (wellFormed : table.WellFormed)
    (labelled : table.symbolsAt address ≠ []) : SoundAt address (table.symbolsAt address) := by
  unfold symbolsAt at labelled ⊢
  cases found : table.labels.get? address with
  | none => simp [found] at labelled
  | some labels => exact wellFormed.sound found

/-- An update is seen at its own address only. -/
theorem symbolsAt_update (ordered : table.labels.Ordered) (address : Address)
    (change : Option (List Symbol) → List Symbol) (other : Address) :
    symbolsAt { table with labels := table.labels.update address change } other =
      if other = address then change (table.labels.get? address) else table.symbolsAt other := by
  unfold symbolsAt
  rw [ordered.get?_update]
  split <;> rfl

/-- Sound labels may be put in place of those at an address. -/
theorem WellFormed.update (wellFormed : table.WellFormed)
    {change : Option (List Symbol) → List Symbol}
    (sound : SoundAt address (change (table.labels.get? address))) :
    WellFormed { table with labels := table.labels.update address change } := by
  refine ⟨wellFormed.ordered.update _ _, fun {other labels} found => ?_⟩
  rw [wellFormed.ordered.get?_update] at found
  split at found
  · next same =>
      obtain rfl := Option.some.inj found
      rw [same]
      exact sound
  · exact wellFormed.sound found

theorem isSome_symbol?_iff :
    (table.symbol? address name).isSome = true ↔
      ∃ symbol ∈ table.symbolsAt address, symbol.name = name := by
  simp [symbol?, List.find?_isSome]

/-- A label is created exactly under a valid name that is not taken at its address. -/
theorem create_eq_ok_iff {created : Symbol × SymbolTable} :
    table.create address name source = .ok created ↔
      Symbol.validateName name = .ok () ∧
        (∀ other ∈ table.symbolsAt address, other.name ≠ name) ∧
        created = (table.newLabel address name source, { table with
          labels := table.labels.update address fun present =>
            present.getD [] ++ [table.newLabel address name source] }) := by
  unfold create
  cases validated : Symbol.validateName name with
  | error failure => exact iff_of_false nofun fun parts => nomatch parts.1
  | ok _ =>
      by_cases taken : (table.symbol? address name).isSome = true
      · rw [if_pos taken]
        obtain ⟨other, member, same⟩ := isSome_symbol?_iff.mp taken
        exact iff_of_false nofun fun parts => parts.2.1 other member same
      · rw [if_neg taken]
        have free : ∀ other ∈ table.symbolsAt address, other.name ≠ name :=
          fun other member same => taken (isSome_symbol?_iff.mpr ⟨other, member, same⟩)
        rw [Except.ok.injEq]
        exact ⟨fun same => ⟨rfl, free, same.symm⟩, fun parts => parts.2.2.symm⟩

/-! ## Labels put in place of others -/

/-- The table with these labels at an address, instead of those that are there. -/
def withLabels (table : SymbolTable) (address : Address) (labels : List Symbol) : SymbolTable :=
  { table with labels := table.labels.insert address labels }

theorem symbolsAt_withLabels (table : SymbolTable) (address : Address) (labels : List Symbol)
    (other : Address) : (table.withLabels address labels).symbolsAt other =
      if other = address then labels else table.symbolsAt other := by
  unfold withLabels symbolsAt
  rw [SortedMap.get?_insert]
  split <;> rfl

theorem mapAt_withLabels (table : SymbolTable) (address : Address) (labels : List Symbol)
    (change : Symbol → Symbol) : (table.withLabels address labels).mapAt address change =
      table.withLabels address (labels.map change) :=
  congrArg (fun map => { table with labels := map })
    (SortedMap.update_update table.labels address (fun _ => labels) _)

theorem setPrimary_withLabels (present : ∃ symbol ∈ labels, symbol.name = name) :
    ((table.withLabels address labels).setPrimary address name).2 = table.withLabels address
      (labels.map fun symbol => { symbol with isPrimary := symbol.name == name }) := by
  have isThere : ((table.withLabels address labels).symbol? address name).isSome = true := by
    rwa [isSome_symbol?_iff, symbolsAt_withLabels, if_pos rfl]
  rw [setPrimary, if_pos isThere, mapAt_withLabels]

theorem setPinned_withLabels (present : ∃ symbol ∈ labels, symbol.name = name) (pinned : Bool) :
    ((table.withLabels address labels).setPinned address name pinned).2 = table.withLabels address
      (labels.map fun symbol =>
        if symbol.name = name then { symbol with isPinned := pinned } else symbol) := by
  have isThere : ((table.withLabels address labels).symbol? address name).isSome = true := by
    rwa [isSome_symbol?_iff, symbolsAt_withLabels, if_pos rfl]
  rw [setPinned, if_pos isThere, mapAt_withLabels]

/-- In an ordered table a label under a valid name that is free comes behind those that are there. -/
theorem create_eq_withLabels (ordered : table.labels.Ordered)
    (valid : Symbol.validateName name = .ok ())
    (free : ∀ other ∈ table.symbolsAt address, other.name ≠ name) :
    table.create address name source = .ok (table.newLabel address name source,
      table.withLabels address
        (table.symbolsAt address ++ [table.newLabel address name source])) := by
  rw [create_eq_ok_iff.mpr ⟨valid, free, rfl⟩, ordered.update_eq_insert]
  rfl

theorem WellFormed.withLabels (wellFormed : table.WellFormed) (sound : SoundAt address labels) :
    (table.withLabels address labels).WellFormed :=
  wellFormed.update sound

/-! ## A list that is made first -/

/-- The creation of a label that first makes sure that there is a list at its address. What it has
made by then it leaves when it is refused. -/
def createInPlace (table : SymbolTable) (address : Address) (name : String)
    (source : NameSource) : Except Failure Symbol × SymbolTable :=
  match Symbol.validateName name with
  | .error failure => (.error failure, table)
  | .ok () =>
      let listed : SymbolTable :=
        { table with labels := table.labels.update address fun present => present.getD [] }
      if (listed.symbol? address name).isSome then
        (.error (.duplicateSymbol name address.text), listed)
      else
        let symbol := listed.newLabel address name source
        (.ok symbol, { listed with
          labels := listed.labels.update address fun present => present.getD [] ++ [symbol] })

/-- It comes to the same: where the name is taken, the list was there. -/
theorem WellFormed.createInPlace_eq (wellFormed : table.WellFormed) (address : Address)
    (name : String) (source : NameSource) :
    table.createInPlace address name source =
      (Attempt.ofUpdate fun table : SymbolTable => table.create address name source).apply table := by
  rw [Attempt.apply_ofUpdate]
  unfold createInPlace create
  cases Symbol.validateName name with
  | error failure => rfl
  | ok _ =>
      let listed : SymbolTable :=
        { table with labels := table.labels.update address fun present => present.getD [] }
      have sameLabels : listed.symbolsAt address = table.symbolsAt address := by
        rw [symbolsAt_update wellFormed.ordered, if_pos rfl, symbolsAt]
      have sameFound : listed.symbol? address name = table.symbol? address name := by
        rw [symbol?, sameLabels, symbol?]
      have sameLabel : listed.newLabel address name source =
          table.newLabel address name source := by
        rw [newLabel, sameLabels, newLabel]
      simp only [listed, sameFound, sameLabel]
      by_cases taken : (table.symbol? address name).isSome = true
      · rw [if_pos taken, if_pos taken]
        obtain ⟨labels, found⟩ : ∃ labels, table.labels.get? address = some labels := by
          obtain ⟨symbol, member, -⟩ := isSome_symbol?_iff.mp taken
          cases found : table.labels.get? address with
          | none => simp [symbolsAt, found] at member
          | some labels => exact ⟨labels, rfl⟩
        rw [wellFormed.ordered.update_eq_self found rfl]
      · rw [if_neg taken, if_neg taken, SortedMap.update_update]
        rfl

/-! ## Calls one after another -/

/-- One call on a table. Who creates a label may pin the label that is handed out, or let it go. -/
inductive Call where
  | create (address : Address) (name : String) (source : NameSource) (pinned : Option Bool)
  | setPrimary (address : Address) (name : String)
  | setPinned (address : Address) (name : String) (pinned : Bool)
  | addEntryPoint (address : Address)

/-- Whether the call is accepted, and the table after it. -/
def Call.perform : Call → SymbolTable → Bool × SymbolTable
  | .create address name source pinned, table =>
      match table.create address name source with
      | .error _ => (false, table)
      | .ok (_, created) =>
          (true, pinned.elim created fun mark => (created.setPinned address name mark).2)
  | .setPrimary address name, table => table.setPrimary address name
  | .setPinned address name pinned, table => table.setPinned address name pinned
  | .addEntryPoint address, table => (true, table.addEntryPoint address)

/-- Calls one after another, whatever becomes of each. -/
def performAll : List Call → SymbolTable → List (Call × Bool) × SymbolTable
  | [], table => ([], table)
  | call :: rest, table =>
      let (accepted, next) := call.perform table
      let (history, last) := performAll rest next
      ((call, accepted) :: history, last)

/-- The label that a call has created, without marks. -/
def createdBy? : Call × Bool → Option Symbol
  | (.create address name source _, true) =>
      some ⟨name, address, Symbol.globalScope, source, false, false⟩
  | _ => none

def created (history : List (Call × Bool)) : List Symbol := history.filterMap createdBy?

/-- The labels that a history has created at one address, in their order. -/
def createdAt (address : Address) (history : List (Call × Bool)) : List Symbol :=
  (created history).filter fun symbol => symbol.address = address

/-- The addresses that a history has made external entry points. -/
def entered (history : List (Call × Bool)) : List Address :=
  history.filterMap fun
    | (.addEntryPoint address, _) => some address
    | _ => none

/-- A well-formed table, and in it what was there before with what a history adds to it. -/
structure Grown (table : SymbolTable) (history : List (Call × Bool)) (next : SymbolTable) :
    Prop where
  wellFormed : next.WellFormed
  labels : ∀ address, (next.symbolsAt address).map Symbol.unmarked =
    (table.symbolsAt address).map Symbol.unmarked ++ createdAt address history
  entries : ∀ address, next.isEntryPoint address = true ↔
    table.isEntryPoint address = true ∨ address ∈ entered history

theorem Grown.refl (wellFormed : table.WellFormed) : Grown table [] table :=
  ⟨wellFormed, by simp [createdAt, created], by simp [entered]⟩

theorem Grown.trans {middle next : SymbolTable} {earlier later : List (Call × Bool)}
    (first : Grown table earlier middle) (second : Grown middle later next) :
    Grown table (earlier ++ later) next := by
  refine ⟨second.wellFormed, fun address => ?_, fun address => ?_⟩
  · rw [second.labels, first.labels, List.append_assoc]
    simp [createdAt, created]
  · rw [second.entries, first.entries, or_assoc]
    simp [entered]

/-- A change of marks at an address adds nothing. -/
theorem WellFormed.grown_mapAt (wellFormed : table.WellFormed) {change : Symbol → Symbol}
    (sound : SoundAt address ((table.symbolsAt address).map change))
    (unmarked_eq : ∀ symbol, (change symbol).unmarked = symbol.unmarked) :
    Grown table [] (table.mapAt address change) := by
  refine ⟨wellFormed.update sound, fun other => ?_, by simp [entered, mapAt, isEntryPoint]⟩
  rw [mapAt, symbolsAt_update wellFormed.ordered]
  by_cases same : other = address
  · rw [if_pos same, same]
    have sameUnmarked : ((table.symbolsAt address).map change).map Symbol.unmarked =
        (table.symbolsAt address).map Symbol.unmarked := by
      rw [List.map_map]
      exact List.map_congr_left fun symbol _ => unmarked_eq symbol
    exact sameUnmarked.trans (List.append_nil _).symm
  · rw [if_neg same]
    simp [createdAt, created]

theorem WellFormed.grown_setPrimary (wellFormed : table.WellFormed) (address : Address)
    (name : String) : Grown table [] (table.setPrimary address name).2 := by
  unfold SymbolTable.setPrimary
  by_cases present : (table.symbol? address name).isSome = true
  · rw [if_pos present]
    obtain ⟨symbol, member, named⟩ := isSome_symbol?_iff.mp present
    have sound := wellFormed.sound_symbolsAt (List.ne_nil_of_mem member)
    exact wellFormed.grown_mapAt (sound.setPrimary ⟨symbol, member, named⟩) fun _ => rfl
  · rw [if_neg present]
    exact Grown.refl wellFormed

theorem WellFormed.grown_setPinned (wellFormed : table.WellFormed) (address : Address)
    (name : String) (pinned : Bool) : Grown table [] (table.setPinned address name pinned).2 := by
  unfold SymbolTable.setPinned
  by_cases present : (table.symbol? address name).isSome = true
  · rw [if_pos present]
    obtain ⟨symbol, member, -⟩ := isSome_symbol?_iff.mp present
    have sound := wellFormed.sound_symbolsAt (List.ne_nil_of_mem member)
    refine wellFormed.grown_mapAt (sound.setPinned name pinned) fun symbol => ?_
    split <;> rfl
  · rw [if_neg present]
    exact Grown.refl wellFormed

theorem WellFormed.grown_create (wellFormed : table.WellFormed) {created : Symbol × SymbolTable}
    (success : table.create address name source = .ok created) (pinned : Option Bool) :
    Grown table [(.create address name source pinned, true)] created.2 := by
  obtain ⟨valid, free, rfl⟩ := create_eq_ok_iff.mp success
  have sound : SoundAt address
      (table.symbolsAt address ++ [table.newLabel address name source]) :=
    soundAt_concat wellFormed.sound_symbolsAt rfl valid free rfl
  refine ⟨wellFormed.update sound, fun other => ?_, by simp [entered, isEntryPoint]⟩
  rw [symbolsAt_update wellFormed.ordered]
  by_cases same : other = address
  · subst same
    rw [if_pos rfl]
    show (table.symbolsAt other ++ [table.newLabel other name source]).map Symbol.unmarked = _
    simp [createdAt, SymbolTable.created, createdBy?, newLabel, Symbol.unmarked]
  · rw [if_neg same]
    simp [createdAt, SymbolTable.created, createdBy?, Ne.symm same]

theorem WellFormed.grown_addEntryPoint (wellFormed : table.WellFormed) (address : Address) :
    Grown table [(.addEntryPoint address, true)] (table.addEntryPoint address) := by
  refine ⟨⟨wellFormed.ordered, wellFormed.sound⟩, fun other => ?_, fun other => ?_⟩
  · simp [createdAt, created, createdBy?, addEntryPoint, symbolsAt]
  · simp only [addEntryPoint, isEntryPoint, SortedMap.contains, SortedMap.get?_insert, entered]
    by_cases same : other = address
    · simp [same]
    · simp [same]

/-- One call keeps the table well formed, and adds to it what it has created. -/
theorem WellFormed.perform (wellFormed : table.WellFormed) (call : Call) :
    Grown table [(call, (call.perform table).1)] (call.perform table).2 := by
  cases call with
  | create address name source pinned =>
      simp only [Call.perform]
      cases called : table.create address name source with
      | error failure =>
          have unchanged := Grown.refl wellFormed
          exact ⟨unchanged.wellFormed, unchanged.labels, unchanged.entries⟩
      | ok created =>
          have grown := wellFormed.grown_create called pinned
          cases pinned with
          | none => exact grown
          | some mark => exact grown.trans (grown.wellFormed.grown_setPinned address name mark)
  | setPrimary address name =>
      have grown := wellFormed.grown_setPrimary address name
      exact ⟨grown.wellFormed, grown.labels, grown.entries⟩
  | setPinned address name pinned =>
      have grown := wellFormed.grown_setPinned address name pinned
      exact ⟨grown.wellFormed, grown.labels, grown.entries⟩
  | addEntryPoint address => exact wellFormed.grown_addEntryPoint address

theorem WellFormed.performAll (wellFormed : table.WellFormed) (calls : List Call) :
    Grown table (performAll calls table).1 (performAll calls table).2 := by
  induction calls generalizing table with
  | nil => exact Grown.refl wellFormed
  | cons call rest inductionHypothesis =>
      have first := wellFormed.perform call
      exact first.trans (inductionHypothesis first.wellFormed)

/-! ## What a history leaves -/

/-- Items put together by their keys are the items whose keys were asked for. -/
theorem flatMap_filter_perm {α β : Type} [DecidableEq β] (key : α → β) (items : List α)
    {keys : List β} (nodup : keys.Nodup) :
    (keys.flatMap fun one => items.filter fun item => key item = one).Perm
      (items.filter fun item => key item ∈ keys) := by
  induction keys with
  | nil => simp
  | cons one others inductionHypothesis =>
      obtain ⟨absent, othersNodup⟩ := List.nodup_cons.mp nodup
      have ofOne : (items.filter fun item => key item ∈ one :: others).filter
          (fun item => key item = one) = items.filter fun item => key item = one := by
        rw [List.filter_filter]
        refine List.filter_congr fun item _ => ?_
        by_cases same : key item = one
        · simp [same]
        · simp [same]
      have ofOthers : (items.filter fun item => key item ∈ one :: others).filter
          (fun item => !decide (key item = one)) =
            items.filter fun item => key item ∈ others := by
        rw [List.filter_filter]
        refine List.filter_congr fun item _ => ?_
        by_cases same : key item = one
        · simp [same, absent]
        · simp [same]
      rw [List.flatMap_cons]
      refine ((inductionHypothesis othersNodup).append_left _).trans ?_
      rw [← ofOne, ← ofOthers]
      exact List.filter_append_perm _ _

/-- What the table of a history holds. -/
structure Holds (table : SymbolTable) (history : List (Call × Bool)) : Prop where
  /-- No list of labels is empty, and in each exactly one label is primary. -/
  sound : ∀ address labels, table.labels.get? address = some labels → SoundAt address labels
  /-- The labels of an address are the creations that succeeded there, in their order. -/
  createdAt_eq : ∀ address,
    (table.symbolsAt address).map Symbol.unmarked = createdAt address history
  addresses_increasing : table.labels.keys.Pairwise fun left right => compare left right = .lt
  /-- All labels, by increasing address, and those of an address in their order. -/
  toList_eq : table.toList = table.labels.keys.flatMap table.symbolsAt
  toList_perm : (table.toList.map Symbol.unmarked).Perm (created history)
  /-- The number of labels, and what the numbers at each address add up to. -/
  size_eq : table.size = table.toList.length ∧
    table.size = (table.labels.values.map List.length).foldr (· + ·) 0
  entries : ∀ address, table.isEntryPoint address = true ↔ address ∈ entered history

theorem WellFormed.toList_eq (wellFormed : table.WellFormed) :
    table.toList = table.labels.keys.flatMap table.symbolsAt := by
  rw [toList, SortedMap.values, SortedMap.keys, List.flatMap_map, ← List.flatMap_def]
  refine List.flatMap_congr fun entry member => ?_
  rw [symbolsAt, wellFormed.ordered.get?_of_mem member, Option.getD_some]

theorem Grown.holds {history : List (Call × Bool)} (grown : Grown .empty history table) :
    table.Holds history := by
  have createdAt_eq : ∀ address,
      (table.symbolsAt address).map Symbol.unmarked = createdAt address history := grown.labels
  have toList_eq := grown.wellFormed.toList_eq
  have created_at_key : ∀ symbol ∈ created history, symbol.address ∈ table.labels.keys := by
    intro symbol member
    have there : symbol ∈ createdAt symbol.address history :=
      List.mem_filter.mpr ⟨member, by simp⟩
    rw [← createdAt_eq] at there
    by_contra absent
    have missing : table.labels.get? symbol.address = none := by
      rw [← Option.not_isSome_iff_eq_none]
      exact mt (table.labels.contains_iff_mem_keys _).mp absent
    simp [symbolsAt, missing] at there
  refine ⟨fun _ _ => grown.wellFormed.sound, createdAt_eq,
    grown.wellFormed.ordered.keys_increasing, toList_eq, ?_, ⟨rfl, List.length_flatten⟩, ?_⟩
  · rw [toList_eq, List.map_flatMap]
    simp only [createdAt_eq]
    have perm := flatMap_filter_perm Symbol.address (created history)
      grown.wellFormed.ordered.keys_nodup
    rwa [List.filter_eq_self.mpr (by simpa using created_at_key)] at perm
  · intro address
    rw [grown.entries]
    simp [empty, isEntryPoint, SortedMap.contains, SortedMap.get?, SortedMap.empty]

/-- A call that is not accepted changes nothing. -/
theorem Call.perform_of_refused {call : Call} (refused : (call.perform table).1 = false) :
    (call.perform table).2 = table := by
  cases call with
  | create address name source pinned =>
      simp only [perform] at refused ⊢
      cases called : table.create address name source with
      | error failure => rfl
      | ok created =>
          rw [called] at refused
          contradiction
  | setPrimary address name =>
      simp only [perform, SymbolTable.setPrimary] at refused ⊢
      split
      · next present => simp [present] at refused
      · rfl
  | setPinned address name pinned =>
      simp only [perform, SymbolTable.setPinned] at refused ⊢
      split
      · next present => simp [present] at refused
      · rfl
  | addEntryPoint address => contradiction

theorem Call.create_accepted_iff {pinned : Option Bool} :
    ((Call.create address name source pinned).perform table).1 = true ↔
      Symbol.validateName name = .ok () ∧
        ∀ other ∈ table.symbolsAt address, other.name ≠ name := by
  simp only [perform]
  cases called : table.create address name source with
  | error failure =>
      refine iff_of_false nofun fun accepted => ?_
      have success := (@create_eq_ok_iff table address name source _).mpr
        ⟨accepted.1, accepted.2, rfl⟩
      rw [called] at success
      contradiction
  | ok created =>
      obtain ⟨valid, free, -⟩ := create_eq_ok_iff.mp called
      exact iff_of_true rfl ⟨valid, free⟩

/-- After any calls on an empty table: at each labelled address there are labels, stored under it,
with valid names that are all different, and exactly one of them is primary; they are the creations
that succeeded there. The next call takes no label and no entry point away, and changes nothing at
all if it is refused, as a creation is for its name alone; not even where the list of the address
is made before the name is looked for. -/
theorem labels_kept_by_calls (calls : List Call) :
    let history := (performAll calls .empty).1
    let table := (performAll calls .empty).2
    table.Holds history ∧
    (∀ call : Call,
      let done := call.perform table
      (done.1 = false → done.2 = table) ∧
      ∀ address,
        (table.symbolsAt address).map Symbol.unmarked <+:
            (done.2.symbolsAt address).map Symbol.unmarked ∧
          (table.isEntryPoint address = true → done.2.isEntryPoint address = true)) ∧
    ∀ address name source,
      (∀ pinned, ((Call.create address name source pinned).perform table).1 = true ↔
        Symbol.validateName name = .ok () ∧
          ∀ other ∈ table.symbolsAt address, other.name ≠ name) ∧
      let made := table.createInPlace address name source
      made = (Attempt.ofUpdate fun table : SymbolTable =>
        table.create address name source).apply table ∧
      ∀ failure, made.1 = .error failure → made.2 = table := by
  intro history table
  have grown : Grown .empty history table := wellFormed_empty.performAll calls
  have wellFormed := grown.wellFormed
  refine ⟨grown.holds, fun call => ⟨Call.perform_of_refused, fun address => ?_⟩,
    fun address name source => ⟨fun pinned => Call.create_accepted_iff, ?_⟩⟩
  · have next := wellFormed.perform call
    exact ⟨⟨_, (next.labels address).symm⟩, fun entry => (next.entries address).mpr (.inl entry)⟩
  · intro made
    have same := wellFormed.createInPlace_eq address name source
    refine ⟨same, fun failure refused => ?_⟩
    rw [Attempt.apply_ofUpdate] at same
    cases called : table.create address name source with
    | error _ => exact congrArg Prod.snd (same.trans (by rw [called]))
    | ok created =>
        rw [called] at same
        exact nomatch refused.symm.trans (congrArg Prod.fst same)

end SymbolTable

end ImageImport
