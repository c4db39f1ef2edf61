/-!
Contract: finite maps whose entries stand in the order of their keys.

An entry list in order is the whole state of a map, so that equal maps are equal as values.

Owns: look-up, replacement and insertion in place. `SortedMap.update` is the one operation that adds
a key, and it puts the key where the order wants it.
-/

namespace ImageImport

structure SortedMap (κ ν : Type) where
  entries : List (κ × ν)
deriving DecidableEq, Repr

namespace SortedMap

variable {κ ν : Type} [Ord κ]

def empty : SortedMap κ ν := ⟨[]⟩

def get? (map : SortedMap κ ν) (key : κ) : Option ν :=
  (map.entries.find? fun entry => compare entry.1 key == .eq).map Prod.snd

def contains (map : SortedMap κ ν) (key : κ) : Bool :=
  (map.get? key).isSome

def keys (map : SortedMap κ ν) : List κ := map.entries.map Prod.fst

def values (map : SortedMap κ ν) : List ν := map.entries.map Prod.snd

/-- The entries with the value of a key replaced by what `change` makes of it, or of nothing. -/
def updateEntries (key : κ) (change : Option ν → ν) : List (κ × ν) → List (κ × ν)
  | [] => [(key, change none)]
  | entry :: rest =>
      match compare key entry.1 with
      | .lt => (key, change none) :: entry :: rest
      | .eq => (entry.1, change (some entry.2)) :: rest
      | .gt => entry :: updateEntries key change rest

/-- The map with the value of a key replaced by what `change` makes of it, or of nothing. -/
def update (map : SortedMap κ ν) (key : κ) (change : Option ν → ν) : SortedMap κ ν :=
  ⟨updateEntries key change map.entries⟩

def insert (map : SortedMap κ ν) (key : κ) (value : ν) : SortedMap κ ν :=
  map.update key fun _ => value

def ofList (entries : List (κ × ν)) : SortedMap κ ν :=
  entries.foldl (fun map entry => map.insert entry.1 entry.2) empty

section Lookups

variable [Std.LawfulEqOrd κ] [DecidableEq κ]

theorem find?_updateEntries (key other : κ) (value : ν) (entries : List (κ × ν)) :
    ((updateEntries key (fun _ => value) entries).find? fun entry =>
        compare entry.1 other == .eq).map Prod.snd =
      if other = key then some value
      else (entries.find? fun entry => compare entry.1 other == .eq).map Prod.snd := by
  induction entries with
  | nil =>
      by_cases same : other = key
      · subst same
        simp [updateEntries]
      · simp [updateEntries, same, Ne.symm same]
  | cons entry rest inductionHypothesis =>
      unfold updateEntries
      cases order : compare key entry.1 with
      | lt =>
          by_cases same : other = key
          · subst same
            simp
          · simp [same, Ne.symm same]
      | eq =>
          rw [Std.LawfulEqOrd.compare_eq_iff_eq] at order
          subst order
          by_cases same : other = entry.1
          · subst same
            simp
          · simp [same, Ne.symm same]
      | gt =>
          have different : entry.1 ≠ key := by
            rintro rfl
            simp at order
          by_cases found : entry.1 = other
          · subst found
            simp [different]
          · have missed : (compare entry.1 other == .eq) = false := by simp [found]
            simp only [List.find?_cons, missed]
            exact inductionHypothesis

/-- An insertion is seen under its own key only. -/
theorem get?_insert (map : SortedMap κ ν) (key other : κ) (value : ν) :
    (map.insert key value).get? other = if other = key then some value else map.get? other :=
  find?_updateEntries key other value map.entries

end Lookups

theorem contains_iff_mem_keys [Std.LawfulEqOrd κ] (map : SortedMap κ ν) (key : κ) :
    map.contains key = true ↔ key ∈ map.keys := by
  simp [contains, get?, keys, List.find?_isSome]

/-- The keys of the map stand in strictly increasing order. -/
def Ordered (map : SortedMap κ ν) : Prop :=
  map.entries.Pairwise fun left right => compare left.1 right.1 = .lt

end SortedMap

end ImageImport
