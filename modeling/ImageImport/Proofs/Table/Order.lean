import Mathlib.Data.List.Induction
import Mathlib.Data.List.Nodup
import Mathlib.Data.List.Perm.Basic
import Mathlib.Logic.Function.Basic
import ImageImport.Address
import ImageImport.SortedMap

/-!
Contract: maps that stand in the order of their keys, and the order of addresses.

`SortedMap.update` walks along the entries and stops at the first key that is not smaller. In an
ordered map that is the only place where the key can be, so the map stays ordered, what is found
under the key is what the change made of what was found before, and nothing else is touched.

Owns: `SortedMap.Ordered` along updates, look-ups beside entries, and the order of addresses as a
total order that tells all addresses apart.
Does not own: what is kept in the maps.
-/

namespace ImageImport

/-! ## Addresses -/

namespace Address

theorem compareSegments_eq (left right : Option UInt16) :
    compareSegments left right =
      Ord.compare (left.map UInt16.toNat) (right.map UInt16.toNat) := by
  cases left <;> cases right <;> rfl

/-- Addresses are compared part by part. -/
theorem compare_eq_compareLex :
    compare = compareLex (compareOn Address.space) (compareLex
      (compareOn fun address : Address => address.kind.rank) (compareLex
      (compareOn fun address : Address => address.offset.toNat) (compareLex
      (compareOn fun address : Address => address.bits.toNat)
      (compareOn fun address : Address => address.segment.map UInt16.toNat)))) := by
  funext left right
  simp only [compare, compareSegments_eq, compareLex, compareOn]

instance : Std.TransOrd Address := by
  show Std.TransCmp compare
  rw [compare_eq_compareLex]
  infer_instance

theorem rank_injective : Function.Injective SpaceKind.rank := by
  intro left right same
  cases left <;> cases right <;> first | rfl | contradiction

/-- Addresses that no part tells apart are the same. -/
theorem eq_of_compare_eq {left right : Address} (same : left.compare right = .eq) :
    left = right := by
  simp only [compare, compareSegments_eq, Ordering.then_eq_eq,
    Std.LawfulEqCmp.compare_eq_iff_eq] at same
  obtain ⟨space, kind, offset, bits, segment⟩ := same
  cases left
  cases right
  simp only [mk.injEq]
  refine ⟨space, rank_injective kind, UInt64.toNat_inj.mp offset, UInt8.toNat_inj.mp bits, ?_⟩
  exact Option.map_injective (fun _ _ => UInt16.toNat_inj.mp) segment

instance : Std.LawfulEqOrd Address where
  eq_of_compare := eq_of_compare_eq

end Address

/-! ## Ordered maps -/

namespace SortedMap

variable {κ ν : Type} [Ord κ] {map : SortedMap κ ν} {key other : κ} {value : ν}
  {change : Option ν → ν}

/-- The order of the keys, as `Ordered` asks for it, on bare entries. -/
def Increasing (entries : List (κ × ν)) : Prop :=
  entries.Pairwise fun left right => compare left.1 right.1 = .lt

theorem ordered_empty : (empty : SortedMap κ ν).Ordered := List.Pairwise.nil

theorem Ordered.keys_increasing (ordered : map.Ordered) :
    map.keys.Pairwise fun left right => compare left right = .lt :=
  List.pairwise_map.mpr ordered

section Equality

variable [Std.LawfulEqOrd κ]

/-- A key that is not there yet is put in somewhere, and the other entries stay. -/
theorem perm_updateEntries {entries : List (κ × ν)} (absent : ∀ entry ∈ entries, entry.1 ≠ key) :
    (updateEntries key change entries).Perm ((key, change none) :: entries) := by
  induction entries with
  | nil => exact .refl _
  | cons entry rest inductionHypothesis =>
      have different := absent entry List.mem_cons_self
      unfold updateEntries
      cases order : compare key entry.1 with
      | lt => exact .refl _
      | eq => exact absurd (Std.LawfulEqOrd.eq_of_compare order).symm different
      | gt =>
          have below := inductionHypothesis fun later member =>
            absent later (List.mem_cons_of_mem _ member)
          exact (below.cons entry).trans (.swap _ _ _)

theorem get?_eq_none_iff : map.get? key = none ↔ ∀ entry ∈ map.entries, entry.1 ≠ key := by
  simp [get?]

theorem mem_entries_of_get? (found : map.get? key = some value) :
    (key, value) ∈ map.entries := by
  obtain ⟨entry, first, rfl⟩ := Option.map_eq_some_iff.mp found
  have sameKey : entry.1 = key := by simpa using List.find?_some first
  rw [← sameKey]
  exact List.mem_of_find?_eq_some first

/-- Of the values that a list has for a key, the last one counts. -/
theorem get?_ofList [DecidableEq κ] (entries : List (κ × ν)) (key : κ) :
    (ofList entries).get? key = entries.reverse.lookup key := by
  induction entries using List.reverseRecOn with
  | nil => rfl
  | append_singleton entries entry inductionHypothesis =>
      obtain ⟨other, value⟩ := entry
      have inserted : ofList (entries ++ [(other, value)]) = (ofList entries).insert other value :=
        List.foldl_concat ..
      rw [inserted, get?_insert, inductionHypothesis, List.reverse_concat, List.lookup_cons]
      by_cases same : key = other
      · simp [same]
      · simp [same, beq_false_of_ne same]

theorem keys_insert_perm (absent : map.get? key = none) :
    (map.insert key value).keys.Perm (key :: map.keys) :=
  (perm_updateEntries (get?_eq_none_iff.mp absent)).map Prod.fst

theorem values_insert_perm (absent : map.get? key = none) :
    (map.insert key value).values.Perm (value :: map.values) :=
  (perm_updateEntries (get?_eq_none_iff.mp absent)).map Prod.snd

/-- No entry that comes from an update has a key other than those before and the one updated. -/
theorem mem_updateEntries_cases {entries : List (κ × ν)} {entry : κ × ν}
    (member : entry ∈ updateEntries key change entries) : entry.1 = key ∨ entry ∈ entries := by
  induction entries with
  | nil => exact .inl (by rw [List.mem_singleton.mp member])
  | cons first rest inductionHypothesis =>
      unfold updateEntries at member
      cases order : compare key first.1 with
      | lt =>
          rw [order] at member
          rcases List.mem_cons.mp member with rfl | before
          · exact .inl rfl
          · exact .inr before
      | eq =>
          rw [order] at member
          rcases List.mem_cons.mp member with rfl | before
          · exact .inl (Std.LawfulEqOrd.eq_of_compare order).symm
          · exact .inr (List.mem_cons_of_mem _ before)
      | gt =>
          rw [order] at member
          rcases List.mem_cons.mp member with rfl | later
          · exact .inr List.mem_cons_self
          · exact (inductionHypothesis later).imp_right (List.mem_cons_of_mem _)

theorem Ordered.keys_nodup (ordered : map.Ordered) : map.keys.Nodup := by
  refine ordered.keys_increasing.imp fun {left right} less same => ?_
  rw [same, Std.ReflOrd.compare_self] at less
  contradiction

/-- In an ordered map every entry is found under its key. -/
theorem Ordered.get?_of_mem (ordered : map.Ordered) (member : (key, value) ∈ map.entries) :
    map.get? key = some value := by
  cases found : map.get? key with
  | none => exact absurd rfl (get?_eq_none_iff.mp found _ member)
  | some first =>
      have paired := List.inj_on_of_nodup_map ordered.keys_nodup (mem_entries_of_get? found) member
      rw [(Prod.mk.inj (paired rfl)).2]

/-- A second update of a key sees what the first has left there. -/
theorem update_update (map : SortedMap κ ν) (key : κ) (first second : Option ν → ν) :
    (map.update key first).update key second =
      map.update key fun present => second (some (first present)) := by
  have onEntries (entries : List (κ × ν)) :
      updateEntries key second (updateEntries key first entries) =
        updateEntries key (fun present => second (some (first present))) entries := by
    induction entries with
    | nil => simp [updateEntries]
    | cons entry rest inductionHypothesis =>
        cases order : compare key entry.1 with
        | lt => simp [updateEntries, order]
        | eq => simp [updateEntries, order]
        | gt => simp [updateEntries, order, inductionHypothesis]
  exact congrArg SortedMap.mk (onEntries map.entries)

end Equality

/-- A key behind all others is put in last. -/
theorem updateEntries_of_last [Std.OrientedOrd κ] {entries : List (κ × ν)}
    (behind : ∀ entry ∈ entries, compare entry.1 key = .lt) :
    updateEntries key change entries = entries ++ [(key, change none)] := by
  induction entries with
  | nil => rfl
  | cons first rest inductionHypothesis =>
      have order : compare key first.1 = .gt :=
        Std.OrientedCmp.gt_of_lt (behind first List.mem_cons_self)
      rw [updateEntries, order, inductionHypothesis fun later member =>
        behind later (List.mem_cons_of_mem _ member)]
      rfl

/-- An ordered map is made again from its entries. -/
theorem Ordered.ofList_entries [Std.OrientedOrd κ] (ordered : map.Ordered) : ofList map.entries = map := by
  have onto (made rest : List (κ × ν)) (increasing : Increasing (made ++ rest)) :
      rest.foldl (fun map entry => map.insert entry.1 entry.2) (mk made) = mk (made ++ rest) := by
    induction rest generalizing made with
    | nil => rw [List.append_nil, List.foldl_nil]
    | cons entry rest inductionHypothesis =>
        have behind : ∀ other ∈ made, compare other.1 entry.1 = .lt := fun other member =>
          (List.pairwise_append.mp increasing).2.2 other member entry List.mem_cons_self
        have inserted : insert (mk made) entry.1 entry.2 = mk (made ++ [entry]) :=
          congrArg mk (updateEntries_of_last behind)
        rw [List.append_cons] at increasing ⊢
        rw [List.foldl_cons, inserted, inductionHypothesis _ increasing]
  exact onto [] map.entries ordered

section Order

variable [Std.TransOrd κ] [Std.LawfulEqOrd κ]

theorem increasing_updateEntries {entries : List (κ × ν)} (increasing : Increasing entries) :
    Increasing (updateEntries key change entries) := by
  induction entries with
  | nil => exact List.pairwise_singleton _ _
  | cons first rest inductionHypothesis =>
      obtain ⟨below, restIncreasing⟩ := List.pairwise_cons.mp increasing
      unfold updateEntries
      cases order : compare key first.1 with
      | lt =>
          refine List.pairwise_cons.mpr ⟨fun entry member => ?_, increasing⟩
          rcases List.mem_cons.mp member with rfl | later
          · exact order
          · exact Std.TransCmp.lt_trans order (below entry later)
      | eq => exact List.pairwise_cons.mpr ⟨below, restIncreasing⟩
      | gt =>
          refine List.pairwise_cons.mpr ⟨fun entry member => ?_, inductionHypothesis restIncreasing⟩
          rcases mem_updateEntries_cases member with rfl | later
          · exact Std.OrientedCmp.gt_iff_lt.mp order
          · exact below entry later

theorem Ordered.update (ordered : map.Ordered) (key : κ) (change : Option ν → ν) :
    (map.update key change).Ordered :=
  increasing_updateEntries ordered

theorem absent_of_lt {first : κ × ν} {rest : List (κ × ν)}
    (increasing : Increasing (first :: rest)) (less : compare key first.1 = .lt) :
    ∀ entry ∈ first :: rest, entry.1 ≠ key := by
  rintro entry member rfl
  rcases List.mem_cons.mp member with rfl | later
  · rw [Std.ReflOrd.compare_self] at less
    contradiction
  · have before := (List.pairwise_cons.mp increasing).1 entry later
    rw [Std.OrientedCmp.gt_of_lt before] at less
    contradiction

/-- An update is seen under its own key only, and there as the change of what was there. -/
theorem Ordered.get?_update [DecidableEq κ] (ordered : map.Ordered) (key : κ)
    (change : Option ν → ν) (other : κ) :
    (map.update key change).get? other =
      if other = key then some (change (map.get? key)) else map.get? other := by
  have onEntries (entries : List (κ × ν)) (increasing : Increasing entries) :
      get? ⟨updateEntries key change entries⟩ other =
        if other = key then some (change (get? ⟨entries⟩ key)) else get? ⟨entries⟩ other := by
    induction entries with
    | nil =>
        by_cases same : other = key
        · simp [updateEntries, get?, same]
        · simp [updateEntries, get?, same, Ne.symm same]
    | cons first rest inductionHypothesis =>
        have below := inductionHypothesis (List.pairwise_cons.mp increasing).2
        unfold updateEntries
        cases order : compare key first.1 with
        | lt =>
            have missing : get? ⟨first :: rest⟩ key = none :=
              get?_eq_none_iff.mpr (absent_of_lt increasing order)
            by_cases same : other = key
            · subst same
              rw [if_pos rfl, missing]
              simp [get?]
            · rw [if_neg same]
              simp [get?, Ne.symm same]
        | eq =>
            obtain rfl := Std.LawfulEqOrd.eq_of_compare order
            by_cases same : other = first.1
            · subst same
              simp [get?]
            · simp [get?, same, Ne.symm same]
        | gt =>
            have different : first.1 ≠ key := by
              rintro rfl
              rw [Std.ReflOrd.compare_self] at order
              contradiction
            by_cases found : first.1 = other
            · subst found
              simp [get?, different]
            · have passed : (compare first.1 other == .eq) = false := by simp [found]
              have passedKey : (compare first.1 key == .eq) = false := by simp [different]
              simp only [get?, List.find?_cons, passed, passedKey] at below ⊢
              exact below
  exact onEntries map.entries ordered

/-- In an ordered map an update puts in what the change makes of the value that is found. -/
theorem Ordered.update_eq_insert (ordered : map.Ordered) (key : κ) (change : Option ν → ν) :
    map.update key change = map.insert key (change (map.get? key)) := by
  have onEntries (entries : List (κ × ν)) (increasing : Increasing entries) :
      updateEntries key change entries =
        updateEntries key (fun _ => change (get? ⟨entries⟩ key)) entries := by
    induction entries with
    | nil => rfl
    | cons first rest inductionHypothesis =>
        have below := inductionHypothesis (List.pairwise_cons.mp increasing).2
        cases order : compare key first.1 with
        | lt =>
            have missing : get? ⟨first :: rest⟩ key = none :=
              get?_eq_none_iff.mpr (absent_of_lt increasing order)
            simp only [updateEntries, order, missing]
        | eq =>
            obtain rfl := Std.LawfulEqOrd.eq_of_compare order
            simp [updateEntries, get?]
        | gt =>
            have passed : (compare first.1 key == .eq) = false := by
              rw [Std.OrientedCmp.gt_iff_lt.mp order]
              rfl
            have foundLater : get? ⟨first :: rest⟩ key = get? ⟨rest⟩ key := by
              simp only [get?, List.find?_cons, passed]
            simp only [updateEntries, order, foundLater]
            rw [below]
  exact congrArg SortedMap.mk (onEntries map.entries ordered)

/-- An update that changes nothing under a key that is there changes nothing at all. -/
theorem Ordered.update_eq_self (ordered : map.Ordered) (found : map.get? key = some value)
    (unchanged : change (some value) = value) : map.update key change = map := by
  have onEntries (entries : List (κ × ν)) (increasing : Increasing entries)
      (member : (key, value) ∈ entries) : updateEntries key change entries = entries := by
    induction entries with
    | nil => contradiction
    | cons first rest inductionHypothesis =>
        unfold updateEntries
        cases order : compare key first.1 with
        | lt => exact absurd rfl (absent_of_lt increasing order _ member)
        | eq =>
            have firstIs : first = (key, value) := by
              have same := Std.LawfulEqOrd.eq_of_compare order
              have nodup := (show Ordered ⟨first :: rest⟩ from increasing).keys_nodup
              exact List.inj_on_of_nodup_map nodup List.mem_cons_self member same.symm
            rw [firstIs, unchanged]
        | gt =>
            have later : (key, value) ∈ rest := by
              rcases List.mem_cons.mp member with rfl | later
              · rw [Std.ReflOrd.compare_self] at order
                contradiction
              · exact later
            rw [inductionHypothesis (List.pairwise_cons.mp increasing).2 later]
  have same := onEntries map.entries ordered (mem_entries_of_get? found)
  exact congrArg SortedMap.mk same

end Order

/-! ## Maps of changed values -/

section Values

variable {μ : Type} {f : ν → μ}

/-- The map with every value changed alike. -/
def mapValues (f : ν → μ) (map : SortedMap κ ν) : SortedMap κ μ :=
  ⟨map.entries.map fun entry => (entry.1, f entry.2)⟩

theorem get?_mapValues (map : SortedMap κ ν) (key : κ) :
    (map.mapValues f).get? key = (map.get? key).map f := by
  simp only [get?, mapValues, List.find?_map, Option.map_map]
  rfl

theorem mapValues_insert (map : SortedMap κ ν) (key : κ) (value : ν) :
    (map.insert key value).mapValues f = (map.mapValues f).insert key (f value) := by
  have onEntries (entries : List (κ × ν)) :
      (updateEntries key (fun _ => value) entries).map (fun entry => (entry.1, f entry.2)) =
        updateEntries key (fun _ => f value)
          (entries.map fun entry => (entry.1, f entry.2)) := by
    induction entries with
    | nil => rfl
    | cons first rest inductionHypothesis =>
        rw [List.map_cons, updateEntries, updateEntries]
        cases order : compare key first.1 with
        | lt => rfl
        | eq => rfl
        | gt => exact congrArg _ inductionHypothesis
  exact congrArg SortedMap.mk (onEntries map.entries)

theorem Ordered.mapValues (ordered : map.Ordered) : (map.mapValues f).Ordered :=
  List.pairwise_map.mpr ordered

end Values

end SortedMap

end ImageImport
