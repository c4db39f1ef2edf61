import Mathlib.Data.List.Nodup
import ImageImport.Json.Record

/-!
Contract: decoders that read back what an encoder writes.

An encoder writes the fields of a record under their names, each once; so the decoder finds every
field, and a record is read back if its fields are. A list is read back if its items are, and an
optional value if the value is and cannot be taken for null.

Owns: `Json.Inverts`, its closure under lists and optional values, and the fields of written records.
Does not own: the records.
-/

namespace ImageImport.Json

/-- What the encoder writes is read back, and it is never null. -/
structure Inverts {α : Type} (decode : Json → Option α) (encode : α → Json) : Prop where
  decode_encode : ∀ value, decode (encode value) = some value
  ne_null : ∀ value, encode value ≠ .null

/-- A list is read item by item, if every item is read. -/
theorem mapM_map_eq_some {α β γ : Type} {read : β → Option γ} {write : α → β} {value : α → γ}
    {items : List α} (each : ∀ item ∈ items, read (write item) = some (value item)) :
    (items.map write).mapM read = some (items.map value) := by
  induction items with
  | nil => rfl
  | cons item rest inductionHypothesis =>
      have later := inductionHypothesis fun other member =>
        each other (List.mem_cons_of_mem _ member)
      rw [List.map_cons, List.mapM_cons, each item List.mem_cons_self, later]
      rfl

section Closure

variable {α : Type} {decode : Json → Option α} {encode : α → Json}

theorem Inverts.list? (inverts : Inverts decode encode) (values : List α) :
    list? decode (.arr (values.map encode)) = some values := by
  have read : (values.map encode).mapM decode = some (values.map fun value => value) :=
    mapM_map_eq_some fun value _ => inverts.decode_encode value
  rwa [List.map_id'] at read

/-- A value that is not null is decoded where it may be null. -/
theorem optional_of_ne_null {value : Json} (notNull : value ≠ .null) :
    Slot.optional decode (.present value) = (decode value).map some ∧
      Slot.nullable decode (.present value) = (decode value).map some := by
  cases value <;> first | exact ⟨rfl, rfl⟩ | exact absurd rfl notNull

theorem Inverts.optional (inverts : Inverts decode encode) (value : Option α) :
    Slot.optional decode (.present (ofOption encode value)) = some value := by
  cases value with
  | none => rfl
  | some value =>
      rw [ofOption, (optional_of_ne_null (inverts.ne_null value)).1, inverts.decode_encode]
      rfl

theorem Inverts.nullable (inverts : Inverts decode encode) (value : Option α) :
    Slot.nullable decode (.present (ofOption encode value)) = some value := by
  cases value with
  | none => rfl
  | some value =>
      rw [ofOption, (optional_of_ne_null (inverts.ne_null value)).2, inverts.decode_encode]
      rfl

end Closure

/-! ## Values without parts -/

@[simp] theorem str?_str (text : String) : str? (.str text) = some text := rfl

@[simp] theorem bool?_bool (value : Bool) : bool? (.bool value) = some value := rfl

theorem natBelow?_ofNat {bound n : Nat} (below : n < bound) :
    natBelow? bound (.ofNat n) = some n := by
  have inBounds : (0 : Int) ≤ n ∧ (n : Int).toNat < bound := ⟨Int.natCast_nonneg n, below⟩
  rw [ofNat, natBelow?, if_pos inBounds, Int.toNat_natCast]

@[simp] theorem uint8?_toNat (n : UInt8) : uint8? (.ofNat n.toNat) = some n := by
  rw [uint8?, natBelow?_ofNat n.toNat_lt]
  exact congrArg some n.ofNat_toNat

@[simp] theorem uint16?_toNat (n : UInt16) : uint16? (.ofNat n.toNat) = some n := by
  rw [uint16?, natBelow?_ofNat n.toNat_lt]
  exact congrArg some n.ofNat_toNat

@[simp] theorem uint64?_toNat (n : UInt64) : uint64? (.ofNat n.toNat) = some n := by
  rw [uint64?, natBelow?_ofNat n.toNat_lt]
  exact congrArg some n.ofNat_toNat

theorem inverts_str : Inverts str? .str := ⟨str?_str, nofun⟩

theorem inverts_uint16 : Inverts uint16? fun n => .ofNat n.toNat := ⟨uint16?_toNat, nofun⟩

/-! ## Records -/

@[simp] theorem Slot.required_present {α : Type} (decode : Json → Option α) (value : Json) :
    required decode (.present value) = decode value := rfl

@[simp] theorem Slot.withDefault_present {α : Type} (fallback : α) (decode : Json → Option α)
    (value : Json) : withDefault fallback decode (.present value) = decode value := rfl

/-- A name that stands once in an object is found there. -/
theorem slotOf?_of_mem {members : List (String × Json)} (distinct : (members.map Prod.fst).Nodup)
    {member : String × Json} (isMember : member ∈ members) :
    slotOf? members member.1 = some (.present member.2) := by
  have alone : (members.filter fun other => other.1 == member.1) = [member] := by
    induction members with
    | nil => contradiction
    | cons first rest inductionHypothesis =>
        rw [List.map_cons, List.nodup_cons] at distinct
        obtain ⟨notAgain, distinctRest⟩ := distinct
        rcases List.mem_cons.mp isMember with rfl | inRest
        · have noOthers : (rest.filter fun other => other.1 == member.1) = [] := by
            rw [List.filter_eq_nil_iff]
            intro other inRest sameName
            rw [beq_iff_eq] at sameName
            exact notAgain (sameName ▸ List.mem_map_of_mem inRest)
          rw [List.filter_cons_of_pos (by simp), noOthers]
        · have different : ¬ (first.1 == member.1) = true := by
            rw [beq_iff_eq]
            intro sameName
            exact notAgain (sameName ▸ List.mem_map_of_mem inRest)
          rw [List.filter_cons, if_neg different, inductionHypothesis distinctRest inRest]
  rw [slotOf?, alone]

/-- An object with exactly the fields of a record is that record. -/
theorem record?_of_names {members : List (String × Json)} {names : List String}
    (named : members.map Prod.fst = names) (distinct : names.Nodup) :
    (Json.obj members).record? names =
      some ⟨members.map fun member => (member.1, .present member.2)⟩ := by
  have found : ((members.map Prod.fst).mapM fun name =>
      (slotOf? members name).map fun slot => (name, slot)) =
        some (members.map fun member => (member.1, .present member.2)) :=
    mapM_map_eq_some fun member isMember => by
      rw [slotOf?_of_mem (named ▸ distinct) isMember, Option.map_some]
  rw [record?, ← named, found, Option.map_some]

/-- A field is found behind those of other names. -/
@[simp] theorem slot_cons (first : String × Slot) (rest : List (String × Slot)) (name : String) :
    Record.slot ⟨first :: rest⟩ name = if name = first.1 then first.2 else Record.slot ⟨rest⟩ name := by
  obtain ⟨other, slot⟩ := first
  rw [Record.slot, List.lookup_cons]
  by_cases same : name = other
  · rw [if_pos same, beq_iff_eq.mpr same]
    rfl
  · rw [if_neg same, beq_eq_false_iff_ne.mpr same]
    rfl

end ImageImport.Json
