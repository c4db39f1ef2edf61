import ImageImport.Permissions
import ImageImport.Proofs.Json.Records
import ImageImport.Proofs.Text.Hexadecimal
import ImageImport.Proofs.Text.Pieces

/-!
Contract: permissions are read back from the form that they are stored in, whatever bits they have.

The stored form names the bits that have a meaning and writes the others as one number. No part has a
bar or a blank in it, so the parts are found again; and the bits of the parts, put together, are all
the bits there were.

Owns: the parts of a stored form, and the reading of the whole.
Does not own: which permissions a block has.
-/

namespace ImageImport.Permissions

open Text

/-- A part that is found again in a stored form, and is read as the bits that it stands for. -/
structure IsPart (entry : String × UInt8) : Prop where
  tight : Tight entry.1.toList
  noBar : '|' ∉ entry.1.toList
  read : readPart? entry.1.toList = some entry.2

theorem isPart_of_named {entry : String × UInt8} (isNamed : entry ∈ named) : IsPart entry := by
  have known : entry = ("READ", readBit) ∨ entry = ("WRITE", writeBit) ∨
      entry = ("EXECUTE", executeBit) := by simpa [named] using isNamed
  rcases known with rfl | rfl | rfl <;>
    exact ⟨tight_of_no_blank (by decide) (by simp [isBlank]), by decide, by decide⟩

theorem toList_hex (n : Nat) : (hex n).toList = '0' :: 'x' :: numeral 16 n := by
  simp [hex]

theorem isPart_hex (bits : UInt8) : IsPart (hex bits.toNat, bits) := by
  have digits := hexDigits_numeral bits.toNat
  have notBlank (c : Char) (member : c ∈ (hex bits.toNat).toList) : isBlank c = false := by
    rw [toList_hex, List.mem_cons, List.mem_cons] at member
    rcases member with rfl | rfl | inDigits
    · decide
    · decide
    · obtain ⟨value, isDigit⟩ := digits.exists_value inDigits
      exact isDigit.isBlank_eq
  constructor
  case tight =>
    refine tight_of_no_blank ?_ notBlank
    rw [toList_hex]
    nofun
  case noBar =>
    have noBar := digits.not_mem (show digitValue? 16 '|' = none by decide)
    simp [toList_hex, noBar]
  case read =>
    have marked : dropBeginning? ['0', 'x'] (hex bits.toNat).toList =
        some (numeral 16 bits.toNat) := by
      rw [dropBeginning?_eq_some_iff, toList_hex]
      rfl
    have below : readBelow? 16 256 (numeral 16 bits.toNat) = some bits.toNat :=
      readBelow?_eq_some_iff.mpr ⟨bits.toNat_lt, [], _, .inl rfl, digits, rfl⟩
    simp [readPart?, marked, below]

/-- The parts of a stored form, with the bits that each stands for. -/
def entries (permissions : Permissions) : List (String × UInt8) :=
  (named.filter fun entry => permissions.has entry.2) ++
    (if permissions.unnamedBits = 0 then []
      else [(hex permissions.unnamedBits.toNat, permissions.unnamedBits)])

theorem parts_eq_map_entries (permissions : Permissions) :
    permissions.parts = permissions.entries.map Prod.fst := by
  rw [parts, entries, List.map_append]
  split <;> rfl

theorem isPart_of_mem_entries {permissions : Permissions} {entry : String × UInt8}
    (member : entry ∈ permissions.entries) : IsPart entry := by
  rcases List.mem_append.mp member with isNamed | isNumber
  · exact isPart_of_named (List.mem_of_mem_filter isNamed)
  · split at isNumber
    · exact absurd isNumber List.not_mem_nil
    · rw [List.mem_singleton.mp isNumber]
      exact isPart_hex _

/-- Put together, the bits of the parts are the bits that there were. -/
theorem foldl_entries (permissions : Permissions) :
    (permissions.entries.map Prod.snd).foldl (· ||| ·) 0 = permissions.bits := by
  have everyByte : ∀ n < 256,
      ((entries ⟨UInt8.ofNat n⟩).map Prod.snd).foldl (· ||| ·) 0 = UInt8.ofNat n := by
    decide +kernel
  have ofBits := everyByte permissions.bits.toNat permissions.bits.toNat_lt
  rwa [UInt8.ofNat_toNat] at ofBits

/-- Parts in a stored form, with a bar and blanks between them. -/
def joined (entries : List (String × UInt8)) : List Char :=
  [' ', '|', ' '].intercalate (entries.map fun entry => entry.1.toList)

theorem toList_storedText (permissions : Permissions) :
    permissions.storedText.toList = joined permissions.entries := by
  rw [storedText, String.toList_intercalate, parts_eq_map_entries, List.map_map]
  rfl

section Joined

variable {entries : List (String × UInt8)} (nonempty : entries ≠ [])
  (areParts : ∀ entry ∈ entries, IsPart entry)

include nonempty areParts

theorem tight_joined : Tight (joined entries) :=
  tight_intercalate _ (by simpa using nonempty)
    (List.forall_mem_map.mpr fun entry member => (areParts entry member).tight)

/-- Joined parts are read part by part. -/
theorem mapM_split_joined :
    ((split '|' (joined entries)).mapM fun part => readPart? (trim part)) =
      some (entries.map Prod.snd) := by
  have found : (split '|' (joined entries)).map trim = entries.map fun entry => entry.1.toList :=
    map_trim_split_intercalate (by decide) (by simpa using nonempty)
      (List.forall_mem_map.mpr fun entry member => (areParts entry member).tight)
      (List.forall_mem_map.mpr fun entry member => (areParts entry member).noBar) [] (by simp)
  have read := Json.mapM_map_eq_some fun entry member => (areParts entry member).read
  rw [← found, List.mapM_map] at read
  exact read

end Joined

/-- What is stored of permissions is read as the same permissions. -/
theorem readStored?_storedText (permissions : Permissions) :
    readStored? permissions.storedText = some permissions := by
  have areParts (entry : String × UInt8) (member : entry ∈ permissions.entries) : IsPart entry :=
    isPart_of_mem_entries member
  have together := permissions.foldl_entries
  rw [readStored?, toList_storedText]
  generalize permissions.entries = entries at areParts together
  by_cases isEmpty : entries = []
  · rw [isEmpty] at together ⊢
    exact congrArg (fun bits => some (mk bits)) together
  · have tight := tight_joined isEmpty areParts
    have notBlank : ¬ (joined entries).isEmpty = true := by
      obtain ⟨c, rest, same, -⟩ := tight.first
      simp [same]
    rw [tight.trim_eq_self, if_neg notBlank, mapM_split_joined isEmpty areParts]
    exact congrArg (fun bits => some (mk bits)) together

/-- Permissions are read back from JSON. -/
theorem inverts : Json.Inverts ofJson? toJson where
  decode_encode permissions := by
    rw [toJson, ofJson?, Json.str?_str, Option.bind_some, readStored?_storedText]
  ne_null := nofun

end ImageImport.Permissions
