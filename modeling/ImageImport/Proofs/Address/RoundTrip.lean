import ImageImport.Proofs.Address.Written

/-!
Contract: an address is read back from the text that it is written as.

The text is one of the forms that a language reads, whatever the offset: a flat address has a mark in
front of its digits, and a segmented one has two parts of at least four digits. Only the name of its
space can spoil it, by a colon or by a blank at the beginning.

Owns: the round trip of every address that a space has.
Does not own: addresses in front of their segment, which no space has.
-/

namespace ImageImport

open Text

namespace Address

variable {space : AddressSpace}

/-- The text of a flat address. -/
theorem toList_text_flat (offset : UInt64) :
    (text ⟨space.name, space.kind, offset, space.bits, none⟩).toList =
      space.name.toList ++ ':' :: (hex offset.toNat).toList := by
  simp [text]

/-- The text of a segmented address has the offset within the segment. -/
theorem toList_text_segmented {segment offset : UInt16} {flat : UInt64}
    (sum : flat.toNat = segment.toNat * 16 + offset.toNat) :
    (text ⟨space.name, space.kind, flat, space.bits, some segment⟩).toList =
      space.name.toList ++ ':' :: (hexPadded 4 segment.toNat).toList ++
        ':' :: (hexPadded 4 offset.toNat).toList := by
  have behind : segment.toNat * 16 ≤ flat.toNat := by omega
  have within : flat.toNat - segment.toNat * 16 = offset.toNat := by omega
  simp [text, behind, within]

end Address

namespace Language

variable {language : Language} {space : AddressSpace} {name digits : List Char} {n : Nat}

/-- A name and a number behind it leave nothing to trim. -/
theorem tight_of_name (start : ∀ c ∈ name.head?, isBlank c = false) (between : List Char)
    (number : HexNumber digits n) : Tight (name ++ ':' :: (between ++ digits)) := by
  constructor
  · cases name with
    | nil => exact ⟨':', between ++ digits, rfl, by decide⟩
    | cons c rest => exact ⟨c, rest ++ ':' :: (between ++ digits), rfl, start c rfl⟩
  · obtain ⟨front, c, rfl, notBlank⟩ := number.exists_last
    exact ⟨name ++ ':' :: (between ++ front), c, by simp, notBlank⟩

/-- An address of the first space of its name is read back from its text, flat or segmented. -/
theorem parseAddress_of_text (declared : language.Declares space.name space)
    (unparted : ':' ∉ space.name.toList)
    (start : ∀ c ∈ space.name.toList.head?, isBlank c = false) :
    (∀ offset address, Address.inSpace space offset = .ok address →
      language.parseAddress address.text = .ok address) ∧
    ∀ segment offset address, Address.segmented space segment offset = .ok address →
      language.parseAddress address.text = .ok address := by
  constructor
  · intro offset address made
    obtain ⟨inside, rfl⟩ := Address.inSpace_eq_ok_iff.mp made
    have number := hexNumber_hex offset.toNat
    have tight := tight_of_name start [] number
    rw [List.nil_append] at tight
    apply Denotes.parseAddress_eq
    rw [Address.toList_text_flat, tight.trim_eq_self]
    exact .flat (.flat unparted) declared number inside
  · intro segment offset address made
    obtain ⟨inside, rfl⟩ := Address.segmented_eq_ok_iff.mp made
    have sum := Address.segmented_toNat segment offset
    have segmentNumber := hexNumber_hexPadded 4 segment.toNat
    have number := hexNumber_hexPadded 4 offset.toNat
    have tight := tight_of_name start ((hexPadded 4 segment.toNat).toList ++ [':']) number
    rw [List.append_assoc, ← List.cons_append, ← List.append_assoc, List.singleton_append] at tight
    apply Denotes.parseAddress_eq
    rw [Address.toList_text_segmented sum, tight.trim_eq_self]
    exact .segmented (.segmented unparted) declared segmentNumber number sum (sum.trans_le inside)

/-- Of two spaces with one name the first counts. Its name ends in a blank, and the segments of the
address overlap many others. -/
theorem last_offset_is_read_back :
    let real : AddressSpace := ⟨"real ", .ram, 20, none⟩
    let language : Language :=
      { make "target" ⟨"io", .ram, 8, none⟩ with
        spaces := [⟨"io", .ram, 8, none⟩, real, ⟨"real ", .ram, 64, none⟩] }
    let address : Address := ⟨"real ", .ram, 0xfffff, 20, some 0xf801⟩
    language.Declares real.name real ∧ Address.segmented real 0xf801 0x7fef = .ok address ∧
      address.text = "real :f801:7fef" ∧ language.parseAddress address.text = .ok address := by
  intro real language address
  have declared : language.Declares real.name real :=
    ⟨[⟨"io", .ram, 8, none⟩], _, rfl, rfl, by decide⟩
  have made : Address.segmented real 0xf801 0x7fef = .ok address := by decide
  have start : ∀ c ∈ real.name.toList.head?, isBlank c = false := by simp [real, isBlank]
  refine ⟨declared, made, by decide +kernel, ?_⟩
  exact (parseAddress_of_text declared (by decide) start).2 0xf801 0x7fef address made

end Language

end ImageImport
