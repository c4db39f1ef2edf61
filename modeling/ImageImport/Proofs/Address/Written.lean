import ImageImport.Proofs.Text.Hexadecimal
import ImageImport.Proofs.Text.Pieces

/-!
Contract: which texts denote an address of a language, and which address each of them denotes.

A text is cut at its colons, so that a space whose name holds a colon cannot be named in it; such a
space can still be the default one. What a name stands for is the first space that is declared under
it. The parts of a segmented address are numbers of sixteen bits each, and all others of sixty-four.

Owns: `Language.Denotes`, and that parsing agrees with it.
Does not own: the text that an address is written as.
-/

namespace ImageImport

open Text

namespace Address

variable {space : AddressSpace} {address : Address}

theorem inSpace_eq_ok_iff {offset : UInt64} :
    inSpace space offset = .ok address ↔ offset.toNat ≤ space.maxOffset.toNat ∧
      address = ⟨space.name, space.kind, offset, space.bits, none⟩ := by
  rw [inSpace, ← UInt64.le_iff_toNat_le]
  by_cases inside : offset ≤ space.maxOffset
  · rw [if_pos inside, Except.ok.injEq]
    exact ⟨fun same => ⟨inside, same.symm⟩, fun ⟨_, same⟩ => same.symm⟩
  · rw [if_neg inside]
    exact iff_of_false nofun fun ⟨within, _⟩ => inside within

/-- A segment and an offset within it, of sixteen bits each, make up a flat offset. -/
theorem segmented_toNat (segment offset : UInt16) :
    (segment.toUInt64 * 16 + offset.toUInt64).toNat = segment.toNat * 16 + offset.toNat := by
  have segmentSmall := segment.toNat_lt
  have offsetSmall := offset.toNat_lt
  have sixteen : (16 : UInt64).toNat = 16 := rfl
  simp only [UInt64.toNat_add, UInt64.toNat_mul, UInt16.toNat_toUInt64, sixteen]
  omega

theorem segmented_eq_ok_iff {segment offset : UInt16} :
    segmented space segment offset = .ok address ↔
      segment.toNat * 16 + offset.toNat ≤ space.maxOffset.toNat ∧
      address = ⟨space.name, space.kind, segment.toUInt64 * 16 + offset.toUInt64, space.bits,
        some segment⟩ := by
  rw [segmented, ← segmented_toNat]
  cases made : inSpace space (segment.toUInt64 * 16 + offset.toUInt64) with
  | ok flat =>
      obtain ⟨inside, rfl⟩ := inSpace_eq_ok_iff.mp made
      rw [Except.ok.injEq]
      exact ⟨fun same => ⟨inside, same.symm⟩, fun ⟨_, same⟩ => same.symm⟩
  | error reason =>
      refine iff_of_false nofun fun ⟨inside, _⟩ => ?_
      rw [inSpace_eq_ok_iff.mpr ⟨inside, rfl⟩] at made
      contradiction

end Address

namespace Language

variable {language : Language} {written digits : List Char} {name : String}
  {segment : Option (List Char)} {space : AddressSpace} {address : Address} {text : String}

/-- The space is the first that the language declares under the name. -/
def Declares (language : Language) (name : String) (space : AddressSpace) : Prop :=
  ∃ before after, language.spaces = before ++ space :: after ∧ space.name = name ∧
    ∀ other ∈ before, other.name ≠ name

theorem space?_eq_some_iff : language.space? name = some space ↔ language.Declares name space := by
  simp only [space?, findSpace?, List.find?_eq_some_iff_append, beq_iff_eq, Declares,
    Bool.not_eq_true', beq_eq_false_iff_ne, ne_eq]
  constructor
  · rintro ⟨named, before, after, split, others⟩
    exact ⟨before, after, split, named, others⟩
  · rintro ⟨before, after, split, named, others⟩
    exact ⟨named, before, after, split, others⟩

/-- The forms of a written address: the offset alone, or behind the name of a space, or behind both
the name of a space and a segment. A name ends at the first colon. -/
inductive Written (language : Language) :
    List Char → String → Option (List Char) → List Char → Prop where
  | bare {digits : List Char} : Written language digits language.defaultSpace none digits
  | flat {name : String} {digits : List Char} (unparted : ':' ∉ name.toList) :
      Written language (name.toList ++ ':' :: digits) name none digits
  | segmented {name : String} {segment digits : List Char} (unparted : ':' ∉ name.toList) :
      Written language (name.toList ++ ':' :: segment ++ ':' :: digits) name (some segment) digits

/-- The address that a text without blanks around it denotes. -/
inductive Denotes (language : Language) (written : List Char) : Address → Prop where
  | flat {name : String} {digits : List Char} {space : AddressSpace} {offset : UInt64}
      (form : language.Written written name none digits) (declared : language.Declares name space)
      (number : HexNumber digits offset.toNat) (inside : offset.toNat ≤ space.maxOffset.toNat) :
      Denotes language written ⟨space.name, space.kind, offset, space.bits, none⟩
  | segmented {name : String} {segmentDigits digits : List Char} {space : AddressSpace}
      {segment offset : UInt16} {flat : UInt64}
      (form : language.Written written name (some segmentDigits) digits)
      (declared : language.Declares name space)
      (segmentNumber : HexNumber segmentDigits segment.toNat)
      (number : HexNumber digits offset.toNat)
      (sum : flat.toNat = segment.toNat * 16 + offset.toNat)
      (inside : flat.toNat ≤ space.maxOffset.toNat) :
      Denotes language written ⟨space.name, space.kind, flat, space.bits, some segment⟩

/-! ## Parts -/

/-- What a text is cut into is a form of it. -/
theorem written_of_addressParts? {text : List Char}
    (parted : language.addressParts? text = some (name, segment, digits)) :
    language.Written (trim text) name segment digits := by
  have whole := intercalate_split ':' (trim text)
  have unparted {piece : List Char} (member : piece ∈ split ':' (trim text)) : ':' ∉ piece :=
    not_mem_of_mem_split member
  unfold addressParts? at parted
  split at parted
  · next offset pieces =>
      obtain ⟨rfl, rfl, rfl⟩ := by simpa using parted
      rw [pieces, List.intercalate_singleton] at whole
      rw [← whole]
      exact .bare
  · next space offset pieces =>
      obtain ⟨rfl, rfl, rfl⟩ := by simpa using parted
      rw [pieces] at whole unparted
      have form : trim text = (String.ofList space).toList ++ ':' :: offset := by
        rw [← whole, String.toList_ofList, List.intercalate_cons_of_ne_nil (List.cons_ne_nil _ _),
          List.intercalate_singleton, List.append_assoc]
        rfl
      rw [form]
      exact .flat (by simpa using unparted List.mem_cons_self)
  · next space segment offset pieces =>
      obtain ⟨rfl, rfl, rfl⟩ := by simpa using parted
      rw [pieces] at whole unparted
      have form : trim text =
          (String.ofList space).toList ++ ':' :: segment ++ ':' :: offset := by
        rw [← whole, String.toList_ofList, List.intercalate_cons_of_ne_nil (List.cons_ne_nil _ _),
          List.intercalate_cons_of_ne_nil (List.cons_ne_nil _ _), List.intercalate_singleton]
        simp
      rw [form]
      exact .segmented (by simpa using unparted List.mem_cons_self)
  · contradiction

/-- A form is what its text is cut into, if the numbers hold no colon. -/
theorem Written.addressParts?_eq {text : List Char}
    (form : language.Written (trim text) name segment digits) (plain : ':' ∉ digits)
    (segmentPlain : ∀ segmentDigits ∈ segment, ':' ∉ segmentDigits) :
    language.addressParts? text = some (name, segment, digits) := by
  unfold addressParts?
  generalize trim text = trimmed at form
  cases form with
  | bare => rw [split_of_not_mem plain]
  | flat unparted =>
      rw [split_append unparted, split_of_not_mem plain]
      simp
  | segmented unparted =>
      rw [List.append_assoc, List.cons_append, split_append unparted,
        split_append (segmentPlain _ rfl), split_of_not_mem plain]
      simp

theorem colon_not_mem_of_hexNumber {n : Nat} (number : HexNumber digits n) : ':' ∉ digits := by
  obtain ⟨marked, signed, denoted⟩ := number
  have plain := denoted.not_mem (show digitValue? 16 ':' = none by decide)
  rcases marked with rfl | rfl | rfl <;> rcases signed with rfl | rfl <;> simp [plain]

/-! ## Addresses -/

/-- A text that is not read as an address is invalid. -/
theorem exists_reason_of_error {failure : Failure}
    (refused : language.parseAddress text = .error failure) :
    ∃ reason, failure = .invalidAddress reason := by
  have ranging {result : Except String Address}
      (refused : parseAddress.inRange result = .error failure) :
      ∃ reason, failure = .invalidAddress reason := by
    cases result with
    | ok address => contradiction
    | error reason => exact ⟨_, (Except.error.inj refused).symm⟩
  have invalid (refused : .error (language.invalidAddress text) =
      (.error failure : Except Failure Address)) : ∃ reason, failure = .invalidAddress reason :=
    ⟨_, (Except.error.inj refused).symm⟩
  unfold parseAddress at refused
  split at refused
  · exact invalid refused
  · split at refused
    · split at refused
      · exact ranging refused
      · split at refused
        · split at refused
          · exact ranging refused
          · exact invalid refused
        · exact invalid refused
    · exact invalid refused

theorem inRange_eq_ok_iff {result : Except String Address} :
    parseAddress.inRange result = .ok address ↔ result = .ok address := by
  cases result <;> simp [parseAddress.inRange]

theorem toNat_toUInt16 {n : UInt64} (small : n.toNat < UInt16.size) :
    n.toUInt16.toNat = n.toNat := by
  rw [UInt64.toNat_toUInt16]
  exact Nat.mod_eq_of_lt small

theorem denotes_of_parseAddress (read : language.parseAddress text = .ok address) :
    language.Denotes (trim text.toList) address := by
  unfold parseAddress at read
  split at read
  · contradiction
  · next name segment digits parted =>
      have form := written_of_addressParts? parted
      split at read
      · next space offset declared number =>
          rw [space?_eq_some_iff] at declared
          rw [readOffset?_eq_some_iff] at number
          split at read
          · obtain ⟨inside, rfl⟩ := Address.inSpace_eq_ok_iff.mp (inRange_eq_ok_iff.mp read)
            exact .flat form declared number inside
          · split at read
            · next segment segmentNumber =>
                split at read
                · next small =>
                    rw [readOffset?_eq_some_iff] at segmentNumber
                    obtain ⟨inside, rfl⟩ :=
                      Address.segmented_eq_ok_iff.mp (inRange_eq_ok_iff.mp read)
                    rw [← toNat_toUInt16 small.1] at segmentNumber
                    rw [← toNat_toUInt16 small.2] at number
                    have sum := Address.segmented_toNat segment.toUInt16 offset.toUInt16
                    exact .segmented form declared segmentNumber number sum (sum.trans_le inside)
                · contradiction
            · contradiction
      · contradiction

theorem Denotes.parseAddress_eq (denotes : language.Denotes (trim text.toList) address) :
    language.parseAddress text = .ok address := by
  cases denotes with
  | flat form declared number inside =>
      have parted := form.addressParts?_eq (colon_not_mem_of_hexNumber number) nofun
      have made := Address.inSpace_eq_ok_iff.mpr ⟨inside, rfl⟩
      simp only [parseAddress, parted, space?_eq_some_iff.mpr declared,
        readOffset?_eq_some_iff.mpr number, made, parseAddress.inRange]
  | @segmented name segmentDigits digits space segment offset flat form declared segmentNumber
      number sum inside =>
      have parted := form.addressParts?_eq (colon_not_mem_of_hexNumber number) fun _ same =>
        Option.some.inj same ▸ colon_not_mem_of_hexNumber segmentNumber
      rw [← UInt16.toNat_toUInt64] at segmentNumber number
      have small : segment.toUInt64.toNat < UInt16.size ∧ offset.toUInt64.toNat < UInt16.size :=
        ⟨segment.toNat_lt, offset.toNat_lt⟩
      obtain rfl : flat = segment.toUInt64 * 16 + offset.toUInt64 :=
        UInt64.toNat_inj.mp (sum.trans (Address.segmented_toNat segment offset).symm)
      have made := Address.segmented_eq_ok_iff.mpr ⟨sum.symm.trans_le inside, rfl⟩
      simp only [parseAddress, parted, space?_eq_some_iff.mpr declared,
        readOffset?_eq_some_iff.mpr number, readOffset?_eq_some_iff.mpr segmentNumber, small,
        UInt16.toUInt16_toUInt64, made, parseAddress.inRange, and_self, if_true]

/-- A text is read as an address exactly if it denotes that address once it is trimmed, and every text
that denotes none is invalid. -/
theorem parseAddress_reads_what_is_denoted (language : Language) (text : String) :
    (∀ address, language.parseAddress text = .ok address ↔
      language.Denotes (trim text.toList) address) ∧
    ((∃ reason, language.parseAddress text = .error (.invalidAddress reason)) ↔
      ∀ address, ¬ language.Denotes (trim text.toList) address) := by
  refine ⟨fun address => ⟨denotes_of_parseAddress, Denotes.parseAddress_eq⟩, ?_, fun none => ?_⟩
  · rintro ⟨reason, refused⟩ address denotes
    rw [denotes.parseAddress_eq] at refused
    contradiction
  · cases read : language.parseAddress text with
    | ok address => exact absurd (denotes_of_parseAddress read) (none address)
    | error failure =>
        obtain ⟨reason, rfl⟩ := exists_reason_of_error read
        exact ⟨reason, rfl⟩

example :
    let ram : AddressSpace := ⟨"ram", .ram, 20, none⟩
    (make "target" ram).parseAddress "\u3000ram:0X+00fff:0xF\n" =
      .ok ⟨"ram", .ram, 0xffff, 20, some 0xfff⟩ := by
  decide +kernel

/-- A space that is declared under a name with a colon in it is not found in a text, although the text
is its name, a colon and an offset of the space. -/
theorem name_with_colon_is_not_found :
    let space : AddressSpace := ⟨"a:b", .ram, 16, none⟩
    let language := make "target" space
    AddressSpace.make "a:b" .ram 16 none = .ok space ∧ language.Declares "a:b" space ∧
      HexNumber "10".toList 0x10 ∧ 0x10 ≤ space.maxOffset.toNat ∧
      trim "a:b:10".toList = "a:b".toList ++ ':' :: "10".toList ∧
      language.parseAddress "a:b:10" = .error (.invalidAddress "'a:b:10' in language target") := by
  intro space language
  have declared : language.Declares "a:b" space := ⟨[], [], rfl, rfl, by simp⟩
  have number : HexNumber "10".toList 0x10 := readOffset?_eq_some_iff.mp
    (show readOffset? "10".toList = some 0x10 by decide)
  exact ⟨by decide, declared, number, by decide, by decide, by decide +kernel⟩

end Language

end ImageImport
