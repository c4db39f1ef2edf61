import Mathlib.Data.Nat.Digits.Defs
import ImageImport.Language
import ImageImport.Proofs.Text.Numeral

/-!
Contract: which texts are numbers in hexadecimal, and which number each of them is.

The texts are told as a grammar: one of two marks or none, a plus sign or none, and digits, of which
there is at least one and which may begin with zeros. The number is the sum of the digits at the powers
of sixteen. Reading goes from the left and stops at the first character that does not belong there.

Owns: `HexNumber`, its agreement with `readOffset?`, and the numerals that are numbers of this kind.
Does not own: the texts around a number.
-/

namespace ImageImport.Text

/-- The value of a digit, which is a letter from ten on, in either case. -/
def HexDigit (c : Char) (value : Nat) : Prop :=
  "0123456789abcdef".toList[value]? = some c ∨ "0123456789ABCDEF".toList[value]? = some c

instance (c : Char) (value : Nat) : Decidable (HexDigit c value) := by
  unfold HexDigit
  infer_instance

/-- The number that some digits denote, the most significant one first. -/
inductive HexDigits : List Char → Nat → Prop where
  | intro {digits : List Char} {values : List Nat} (nonempty : digits ≠ [])
      (each : List.Forall₂ HexDigit digits values) :
      HexDigits digits (Nat.ofDigits 16 values.reverse)

/-- The number that digits denote behind an optional mark and an optional plus sign. -/
inductive HexNumber : List Char → Nat → Prop where
  | intro {mark plus digits : List Char} {n : Nat}
      (marked : mark = [] ∨ mark = ['0', 'x'] ∨ mark = ['0', 'X'])
      (signed : plus = [] ∨ plus = ['+']) (denoted : HexDigits digits n) :
      HexNumber (mark ++ plus ++ digits) n

section Digits

variable {c : Char} {value n start bound : Nat} {text digits : List Char}

theorem HexDigit.lt (digit : HexDigit c value) : value < 16 := by
  rcases digit with found | found
  · exact (List.getElem?_eq_some_iff.mp found).1
  · exact (List.getElem?_eq_some_iff.mp found).1

theorem HexDigit.isBlank_eq (digit : HexDigit c value) : isBlank c = false := by
  have small := digit.lt
  interval_cases value <;> rcases digit with found | found <;> cases found <;> decide

theorem digitValue?_of_hexDigit (digit : HexDigit c value) : digitValue? 16 c = some value := by
  have small := digit.lt
  interval_cases value <;> rcases digit with found | found <;> cases found <;> decide

/-- The characters from one digit up to another are the digits between them. -/
theorem hexDigit_of_digitValue? (read : digitValue? 16 c = some value) : HexDigit c value := by
  have code := Char.ofNat_toNat c
  unfold digitValue? at read
  simp only [Option.ite_none_right_eq_some, Option.some.injEq] at read
  obtain ⟨small, rfl⟩ := read
  split_ifs at small ⊢ with decimal lower upper
  · have least : 48 ≤ c.toNat := decimal.1
    have most : c.toNat ≤ 57 := decimal.2
    interval_cases c.toNat <;> rw [← code] <;> decide
  · have least : 97 ≤ c.toNat := lower.1
    have most : c.toNat ≤ 102 := lower.2
    interval_cases c.toNat <;> rw [← code] <;> decide
  · have least : 65 ≤ c.toNat := upper.1
    have most : c.toNat ≤ 70 := upper.2
    interval_cases c.toNat <;> rw [← code] <;> decide
  · omega

/-- What has been read so far stands in front of all further digits. -/
theorem readDigits?_eq_some_iff :
    readDigits? 16 start digits = some n ↔ ∃ values, List.Forall₂ HexDigit digits values ∧
      n = Nat.ofDigits 16 (values.reverse ++ [start]) := by
  induction digits generalizing start with
  | nil => simp [readDigits?, eq_comm]
  | cons c rest inductionHypothesis =>
      have shifted (value : Nat) (values : List Nat) :
          Nat.ofDigits 16 (values.reverse ++ [start * 16 + value]) =
            Nat.ofDigits 16 ((value :: values).reverse ++ [start]) := by
        simp only [Nat.ofDigits_append, List.reverse_cons, List.append_assoc, List.cons_append,
          List.nil_append, Nat.ofDigits_cons, Nat.ofDigits_nil]
        ring
      rw [readDigits?]
      constructor
      · intro read
        split at read
        · next value isDigit =>
            obtain ⟨values, each, rfl⟩ := inductionHypothesis.mp read
            exact ⟨value :: values, .cons (hexDigit_of_digitValue? isDigit) each, shifted _ _⟩
        · contradiction
      · rintro ⟨_, _ | ⟨digit, each⟩, rfl⟩
        rw [digitValue?_of_hexDigit digit]
        exact inductionHypothesis.mpr ⟨_, each, (shifted _ _).symm⟩

theorem ofDigits_zero_last (values : List Nat) :
    Nat.ofDigits 16 (values ++ [0]) = Nat.ofDigits 16 values := by
  simp [Nat.ofDigits_append]

theorem readNumeral?_eq_some_iff : readNumeral? 16 digits = some n ↔ HexDigits digits n := by
  cases digits with
  | nil =>
      refine iff_of_false nofun ?_
      rintro ⟨nonempty, -⟩
      contradiction
  | cons c rest =>
      have reading : readNumeral? 16 (c :: rest) = readDigits? 16 0 (c :: rest) := rfl
      rw [reading, readDigits?_eq_some_iff]
      constructor
      · rintro ⟨values, each, rfl⟩
        rw [ofDigits_zero_last]
        exact ⟨nofun, each⟩
      · rintro ⟨-, each⟩
        exact ⟨_, each, (ofDigits_zero_last _).symm⟩

theorem HexDigits.exists_value (denoted : HexDigits digits n) (member : c ∈ digits) :
    ∃ value, HexDigit c value := by
  obtain ⟨-, each⟩ := denoted
  induction each with
  | nil => contradiction
  | cons digit _ inductionHypothesis =>
      rcases List.mem_cons.mp member with rfl | later
      · exact ⟨_, digit⟩
      · exact inductionHypothesis later

/-- No sign, mark or separator is a digit. -/
theorem HexDigits.not_mem (denoted : HexDigits digits n) (noDigit : digitValue? 16 c = none) :
    c ∉ digits := by
  intro member
  obtain ⟨value, digit⟩ := denoted.exists_value member
  rw [digitValue?_of_hexDigit digit] at noDigit
  contradiction

theorem HexDigits.ne_nil (denoted : HexDigits digits n) : digits ≠ [] := by
  obtain ⟨nonempty, -⟩ := denoted
  exact nonempty

/-- Zeros in front of digits change nothing. -/
theorem HexDigits.zeros (denoted : HexDigits digits n) (count : Nat) :
    HexDigits (List.replicate count '0' ++ digits) n := by
  induction count with
  | zero => exact denoted
  | succ count inductionHypothesis =>
      rw [List.replicate_succ, List.cons_append]
      obtain ⟨-, each⟩ := inductionHypothesis
      have zero : HexDigit '0' 0 := by decide
      have longer := HexDigits.intro (List.cons_ne_nil '0' _) (.cons zero each)
      rwa [List.reverse_cons, ofDigits_zero_last] at longer

theorem hexDigits_numeral (n : Nat) : HexDigits (numeral 16 n) n :=
  readNumeral?_eq_some_iff.mp (readNumeral?_numeral (by decide) (by decide) n)

/-! ## Signs and marks -/

/-- Digits begin with no plus sign of their own, so one in front of them is the only one. -/
theorem dropPlus_of_signed {plus : List Char} (signed : plus = [] ∨ plus = ['+'])
    (denoted : HexDigits digits n) : dropPlus (plus ++ digits) = digits := by
  rcases signed with rfl | rfl
  · have noPlus := denoted.not_mem (show digitValue? 16 '+' = none by decide)
    rw [List.nil_append, dropPlus.eq_def]
    split
    · simp at noPlus
    · rfl
  · rfl

theorem exists_plus_dropPlus (text : List Char) :
    ∃ plus, (plus = [] ∨ plus = ['+']) ∧ text = plus ++ dropPlus text := by
  unfold dropPlus
  split
  · exact ⟨['+'], .inr rfl, rfl⟩
  · exact ⟨[], .inl rfl, rfl⟩

theorem readBelow?_eq_some_iff :
    readBelow? 16 bound text = some n ↔ n < bound ∧ ∃ plus digits,
      (plus = [] ∨ plus = ['+']) ∧ HexDigits digits n ∧ text = plus ++ digits := by
  rw [readBelow?]
  constructor
  · intro read
    split at read
    · next value denoted =>
        simp only [Option.ite_none_right_eq_some, Option.some.injEq] at read
        obtain ⟨below, rfl⟩ := read
        obtain ⟨plus, signed, parted⟩ := exists_plus_dropPlus text
        exact ⟨below, plus, _, signed, readNumeral?_eq_some_iff.mp denoted, parted⟩
    · contradiction
  · rintro ⟨below, plus, digits, signed, denoted, rfl⟩
    rw [dropPlus_of_signed signed denoted, readNumeral?_eq_some_iff.mpr denoted]
    exact if_pos below

/-! ## Written numbers -/

theorem hexNumber_hex (n : Nat) : HexNumber (hex n).toList n := by
  have marked := HexNumber.intro (.inr (.inl rfl)) (.inl rfl) (hexDigits_numeral n)
  simpa [hex] using marked

theorem hexNumber_hexPadded (width n : Nat) : HexNumber (hexPadded width n).toList n := by
  have padded := (hexDigits_numeral n).zeros (width - (numeral 16 n).length)
  simpa [hexPadded] using HexNumber.intro (.inl rfl) (.inl rfl) padded

/-- A number ends in a digit, which is not blank. -/
theorem HexNumber.exists_last (number : HexNumber text n) :
    ∃ front c, text = front ++ [c] ∧ isBlank c = false := by
  obtain ⟨-, -, denoted⟩ := number
  next mark plus digits =>
    have nonempty := denoted.ne_nil
    obtain ⟨value, digit⟩ := denoted.exists_value (List.getLast_mem nonempty)
    refine ⟨mark ++ plus ++ digits.dropLast, digits.getLast nonempty, ?_, digit.isBlank_eq⟩
    rw [List.append_assoc _ digits.dropLast, List.dropLast_append_getLast nonempty]

end Digits

end ImageImport.Text

namespace ImageImport

open Text

variable {text : List Char} {offset : UInt64}

/-- A mark is dropped, and what stands behind it is read. -/
theorem exists_mark (text : List Char) :
    ∃ mark rest, (mark = [] ∨ mark = ['0', 'x'] ∨ mark = ['0', 'X']) ∧ text = mark ++ rest ∧
      readOffset? text = (readBelow? 16 UInt64.size rest).map Nat.toUInt64 := by
  unfold readOffset?
  split
  · exact ⟨['0', 'x'], _, .inr (.inl rfl), rfl, rfl⟩
  · exact ⟨['0', 'X'], _, .inr (.inr rfl), rfl, rfl⟩
  · exact ⟨[], _, .inl rfl, rfl, rfl⟩

/-- Digits behind a sign or none hold no mark, so one in front of them is the only one. -/
theorem readOffset?_of_marked {mark plus digits : List Char} {n : Nat}
    (marked : mark = [] ∨ mark = ['0', 'x'] ∨ mark = ['0', 'X'])
    (signed : plus = [] ∨ plus = ['+']) (denoted : HexDigits digits n) :
    readOffset? (mark ++ plus ++ digits) =
      (readBelow? 16 UInt64.size (plus ++ digits)).map Nat.toUInt64 := by
  have noLower := denoted.not_mem (show digitValue? 16 'x' = none by decide)
  have noUpper := denoted.not_mem (show digitValue? 16 'X' = none by decide)
  rw [List.append_assoc]
  rcases marked with rfl | rfl | rfl
  · rw [List.nil_append]
    unfold readOffset?
    split
    · next begins => rcases signed with rfl | rfl <;> simp_all
    · next begins => rcases signed with rfl | rfl <;> simp_all
    · rfl
  · rfl
  · rfl

/-- A text is read as an offset exactly if it is a number of 64 bits. -/
theorem readOffset?_eq_some_iff : readOffset? text = some offset ↔ HexNumber text offset.toNat := by
  constructor
  · intro read
    obtain ⟨mark, rest, marked, rfl, readRest⟩ := exists_mark text
    obtain ⟨n, below, rfl⟩ := Option.map_eq_some_iff.mp (readRest.symm.trans read)
    obtain ⟨small, plus, digits, signed, denoted, rfl⟩ := readBelow?_eq_some_iff.mp below
    have whole : n.toUInt64.toNat = n := Nat.mod_eq_of_lt small
    rw [whole, ← List.append_assoc]
    exact .intro marked signed denoted
  · rintro ⟨marked, signed, denoted⟩
    have below := readBelow?_eq_some_iff.mpr ⟨offset.toNat_lt, _, _, signed, denoted, rfl⟩
    rw [readOffset?_of_marked marked signed denoted, below]
    exact congrArg some (UInt64.ofNat_toNat)

end ImageImport
