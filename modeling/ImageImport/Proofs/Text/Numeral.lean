import Mathlib.Data.List.Nodup
import Mathlib.Data.List.Perm.Subperm
import Mathlib.Tactic.IntervalCases
import ImageImport.Text.Digits

/-!
Contract: a written number is read back as the number it was written for, in every base from two to
sixteen. So different numbers have different numerals, and of enough different names one is free.

Owns: the reading of numerals and of decimal integers with their sign, the characters that they are
made of, and the supply of free names.
Does not own: marks in front of a numeral, and bounds that are not those of a machine word.
-/

namespace ImageImport.Text

/-- The last digit of a number comes behind the numeral of the rest, where there is a rest. -/
theorem numeral_eq_concat {base : Nat} (atLeastTwo : 2 ≤ base) (n : Nat) :
    numeral base n = (if n < base then [] else numeral base (n / base)) ++ [digit (n % base)] := by
  rw [numeral]
  by_cases short : n < base
  · rw [if_pos (.inl short), if_pos short, Nat.mod_eq_of_lt short, List.nil_append]
  · rw [if_neg (by omega), if_neg short]

theorem digitValue?_digit {base value : Nat} (below : value < base) (atMost : base ≤ 16) :
    digitValue? base (digit value) = some value := by
  have known : value < 16 := by omega
  unfold digitValue?
  interval_cases value <;> simp [digit, below]

theorem readDigits?_concat (base start : Nat) (digits : List Char) (last : Char) :
    readDigits? base start (digits ++ [last]) =
      match readDigits? base start digits with
      | some value => readDigits? base value [last]
      | none => none := by
  induction digits generalizing start with
  | nil => rfl
  | cons first rest inductionHypothesis =>
      simp only [List.cons_append, readDigits?]
      cases digitValue? base first with
      | none => rfl
      | some value => exact inductionHypothesis _

/-- A numeral is read as the number that it was written for. -/
theorem readDigits?_numeral {base : Nat} (atLeastTwo : 2 ≤ base) (atMost : base ≤ 16) (n : Nat) :
    readDigits? base 0 (numeral base n) = some n := by
  induction n using Nat.strongRecOn with
  | ind n inductionHypothesis =>
      have lastBelow : n % base < base := Nat.mod_lt _ (by omega)
      rw [numeral_eq_concat atLeastTwo, readDigits?_concat]
      by_cases short : n < base
      · simp [short, readDigits?, Nat.mod_eq_of_lt short, digitValue?_digit short atMost]
      · have less : n / base < n := Nat.div_lt_self (by omega) (by omega)
        rw [if_neg short, inductionHypothesis _ less]
        simp only [readDigits?, digitValue?_digit lastBelow atMost]
        rw [Nat.div_add_mod']

theorem numeral_injective {base : Nat} (atLeastTwo : 2 ≤ base) (atMost : base ≤ 16) :
    Function.Injective (numeral base) := by
  intro left right same
  have read := congrArg (readDigits? base 0) same
  rw [readDigits?_numeral atLeastTwo atMost, readDigits?_numeral atLeastTwo atMost] at read
  exact Option.some.inj read

/-- The characters of a numeral are digits of its base. -/
theorem mem_numeral {base : Nat} (atLeastTwo : 2 ≤ base) {n : Nat} {c : Char}
    (member : c ∈ numeral base n) : ∃ value < base, c = digit value := by
  induction n using Nat.strongRecOn with
  | ind n inductionHypothesis =>
      rw [numeral_eq_concat atLeastTwo, List.mem_append] at member
      rcases member with inFront | last
      · by_cases short : n < base
        · simp [short] at inFront
        · rw [if_neg short] at inFront
          exact inductionHypothesis _ (Nat.div_lt_self (by omega) (by omega)) inFront
      · exact ⟨n % base, Nat.mod_lt _ (by omega), List.mem_singleton.mp last⟩

theorem numeral_ne_nil {base : Nat} (atLeastTwo : 2 ≤ base) (n : Nat) : numeral base n ≠ [] := by
  rw [numeral_eq_concat atLeastTwo]
  exact List.concat_ne_nil _ _

theorem readNumeral?_numeral {base : Nat} (atLeastTwo : 2 ≤ base) (atMost : base ≤ 16) (n : Nat) :
    readNumeral? base (numeral base n) = some n := by
  have read := readDigits?_numeral atLeastTwo atMost n
  cases digits : numeral base n with
  | nil => exact absurd digits (numeral_ne_nil atLeastTwo n)
  | cons first rest => rwa [digits] at read

/-- Only the numeral of zero begins with a zero. -/
theorem eq_zero_of_head?_numeral {base : Nat} (atLeastTwo : 2 ≤ base) (atMost : base ≤ 16) {n : Nat}
    (leadingZero : (numeral base n).head? = some '0') : n = 0 := by
  induction n using Nat.strongRecOn with
  | ind n inductionHypothesis =>
      rw [numeral_eq_concat atLeastTwo] at leadingZero
      by_cases short : n < base
      · rw [if_pos short, Nat.mod_eq_of_lt short] at leadingZero
        have isZero : digit n = digit 0 := Option.some.inj leadingZero
        have same := congrArg (digitValue? base) isZero
        rw [digitValue?_digit short atMost, digitValue?_digit (by omega) atMost] at same
        exact Option.some.inj same
      · rw [if_neg short, List.head?_append_of_ne_nil _ (numeral_ne_nil atLeastTwo _)] at leadingZero
        have less : n / base < n := Nat.div_lt_self (by omega) (by omega)
        have noRest := inductionHypothesis _ less leadingZero
        have positive : 0 < n / base := Nat.div_pos (not_lt.mp short) (by omega)
        omega

theorem toList_decimal (n : Nat) :
    ∃ front, (decimal n).toList = front ++ [digit (n % 10)] := by
  refine ⟨if n < 10 then [] else numeral 10 (n / 10), ?_⟩
  rw [decimal, String.toList_ofList, numeral_eq_concat (by decide)]

theorem mem_decimal {n : Nat} {c : Char} (member : c ∈ (decimal n).toList) :
    ∃ value < 10, c = digit value := by
  rw [decimal, String.toList_ofList] at member
  exact mem_numeral (by decide) member

theorem decimal_injective : Function.Injective decimal := by
  intro left right same
  exact numeral_injective (by decide) (by decide) (String.ofList_injective same)

/-! ## Integers with a sign -/

theorem digit_ne_sign {value : Nat} (below : value < 10) :
    digit value ≠ '-' ∧ digit value ≠ '+' := by
  interval_cases value <;> decide

/-- Without a sign in front, an integer is read as the number that its digits denote. -/
theorem readInt64?_digits {digits : List Char} {n : Nat} (read : readNumeral? 10 digits = some n)
    (unsigned : ∀ c ∈ digits.head?, c ≠ '-' ∧ c ≠ '+') :
    readInt64? digits =
      if Int64.minValue.toInt ≤ (n : Int) ∧ (n : Int) ≤ Int64.maxValue.toInt then
        some (Int64.ofInt n)
      else none := by
  cases digits with
  | nil => contradiction
  | cons first rest =>
      obtain ⟨notMinus, notPlus⟩ := unsigned first rfl
      have bare : dropPlus (first :: rest) = first :: rest := by
        unfold dropPlus
        split
        · next same => exact absurd (List.cons.inj same).1 notPlus
        · rfl
      unfold readInt64?
      split
      · next same => exact absurd (List.cons.inj same).1 notMinus
      · rw [bare, read]
        rfl

/-- A written integer is read back, to the ends of its range. -/
theorem readInt64?_decimalInt (value : Int64) :
    readInt64? (decimalInt value.toInt).toList = some value := by
  have low := value.minValue_le_toInt
  have high := value.toInt_le
  have whole := value.ofInt_toInt
  generalize value.toInt = i at low high whole ⊢
  cases i with
  | ofNat n =>
      have read := @readNumeral?_numeral 10 (by decide) (by decide) n
      have unsigned : ∀ c ∈ (numeral 10 n).head?, c ≠ '-' ∧ c ≠ '+' := by
        intro c isFirst
        obtain ⟨digitValue, below, rfl⟩ := mem_numeral (by decide) (List.mem_of_mem_head? isFirst)
        exact digit_ne_sign below
      rw [decimalInt, decimal, String.toList_ofList, readInt64?_digits read unsigned,
        if_pos ⟨low, high⟩]
      exact congrArg some whole
  | negSucc n =>
      have read := @readNumeral?_numeral 10 (by decide) (by decide) (n + 1)
      have written : (decimalInt (.negSucc n)).toList = '-' :: numeral 10 (n + 1) := by
        simp [decimalInt, decimal]
      rw [written]
      simp only [readInt64?, read]
      exact (if_pos ⟨low, high⟩).trans (congrArg some whole)

/-! ## Numbered names -/

/-- A name that has a numeral behind it is known by the number. -/
theorem append_decimal_injective (stem : String) :
    Function.Injective fun n => stem ++ decimal n := by
  intro left right same
  have lists := congrArg String.toList same
  simp only [String.toList_append] at lists
  exact decimal_injective (String.toList_injective (List.append_cancel_left lists))

/-- Of names that are all different, one that is free is found as soon as there are more of them
than there are names taken. -/
theorem exists_free {names : Nat → String} (distinct : Function.Injective names)
    (taken : List String) : ∃ n ≤ taken.length, names n ∉ taken := by
  by_contra allTaken
  simp only [not_exists, not_and, not_not] at allTaken
  have nodup : ((List.range (taken.length + 1)).map names).Nodup :=
    List.nodup_range.map distinct
  have within : (List.range (taken.length + 1)).map names ⊆ taken := by
    intro name member
    obtain ⟨n, inRange, rfl⟩ := List.mem_map.mp member
    exact allTaken n (by simpa [Nat.lt_succ_iff] using inRange)
  have tooMany := (List.subperm_of_subset nodup within).length_le
  rw [List.length_map, List.length_range] at tooMany
  omega

/-- So there is a first that is free, and it comes no later. -/
theorem exists_least_free {names : Nat → String} (distinct : Function.Injective names)
    (taken : List String) : ∃ n ≤ taken.length, IsLeast {n | names n ∉ taken} n := by
  obtain ⟨some, early, free⟩ := exists_free distinct taken
  have exists_one : ∃ n, names n ∉ taken := ⟨some, free⟩
  exact ⟨Nat.find exists_one, (Nat.find_min' exists_one free).trans early,
    Nat.find_spec exists_one, fun _ other => Nat.find_min' exists_one other⟩

end ImageImport.Text
