import Mathlib.Data.List.Basic
import Mathlib.Order.Basic
import ImageImport.Text.Blank

/-!
Contract: a text is put back together from the pieces that a separator leaves of it, and pieces that
hold no separator are found again in the text made of them, with blanks around them or without.

Owns: the laws of the cutting and trimming of texts, and of letters in lower case.
Does not own: which separators a format has.
-/

namespace ImageImport.Text

section Cutting

variable {separator : Char} {text before after piece rest : List Char}

theorem splitFirst?_append (absent : separator ∉ before) :
    splitFirst? separator (before ++ separator :: after) = some (before, after) := by
  induction before with
  | nil => rw [List.nil_append, splitFirst?, if_pos rfl]
  | cons c others inductionHypothesis =>
      rw [List.mem_cons, not_or] at absent
      rw [List.cons_append, splitFirst?, if_neg (Ne.symm absent.1), inductionHypothesis absent.2]
      rfl

theorem splitFirst?_of_not_mem (absent : separator ∉ text) : splitFirst? separator text = none := by
  induction text with
  | nil => rfl
  | cons c others inductionHypothesis =>
      rw [List.mem_cons, not_or] at absent
      rw [splitFirst?, if_neg (Ne.symm absent.1), inductionHypothesis absent.2]
      rfl

theorem eq_append_of_splitFirst? (found : splitFirst? separator text = some (before, after)) :
    text = before ++ separator :: after := by
  induction text generalizing before with
  | nil => contradiction
  | cons c others inductionHypothesis =>
      rw [splitFirst?] at found
      by_cases isSeparator : c = separator
      · rw [if_pos isSeparator, Option.some.injEq, Prod.mk.injEq] at found
        obtain ⟨rfl, rfl⟩ := found
        rw [isSeparator, List.nil_append]
      · rw [if_neg isSeparator, Option.map_eq_some_iff] at found
        obtain ⟨⟨front, back⟩, later, same⟩ := found
        rw [Prod.mk.injEq] at same
        obtain ⟨rfl, rfl⟩ := same
        rw [inductionHypothesis later, List.cons_append]

theorem split_of_not_mem (absent : separator ∉ text) : split separator text = [text] := by
  induction text with
  | nil => rfl
  | cons c rest inductionHypothesis =>
      rw [List.mem_cons, not_or] at absent
      rw [split, if_neg (Ne.symm absent.1), inductionHypothesis absent.2]

/-- What stands in front of the first separator is a piece of its own. -/
theorem split_append (absent : separator ∉ piece) :
    split separator (piece ++ separator :: rest) = piece :: split separator rest := by
  induction piece with
  | nil => rw [List.nil_append, split, if_pos rfl]
  | cons c others inductionHypothesis =>
      rw [List.mem_cons, not_or] at absent
      rw [List.cons_append, split, if_neg (Ne.symm absent.1), inductionHypothesis absent.2]

theorem split_ne_nil (separator : Char) (text : List Char) : split separator text ≠ [] := by
  cases text with
  | nil => nofun
  | cons c rest =>
      unfold split
      split
      · nofun
      · split <;> nofun

theorem split_eq_splitOn (separator : Char) (text : List Char) :
    split separator text = text.splitOn separator := by
  induction text with
  | nil => rfl
  | cons c rest inductionHypothesis =>
      rw [split, List.splitOn_eq_splitOnP, List.splitOnP_cons_eq_if_modifyHead,
        ← List.splitOn_eq_splitOnP, ← inductionHypothesis]
      by_cases isSeparator : c = separator
      · simp [isSeparator]
      · cases pieces : split separator rest with
        | nil => exact absurd pieces (split_ne_nil separator rest)
        | cons first others => simp [isSeparator]

/-- The pieces with separators between them are the text. -/
theorem intercalate_split (separator : Char) (text : List Char) :
    [separator].intercalate (split separator text) = text := by
  rw [split_eq_splitOn, List.intercalate_splitOn]

/-- What stands behind the last separator is a piece of its own. -/
theorem split_append_last (absent : separator ∉ piece) :
    split separator (text ++ separator :: piece) = split separator text ++ [piece] := by
  induction text with
  | nil =>
      have onlyPiece : split separator (separator :: piece) = [] :: split separator piece := by
        rw [split, if_pos rfl]
      rw [List.nil_append, onlyPiece, split_of_not_mem absent]
      rfl
  | cons c rest inductionHypothesis =>
      rw [List.cons_append, split, split]
      by_cases isSeparator : c = separator
      · rw [if_pos isSeparator, if_pos isSeparator, inductionHypothesis, List.cons_append]
      · rw [if_neg isSeparator, if_neg isSeparator, inductionHypothesis]
        cases pieces : split separator rest with
        | nil => exact absurd pieces (split_ne_nil separator rest)
        | cons first others => rfl

theorem not_mem_of_mem_split (member : piece ∈ split separator text) : separator ∉ piece := by
  induction text generalizing piece with
  | nil =>
      obtain rfl := List.mem_singleton.mp member
      exact List.not_mem_nil
  | cons c rest inductionHypothesis =>
      rw [split] at member
      by_cases isSeparator : c = separator
      · rw [if_pos isSeparator, List.mem_cons] at member
        rcases member with rfl | later
        · exact List.not_mem_nil
        · exact inductionHypothesis later
      · rw [if_neg isSeparator] at member
        cases pieces : split separator rest with
        | nil =>
            rw [pieces] at member
            obtain rfl := List.mem_singleton.mp member
            simpa using Ne.symm isSeparator
        | cons first others =>
            rw [pieces] at member inductionHypothesis
            rcases List.mem_cons.mp member with rfl | later
            · have absent : separator ∉ first := inductionHypothesis (by simp)
              simp [Ne.symm isSeparator, absent]
            · exact inductionHypothesis (List.mem_cons_of_mem _ later)

/-- A beginning is dropped exactly from the texts that begin with it. -/
theorem dropBeginning?_eq_some_iff {beginning : List Char} :
    dropBeginning? beginning text = some rest ↔ text = beginning ++ rest := by
  induction beginning generalizing text with
  | nil => simp [dropBeginning?]
  | cons b others inductionHypothesis =>
      cases text with
      | nil => simp [dropBeginning?]
      | cons c later =>
          by_cases same : b = c
          · simp [dropBeginning?, same, inductionHypothesis]
          · simp [dropBeginning?, same, Ne.symm same]

end Cutting

/-! ## Blanks around pieces -/

/-- A text that begins and ends in characters that are not blank. -/
structure Tight (text : List Char) : Prop where
  first : ∃ c rest, text = c :: rest ∧ isBlank c = false
  last : ∃ front c, text = front ++ [c] ∧ isBlank c = false

section Blanks

variable {text front back : List Char}

theorem tight_of_no_blank (nonempty : text ≠ []) (noBlank : ∀ c ∈ text, isBlank c = false) :
    Tight text := by
  refine ⟨?_, text.dropLast, text.getLast nonempty, ?_, noBlank _ (List.getLast_mem nonempty)⟩
  · obtain ⟨c, rest, rfl⟩ := List.exists_cons_of_ne_nil nonempty
    exact ⟨c, rest, rfl, noBlank c List.mem_cons_self⟩
  · exact (List.dropLast_append_getLast nonempty).symm

theorem Tight.append (left : Tight front) (between : List Char) (right : Tight back) :
    Tight (front ++ between ++ back) := by
  obtain ⟨c, rest, rfl, notBlank⟩ := left.first
  obtain ⟨initial, d, rfl, notBlank'⟩ := right.last
  exact ⟨⟨c, rest ++ between ++ (initial ++ [d]), by simp, notBlank⟩,
    (c :: rest) ++ between ++ initial, d, by simp, notBlank'⟩

/-- Trimming takes away what is blank at either end, and nothing else. -/
theorem Tight.trim_pad (tight : Tight text) {front : List Char}
    (inFront : ∀ c ∈ front, isBlank c = true) (back : List Char)
    (behind : ∀ c ∈ back, isBlank c = true) : trim (front ++ text ++ back) = text := by
  have fromFront : (front ++ text ++ back).dropWhile isBlank = text ++ back := by
    obtain ⟨c, rest, rfl, notBlank⟩ := tight.first
    rw [List.append_assoc, List.dropWhile_append_of_pos inFront, List.cons_append,
      List.dropWhile_cons_of_neg (by simp [notBlank])]
  have fromBack : (text ++ back).reverse.dropWhile isBlank = text.reverse := by
    obtain ⟨initial, c, rfl, notBlank⟩ := tight.last
    rw [List.reverse_append, List.dropWhile_append_of_pos (by simpa using behind),
      List.reverse_concat, List.dropWhile_cons_of_neg (by simp [notBlank])]
  rw [trim, fromFront, trimEnd, fromBack, List.reverse_reverse]

theorem Tight.trim_eq_self (tight : Tight text) : trim text = text := by
  have padded : trim ([] ++ text ++ []) = text := tight.trim_pad (by simp) [] (by simp)
  rwa [List.nil_append, List.append_nil] at padded

theorem tight_intercalate (between : List Char) {pieces : List (List Char)} (nonempty : pieces ≠ [])
    (tight : ∀ piece ∈ pieces, Tight piece) : Tight (between.intercalate pieces) := by
  induction pieces with
  | nil => contradiction
  | cons piece others inductionHypothesis =>
      have ofPiece := tight piece List.mem_cons_self
      by_cases isLast : others = []
      · rwa [isLast, List.intercalate_singleton]
      · have ofOthers := inductionHypothesis isLast fun other member =>
          tight other (List.mem_cons_of_mem _ member)
        rw [List.intercalate_cons_of_ne_nil isLast]
        exact ofPiece.append between ofOthers

/-- Pieces with a separator and a blank on either side of it between them are found again by cutting
and trimming. -/
theorem map_trim_split_intercalate {separator : Char} {pieces : List (List Char)}
    (notBlank : separator ≠ ' ') (nonempty : pieces ≠ []) (tight : ∀ piece ∈ pieces, Tight piece)
    (absent : ∀ piece ∈ pieces, separator ∉ piece) (front : List Char)
    (inFront : ∀ c ∈ front, c = ' ') :
    (split separator (front ++ [' ', separator, ' '].intercalate pieces)).map trim = pieces := by
  -- Every piece but the first comes behind a blank, so the induction is for any blanks in front.
  induction pieces generalizing front with
  | nil => contradiction
  | cons piece others inductionHypothesis =>
      have blanks (c : Char) (member : c ∈ front) : isBlank c = true := by
        rw [inFront c member]
        rfl
      have notInFront : separator ∉ front := fun member => notBlank (inFront separator member)
      have ofPiece := tight piece List.mem_cons_self
      have notInPiece := absent piece List.mem_cons_self
      by_cases isLast : others = []
      · have trimmed := ofPiece.trim_pad blanks [] (by simp)
        rw [List.append_nil] at trimmed
        rw [isLast, List.intercalate_singleton, split_of_not_mem (by simp [notInFront, notInPiece]),
          List.map_singleton, trimmed]
      · have trimmed := ofPiece.trim_pad blanks [' '] (by simp [isBlank])
        have later := inductionHypothesis isLast
          (fun other member => tight other (List.mem_cons_of_mem _ member))
          (fun other member => absent other (List.mem_cons_of_mem _ member)) [' '] (by simp)
        have parted : front ++ [' ', separator, ' '].intercalate (piece :: others) =
            (front ++ piece ++ [' ']) ++ separator ::
              ([' '] ++ [' ', separator, ' '].intercalate others) := by
          rw [List.intercalate_cons_of_ne_nil isLast]
          simp
        rw [parted, split_append (by simp [notInFront, notInPiece, notBlank]), List.map_cons,
          trimmed, later]

end Blanks

/-! ## Lower case -/

section Case

variable {c : Char}

theorem toLower_of_not_upper (notUpper : ¬ ('A' ≤ c ∧ c ≤ 'Z')) : c.toLower = c := by
  unfold Char.toLower
  exact dif_neg notUpper

theorem toNat_toLower_of_upper (upper : 'A' ≤ c ∧ c ≤ 'Z') : c.toLower.toNat = c.toNat + 32 := by
  have atMost : c.toNat ≤ 90 := UInt32.le_iff_toNat_le.mp upper.2
  unfold Char.toLower
  rw [dif_pos (show c.val ≥ 'A'.val ∧ c.val ≤ 'Z'.val from upper)]
  show (c.val + 32).toNat = c.toNat + 32
  rw [UInt32.toNat_add]
  exact Nat.mod_eq_of_lt (by simp; omega)

/-- What stands in front of the letters of lower case is nothing's lower case but its own. -/
theorem eq_of_toLower_lt (below : c.toLower.toNat < 97) :
    c.toLower = c ∧ ¬ ('A' ≤ c ∧ c ≤ 'Z') := by
  have notUpper : ¬ ('A' ≤ c ∧ c ≤ 'Z') := by
    intro upper
    have lowered := toNat_toLower_of_upper upper
    have atLeast : 65 ≤ c.toNat := UInt32.le_iff_toNat_le.mp upper.1
    omega
  exact ⟨toLower_of_not_upper notUpper, notUpper⟩

theorem toLower_not_upper (c : Char) : ¬ ('A' ≤ c.toLower ∧ c.toLower ≤ 'Z') := by
  intro upper
  have atMost : c.toLower.toNat ≤ 90 := UInt32.le_iff_toNat_le.mp upper.2
  obtain ⟨same, notUpper⟩ := eq_of_toLower_lt (show c.toLower.toNat < 97 by omega)
  rw [same] at upper
  exact notUpper upper

end Case

theorem toAsciiLower_eq_self {text : String}
    (lower : ∀ c ∈ text.toList, ¬ ('A' ≤ c ∧ c ≤ 'Z')) : toAsciiLower text = text := by
  have unchanged : text.toList.map Char.toLower = text.toList := by
    rw [List.map_congr_left fun c member => toLower_of_not_upper (lower c member), List.map_id']
  rw [toAsciiLower, unchanged, String.ofList_toList]

end ImageImport.Text
