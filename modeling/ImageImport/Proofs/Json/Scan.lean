import Mathlib.Data.List.TakeWhile
import ImageImport.Json.Printer
import ImageImport.Json.Token
import ImageImport.Proofs.Text.Numeral

/-!
Contract: a printed value is scanned as the tokens that it is made of, in either layout.

Scanning is followed from one place to another, whatever stands behind. A number and a word end only
where something follows that cannot continue them, so a text of their kind is said to scan in front of
what is bounded; all other tokens end of themselves.

Owns: the tokens of a value, and the scanning of literals, numerals, words and layouts.
Does not own: the value that tokens denote.
-/

namespace ImageImport.Json

namespace Token

/-! ## What a text is scanned as -/

/-- The text continues neither a number nor a word. -/
def Bounded (text : List Char) : Prop :=
  ∀ c ∈ text.head?, isNumberChar c = false ∧ isWordChar c = false

/-- The text is scanned as these tokens, whatever stands behind it. -/
def Closed (text : List Char) (tokens : List Token) : Prop :=
  ∀ reversed rest,
    scanFrom? .gap reversed (text ++ rest) = scanFrom? .gap (tokens.reverse ++ reversed) rest

/-- The text is scanned as these tokens, where nothing behind it continues its end. -/
def Scans (text : List Char) (tokens : List Token) : Prop :=
  ∀ reversed rest, Bounded rest →
    scanFrom? .gap reversed (text ++ rest) = scanFrom? .gap (tokens.reverse ++ reversed) rest

variable {first second : List Char} {earlier later tokens : List Token} {token : Token}

theorem bounded_nil : Bounded [] := by
  simp [Bounded]

theorem bounded_cons {c : Char} (notNumber : isNumberChar c = false)
    (notWord : isWordChar c = false) (rest : List Char) : Bounded (c :: rest) := by
  intro other member
  obtain rfl := Option.some.inj member
  exact ⟨notNumber, notWord⟩

theorem Bounded.append (bounded : Bounded first) (boundedBehind : Bounded second) :
    Bounded (first ++ second) := by
  cases first with
  | nil => exact boundedBehind
  | cons c rest => exact bounded

theorem closed_nil : Closed [] [] := fun _ _ => rfl

theorem Closed.scans (closed : Closed first tokens) : Scans first tokens :=
  fun reversed rest _ => closed reversed rest

theorem Closed.append (closed : Closed first earlier) (closedBehind : Closed second later) :
    Closed (first ++ second) (earlier ++ later) := by
  intro reversed rest
  rw [List.append_assoc, closed, closedBehind, List.reverse_append, List.append_assoc]

theorem Closed.append_scans (closed : Closed first earlier) (scans : Scans second later) :
    Scans (first ++ second) (earlier ++ later) := by
  intro reversed rest bounded
  rw [List.append_assoc, closed, scans _ _ bounded, List.reverse_append, List.append_assoc]

/-- In front of something that bounds it, a text is followed by what comes behind. -/
theorem Scans.append (scans : Scans first earlier) (scansBehind : Scans second later)
    (bounded : Bounded second) : Scans (first ++ second) (earlier ++ later) := by
  intro reversed rest boundedBehind
  rw [List.append_assoc, scans _ _ (bounded.append boundedBehind), scansBehind _ _ boundedBehind,
    List.reverse_append, List.append_assoc]

/-- A whole text is scanned as its tokens. -/
theorem Scans.scan?_eq (scans : Scans first tokens) : scan? first = some tokens := by
  have whole := scans [] [] bounded_nil
  rw [List.append_nil] at whole
  rw [scan?, whole]
  simp [scanFrom?, finish?]

/-! ## Marks and gaps -/

theorem closed_of_start? {c : Char} (starts : start? c = some (.gap, tokens)) :
    Closed [c] tokens := by
  intro reversed rest
  simp only [List.singleton_append, scanFrom?, step?, starts]

/-- The end of a line and the blanks behind it, or nothing, are no tokens. -/
theorem closed_newLine (layout : Layout) (depth : Nat) : Closed (layout.newLine depth) [] := by
  have blanks (count : Nat) : Closed (List.replicate count ' ') [] := by
    induction count with
    | zero => exact closed_nil
    | succ count inductionHypothesis =>
        have blank : Closed [' '] [] := closed_of_start? rfl
        exact blank.append inductionHypothesis
  cases layout with
  | compact => exact closed_nil
  | indented =>
      have lineFeed : Closed ['\n'] [] := closed_of_start? rfl
      exact lineFeed.append (blanks _)

theorem bounded_newLine (layout : Layout) (depth : Nat) : Bounded (layout.newLine depth) := by
  cases layout with
  | compact => exact bounded_nil
  | indented => exact bounded_cons rfl rfl _

theorem closed_afterColon (layout : Layout) : Closed layout.afterColon [] := by
  cases layout with
  | compact => exact closed_nil
  | indented => exact closed_of_start? rfl

/-! ## Tokens that end where something else begins -/

/-- The place of a token that is complete, but could be continued. -/
structure Holds (place : Place) (token : Token) : Prop where
  atEnd : finish? place = some [token]
  inFront : ∀ c, isNumberChar c = false → isWordChar c = false →
    step? place c = (start? c).map fun started => (started.1, token :: started.2)

theorem Holds.scanFrom?_eq {place : Place} (holds : Holds place token) {rest : List Char}
    (bounded : Bounded rest) (reversed : List Token) :
    scanFrom? place reversed rest = scanFrom? .gap (token :: reversed) rest := by
  cases rest with
  | nil =>
      rw [scanFrom?, scanFrom?, holds.atEnd]
      simp [finish?]
  | cons c others =>
      obtain ⟨notNumber, notWord⟩ := bounded c rfl
      have atGap : step? .gap c = start? c := rfl
      rw [scanFrom?, scanFrom?, holds.inFront c notNumber notWord, atGap]
      cases start? c with
      | none => rfl
      | some started => simp

theorem holds_word {letters : List Char} (isToken : ofWord? letters.reverse = some token) :
    Holds (.word letters) token := by
  refine ⟨by simp [finish?, isToken], fun c _ notWord => ?_⟩
  simp only [step?, notWord, isToken]
  cases start? c <;> rfl

theorem holds_number {digits : List Char} (isToken : ofNumber? digits.reverse = some token) :
    Holds (.number digits) token := by
  refine ⟨by simp [finish?, isToken], fun c notNumber _ => ?_⟩
  simp only [step?, notNumber, isToken]
  cases start? c <;> rfl

theorem scanFrom?_word {letters : List Char} (areLetters : ∀ c ∈ letters, isWordChar c = true)
    (read : List Char) (reversed : List Token) (rest : List Char) :
    scanFrom? (.word read) reversed (letters ++ rest) =
      scanFrom? (.word (letters.reverse ++ read)) reversed rest := by
  induction letters generalizing read with
  | nil => rfl
  | cons c others inductionHypothesis =>
      rw [List.forall_mem_cons] at areLetters
      rw [List.cons_append, List.reverse_cons, List.append_assoc, List.singleton_append,
        ← inductionHypothesis areLetters.2]
      simp only [scanFrom?, step?, areLetters.1]
      rfl

theorem scanFrom?_number {digits : List Char} (areDigits : ∀ c ∈ digits, isNumberChar c = true)
    (read : List Char) (reversed : List Token) (rest : List Char) :
    scanFrom? (.number read) reversed (digits ++ rest) =
      scanFrom? (.number (digits.reverse ++ read)) reversed rest := by
  induction digits generalizing read with
  | nil => rfl
  | cons c others inductionHypothesis =>
      rw [List.forall_mem_cons] at areDigits
      rw [List.cons_append, List.reverse_cons, List.append_assoc, List.singleton_append,
        ← inductionHypothesis areDigits.2]
      simp only [scanFrom?, step?, areDigits.1]
      rfl

/-- A word of lower-case letters is its token. -/
theorem scans_word {c : Char} {letters : List Char} (starts : start? c = some (.word [c], []))
    (areLetters : ∀ c ∈ letters, isWordChar c = true) (isToken : ofWord? (c :: letters) = some token) :
    Scans (c :: letters) [token] := by
  intro reversed rest bounded
  have holds : Holds (.word (letters.reverse ++ [c])) token := holds_word (by simpa using isToken)
  rw [List.cons_append, scanFrom?, step?, starts]
  show scanFrom? (.word [c]) reversed (letters ++ rest) = _
  rw [scanFrom?_word areLetters, holds.scanFrom?_eq bounded]
  rfl

/-- A number is its token. -/
theorem scans_number {c : Char} {digits : List Char} (starts : start? c = some (.number [c], []))
    (areDigits : ∀ c ∈ digits, isNumberChar c = true) (isToken : ofNumber? (c :: digits) = some token) :
    Scans (c :: digits) [token] := by
  intro reversed rest bounded
  have holds : Holds (.number (digits.reverse ++ [c])) token :=
    holds_number (by simpa using isToken)
  rw [List.cons_append, scanFrom?, step?, starts]
  show scanFrom? (.number [c]) reversed (digits ++ rest) = _
  rw [scanFrom?_number areDigits, holds.scanFrom?_eq bounded]
  rfl

/-! ## Integers -/

theorem start?_digit {value : Nat} (below : value < 10) :
    start? (Text.digit value) = some (.number [Text.digit value], []) := by
  interval_cases value <;> rfl

theorem isDecimalDigit_digit {value : Nat} (below : value < 10) :
    isDecimalDigit (Text.digit value) = true := by
  interval_cases value <;> rfl

theorem isDecimalDigit_of_mem {n : Nat} {c : Char} (member : c ∈ Text.numeral 10 n) :
    isDecimalDigit c = true := by
  obtain ⟨value, below, rfl⟩ := Text.mem_numeral (by decide) member
  exact isDecimalDigit_digit below

theorem isNumberChar_of_mem {n : Nat} {c : Char} (member : c ∈ Text.numeral 10 n) :
    isNumberChar c = true := by
  simp [isNumberChar, isDecimalDigit_of_mem member]

/-- The digits of a number, with or without a minus sign in front, are one token. -/
theorem ofNumber?_numeral (n : Nat) :
    ofNumber? (Text.numeral 10 n) = some (.int n) ∧
      ofNumber? ('-' :: Text.numeral 10 n) =
        some (if n = 0 then .number else .int (-(n : Int))) := by
  have unsigned : ((Text.numeral 10 n).head? == some '-') = false := by
    cases digits : Text.numeral 10 n with
    | nil => rfl
    | cons first rest =>
        have isDigit : isDecimalDigit first = true :=
          isDecimalDigit_of_mem (by rw [digits]; exact List.mem_cons_self)
        have notMinus : first ≠ '-' := by
          rintro rfl
          contradiction
        simpa using notMinus
  have digits : ∀ c ∈ Text.numeral 10 n, isDecimalDigit c = true :=
    fun c member => isDecimalDigit_of_mem member
  have whole : (Text.numeral 10 n).takeWhile isDecimalDigit = Text.numeral 10 n :=
    List.takeWhile_eq_self_iff.mpr digits
  have nothing : (Text.numeral 10 n).dropWhile isDecimalDigit = [] :=
    List.dropWhile_eq_nil_iff.mpr digits
  have read : Text.readNumeral? 10 (Text.numeral 10 n) = some n :=
    Text.readNumeral?_numeral (by decide) (by decide) n
  have noZero : ¬ ((Text.numeral 10 n).length ≠ 1 ∧ (Text.numeral 10 n).head? = some '0') := by
    rintro ⟨longer, leadingZero⟩
    obtain rfl := Text.eq_zero_of_head?_numeral (by decide) (by decide) leadingZero
    exact longer (by rw [Text.numeral_eq_concat (by decide)]; rfl)
  constructor
  · simp only [ofNumber?, unsigned, Bool.false_eq_true, if_false, whole, nothing, read, noZero]
    simp [isFractionPart, isExponentPart]
  · have minus : (('-' :: Text.numeral 10 n).head? == some '-') = true := rfl
    simp only [ofNumber?, minus, if_true, List.tail_cons, whole, nothing, read, noZero]
    by_cases zero : n = 0 <;> simp [isFractionPart, isExponentPart, zero]

/-- An integer in decimal is one token. -/
theorem scans_decimalInt (i : Int) : Scans (Text.decimalInt i).toList [.int i] := by
  cases i with
  | ofNat n =>
      have isToken := (ofNumber?_numeral n).1
      rw [Text.decimalInt, Text.decimal, String.toList_ofList]
      cases digits : Text.numeral 10 n with
      | nil => exact absurd digits (Text.numeral_ne_nil (by decide) n)
      | cons first rest =>
          have areDigits : ∀ c ∈ first :: rest, isNumberChar c = true := by
            rw [← digits]
            exact fun c member => isNumberChar_of_mem member
          rw [digits] at isToken
          rw [List.forall_mem_cons] at areDigits
          obtain ⟨value, below, rfl⟩ : ∃ value < 10, first = Text.digit value := by
            apply Text.mem_numeral (by decide)
            rw [digits]
            exact List.mem_cons_self
          exact scans_number (start?_digit below) areDigits.2 isToken
  | negSucc n =>
      have isToken := (ofNumber?_numeral (n + 1)).2
      rw [if_neg (Nat.succ_ne_zero n)] at isToken
      have text : (Text.decimalInt (.negSucc n)).toList = '-' :: Text.numeral 10 (n + 1) := by
        simp [Text.decimalInt, Text.decimal]
      rw [text]
      exact scans_number rfl (fun c member => isNumberChar_of_mem member) isToken

/-! ## String literals -/

/-- Inside a literal, after the characters of a text. -/
def insideAfter (reversed : List Char) : Place := .inside ⟨reversed, none, false⟩

theorem Literal.push_plain (reversed : List Char) (c : Char) :
    Literal.push ⟨reversed, none, false⟩ c = ⟨c :: reversed, none, false⟩ := rfl

/-- What is written for a character is read as that character. -/
theorem scanFrom?_literalChar (read : List Char) (c : Char) (reversed : List Token)
    (rest : List Char) :
    scanFrom? (insideAfter read) reversed (literalChar c ++ rest) =
      scanFrom? (insideAfter (c :: read)) reversed rest := by
  unfold literalChar
  by_cases quote : c = '"'
  · subst quote
    rfl
  rw [if_neg quote]
  by_cases backslash : c = '\\'
  · subst backslash
    rfl
  rw [if_neg backslash]
  by_cases backspace : c = '\x08'
  · subst backspace
    rfl
  rw [if_neg backspace]
  by_cases formFeed : c = '\x0c'
  · subst formFeed
    rfl
  rw [if_neg formFeed]
  by_cases lineFeed : c = '\n'
  · subst lineFeed
    rfl
  rw [if_neg lineFeed]
  by_cases carriageReturn : c = '\r'
  · subst carriageReturn
    rfl
  rw [if_neg carriageReturn]
  by_cases tab : c = '\t'
  · subst tab
    rfl
  rw [if_neg tab]
  by_cases control : c.toNat < 0x20
  · have high : c.toNat / 16 < 16 := by omega
    have low : c.toNat % 16 < 16 := Nat.mod_lt _ (by decide)
    have readHigh := Text.digitValue?_digit high (le_refl 16)
    have readLow := Text.digitValue?_digit low (le_refl 16)
    have readZero : Text.digitValue? 16 '0' = some 0 := rfl
    have code : c.toNat / 16 * 16 + c.toNat % 16 = c.toNat := Nat.div_add_mod' _ _
    have notSurrogate : ¬ 0xd800 ≤ c.toNat := by omega
    have notSurrogate' : ¬ 0xdc00 ≤ c.toNat := by omega
    rw [if_pos control]
    simp [scanFrom?, insideAfter, step?, readZero, readHigh, readLow, code, Literal.pushUnit,
      notSurrogate, notSurrogate', Literal.push_plain]
  · rw [if_neg control, List.singleton_append, scanFrom?]
    simp [insideAfter, step?, quote, backslash, control, Literal.push_plain]

theorem scanFrom?_literalChars (read text : List Char) (reversed : List Token)
    (rest : List Char) :
    scanFrom? (insideAfter read) reversed (text.flatMap literalChar ++ rest) =
      scanFrom? (insideAfter (text.reverse ++ read)) reversed rest := by
  induction text generalizing read with
  | nil => rfl
  | cons c others inductionHypothesis =>
      rw [List.flatMap_cons, List.append_assoc, scanFrom?_literalChar, inductionHypothesis,
        List.reverse_cons, List.append_assoc, List.singleton_append]

/-- A string literal is the token of its string, whatever characters it has. -/
theorem closed_literal (text : String) : Closed (literal text) [.str text] := by
  intro reversed rest
  have opened : scanFrom? .gap reversed (literal text ++ rest) =
      scanFrom? (insideAfter []) reversed (text.toList.flatMap literalChar ++ ('"' :: rest)) := by
    simp [literal, scanFrom?, step?, start?, isGap, insideAfter, Literal.empty]
  have finished : Literal.finish ⟨text.toList.reverse, none, false⟩ = .str text := by
    simp [Literal.finish]
  rw [opened, scanFrom?_literalChars, List.append_nil, scanFrom?, insideAfter]
  simp [step?, finished]

end Token

/-! ## The tokens of a value -/

open Token

mutual

def tokensOf : Json → List Token
  | .null => [.null]
  | .bool value => [.bool value]
  | .int value => [.int value]
  | .str value => [.str value]
  | .arr [] => [.openBracket, .closeBracket]
  | .arr (item :: items) =>
      [.openBracket] ++ tokensOf item ++ itemTokens items ++ [.closeBracket]
  | .obj [] => [.openBrace, .closeBrace]
  | .obj ((name, value) :: members) =>
      [.openBrace, .str name, .colon] ++ tokensOf value ++ memberTokens members ++ [.closeBrace]
  | .unusable => [.number]

/-- The tokens of the items behind the first. -/
def itemTokens : List Json → List Token
  | [] => []
  | item :: items => [.comma] ++ tokensOf item ++ itemTokens items

/-- The tokens of the members behind the first. -/
def memberTokens : List (String × Json) → List Token
  | [] => []
  | (name, value) :: members =>
      [.comma, .str name, .colon] ++ tokensOf value ++ memberTokens members

end

section Render

variable (layout : Layout)

theorem bounded_renderItems (depth : Nat) (items : List Json) :
    Bounded (renderItems layout depth items) := by
  cases items with
  | nil => exact bounded_nil
  | cons item items => exact bounded_cons rfl rfl _

theorem bounded_renderMembers (depth : Nat) (members : List (String × Json)) :
    Bounded (renderMembers layout depth members) := by
  cases members with
  | nil => exact bounded_nil
  | cons member members => exact bounded_cons rfl rfl _

/-- The name of a member and the colon behind it. -/
theorem closed_name (name : String) :
    Closed (literal name ++ [':'] ++ layout.afterColon) [.str name, .colon] := by
  have colon : Closed [':'] [.colon] := closed_of_start? rfl
  exact ((closed_literal name).append colon).append (closed_afterColon layout)

/-- The mark in front of an item or a member. -/
theorem closed_open {c : Char} {token : Token} (opens : start? c = some (.gap, [token]))
    (depth : Nat) : Closed ([c] ++ layout.newLine depth) [token] :=
  (closed_of_start? opens).append (closed_newLine layout depth)

/-- The end of an array or an object. -/
theorem scans_close {c : Char} {token : Token} (closes : start? c = some (.gap, [token]))
    (depth : Nat) : Scans (layout.newLine depth ++ [c]) [token] :=
  ((closed_newLine layout depth).append (closed_of_start? closes)).scans

/-- Two brackets with nothing between them. -/
theorem scans_empty {c d : Char} {token other : Token} (opens : start? c = some (.gap, [token]))
    (closes : start? d = some (.gap, [other])) : Scans [c, d] [token, other] :=
  ((closed_of_start? opens).append (closed_of_start? closes)).scans

theorem bounded_close {c : Char} (notNumber : isNumberChar c = false)
    (notWord : isWordChar c = false) (depth : Nat) : Bounded (layout.newLine depth ++ [c]) :=
  (bounded_newLine layout depth).append (bounded_cons notNumber notWord [])

mutual

/-- What is printed for a value is scanned as the tokens of the value. -/
theorem scans_render : ∀ (value : Json) (depth : Nat),
    Scans (render layout depth value) (tokensOf value)
  | .null, _ => by
      rw [render, tokensOf]
      exact scans_word rfl (List.all_eq_true.mp rfl) rfl
  | .bool true, _ => by
      rw [render, tokensOf]
      exact scans_word rfl (List.all_eq_true.mp rfl) rfl
  | .bool false, _ => by
      rw [render, tokensOf]
      exact scans_word rfl (List.all_eq_true.mp rfl) rfl
  | .int value, _ => by
      rw [render, tokensOf]
      exact scans_decimalInt value
  | .str value, _ => by
      rw [render, tokensOf]
      exact (closed_literal value).scans
  | .arr [], _ => by
      rw [render, tokensOf]
      exact scans_empty rfl rfl
  | .arr (item :: items), depth => by
      have opens := closed_open layout (c := '[') rfl (depth + 1)
      have closes := scans_close layout (c := ']') rfl depth
      have held := (opens.append_scans (scans_render item (depth + 1))).append
        (scans_renderItems items (depth + 1)) (bounded_renderItems layout _ items)
      rw [render, tokensOf, List.append_assoc]
      exact held.append closes (bounded_close layout rfl rfl depth)
  | .obj [], _ => by
      rw [render, tokensOf]
      exact scans_empty rfl rfl
  | .obj ((name, value) :: members), depth => by
      have opens := closed_open layout (c := '\x7b') rfl (depth + 1)
      have closes := scans_close layout (c := '\x7d') rfl depth
      have begins := opens.append (closed_name layout name)
      simp only [← List.append_assoc] at begins
      have held := (begins.append_scans (scans_render value (depth + 1))).append
        (scans_renderMembers members (depth + 1)) (bounded_renderMembers layout _ members)
      rw [render, tokensOf, List.append_assoc]
      exact held.append closes (bounded_close layout rfl rfl depth)
  | .unusable, _ => by
      rw [render, tokensOf]
      exact scans_number rfl (List.all_eq_true.mp rfl) rfl

theorem scans_renderItems : ∀ (items : List Json) (depth : Nat),
    Scans (renderItems layout depth items) (itemTokens items)
  | [], _ => by
      rw [renderItems, itemTokens]
      exact closed_nil.scans
  | item :: items, depth => by
      have opens := closed_open layout (c := ',') rfl depth
      rw [renderItems, itemTokens]
      exact (opens.append_scans (scans_render item depth)).append (scans_renderItems items depth)
        (bounded_renderItems layout depth items)

theorem scans_renderMembers : ∀ (members : List (String × Json)) (depth : Nat),
    Scans (renderMembers layout depth members) (memberTokens members)
  | [], _ => by
      rw [renderMembers, memberTokens]
      exact closed_nil.scans
  | (name, value) :: members, depth => by
      have opens := closed_open layout (c := ',') rfl depth
      have begins := opens.append (closed_name layout name)
      rw [renderMembers, memberTokens]
      simp only [← List.append_assoc] at begins ⊢
      exact (begins.append_scans (scans_render value depth)).append
        (scans_renderMembers members depth) (bounded_renderMembers layout depth members)

end

end Render

end ImageImport.Json
