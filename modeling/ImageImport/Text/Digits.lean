/-!
Contract: numbers as runs of digits, written and read in any base up to sixteen.

Owns:
* the canonical numeral of a natural number: no sign, no leading zero, lower-case letters;
* the reading of a run of digits, leading zeros and either case accepted;
* the readers of bounded numbers with an optional sign.

Does not own: what surrounds a number in a larger text, such as the mark `0x` in an address.
-/

namespace ImageImport.Text

def digit (value : Nat) : Char :=
  if value < 10 then Char.ofNat (48 + value) else Char.ofNat (87 + value)

/-- The value of a digit of the given base; letters count from ten, in either case. -/
def digitValue? (base : Nat) (c : Char) : Option Nat :=
  let value :=
    if '0' ≤ c ∧ c ≤ '9' then c.toNat - 48
    else if 'a' ≤ c ∧ c ≤ 'f' then c.toNat - 87
    else if 'A' ≤ c ∧ c ≤ 'F' then c.toNat - 55
    else base
  if value < base then some value else none

/-- The digits of `n`, most significant first; zero is one digit. -/
def numeral (base n : Nat) : List Char :=
  if n < base ∨ base < 2 then [digit n]
  else numeral base (n / base) ++ [digit (n % base)]
termination_by n
decreasing_by
  exact Nat.div_lt_self (by omega) (by omega)

/-- The number that a run of digits denotes, continuing from the digits read so far. -/
def readDigits? (base : Nat) : Nat → List Char → Option Nat
  | value, [] => some value
  | value, c :: rest =>
      match digitValue? base c with
      | some d => readDigits? base (value * base + d) rest
      | none => none

/-- The number written by one or more digits and nothing else. -/
def readNumeral? (base : Nat) : List Char → Option Nat
  | [] => none
  | digits => readDigits? base 0 digits

/-- The text without one leading plus sign, where it has one. -/
def dropPlus : List Char → List Char
  | '+' :: rest => rest
  | text => text

/-- A number below `bound`, with an optional plus sign. -/
def readBelow? (base bound : Nat) (text : List Char) : Option Nat :=
  match readNumeral? base (dropPlus text) with
  | some value => if value < bound then some value else none
  | none => none

/-- A decimal integer of 64 bits, with an optional sign of either kind. -/
def readInt64? (text : List Char) : Option Int64 :=
  let value : Option Int :=
    match text with
    | '-' :: digits => (readNumeral? 10 digits).map fun n => -(n : Int)
    | _ => (readNumeral? 10 (dropPlus text)).map Int.ofNat
  match value with
  | some i =>
      if Int64.minValue.toInt ≤ i ∧ i ≤ Int64.maxValue.toInt then some (Int64.ofInt i) else none
  | none => none

def decimal (n : Nat) : String :=
  String.ofList (numeral 10 n)

/-- An integer in decimal, with a minus sign below zero. -/
def decimalInt : Int → String
  | .ofNat n => decimal n
  | .negSucc n => "-" ++ decimal (n + 1)

/-- A number in hexadecimal, after the mark `0x`. -/
def hex (n : Nat) : String :=
  "0x" ++ String.ofList (numeral 16 n)

/-- A number in bare hexadecimal, with zeros in front up to `width` digits. -/
def hexPadded (width n : Nat) : String :=
  let digits := numeral 16 n
  String.ofList (List.replicate (width - digits.length) '0' ++ digits)

def hexBytes (bytes : List UInt8) : String :=
  String.ofList
    (bytes.flatMap fun byte => [digit (byte.toNat / 16), digit (byte.toNat % 16)])

def readHexBytes? : List Char → Option (List UInt8)
  | [] => some []
  | [_] => none
  | high :: low :: rest =>
      match readDigits? 16 0 [high, low], readHexBytes? rest with
      | some value, some bytes => some (value.toUInt8 :: bytes)
      | _, _ => none

end ImageImport.Text
