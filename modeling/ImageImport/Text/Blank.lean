/-!
Contract: which characters are blank and which are control characters, and the trimming of blanks.

Owns: the Unicode property White_Space and the Unicode category Cc, each as a decision on characters.
Does not own: the separators of a particular format; JSON, for one, has four blanks of its own.
-/

namespace ImageImport.Text

/-- The characters with the property White_Space; there are twenty-five of them. -/
def isBlank (c : Char) : Bool :=
  let n := c.toNat
  (0x9 ≤ n && n ≤ 0xd) || n == 0x20 || n == 0x85 || n == 0xa0 || n == 0x1680 ||
    (0x2000 ≤ n && n ≤ 0x200a) || n == 0x2028 || n == 0x2029 || n == 0x202f ||
    n == 0x205f || n == 0x3000

/-- The characters of the category Cc: two blocks of thirty-two and the delete character. -/
def isControl (c : Char) : Bool :=
  let n := c.toNat
  n ≤ 0x1f || (0x7f ≤ n && n ≤ 0x9f)

/-- The list without its longest ending of characters that satisfy `drop`. -/
def trimEnd (drop : Char → Bool) (text : List Char) : List Char :=
  (text.reverse.dropWhile drop).reverse

def trim (text : List Char) : List Char :=
  trimEnd isBlank (text.dropWhile isBlank)

/-- The pieces between the separators; there is one more piece than there are separators. -/
def split (separator : Char) : List Char → List (List Char)
  | [] => [[]]
  | c :: rest =>
      if c = separator then [] :: split separator rest
      else
        match split separator rest with
        | piece :: pieces => (c :: piece) :: pieces
        | [] => [[c]]

/-- The text before and after the first separator, where there is one. -/
def splitFirst? (separator : Char) : List Char → Option (List Char × List Char)
  | [] => none
  | c :: rest =>
      if c = separator then some ([], rest)
      else (splitFirst? separator rest).map fun (before, after) => (c :: before, after)

/-- The text after a given beginning, where it begins so. -/
def dropBeginning? : List Char → List Char → Option (List Char)
  | [], text => some text
  | _ :: _, [] => none
  | b :: beginning, c :: text => if b = c then dropBeginning? beginning text else none

/-- ASCII letters in lower case; every other character as it is. -/
def toAsciiLower (text : String) : String :=
  String.ofList (text.toList.map Char.toLower)

end ImageImport.Text
