import ImageImport.Failure
import ImageImport.Json.Record
import ImageImport.Text.Blank

/-!
Contract: content locators, which name where the bytes of a source came from.

A locator is written `file://`, the path, and up to two digests as a query. The three characters
that would make the query ambiguous are written by their percent codes.

Owns: the written form in both directions, and the domain `Locator.Writable` on which writing and
reading are inverse.
Does not own: whether a digest is the digest of anything.
-/

namespace ImageImport

structure Locator where
  path : String
  md5 : Option String
  sha256 : Option String
deriving DecidableEq, Repr

namespace Locator

def scheme : List Char := "file://".toList

def md5Key : List Char := "MD5".toList

def sha256Key : List Char := "SHA256".toList

def ofPath (path : String) : Locator := ⟨path, none, none⟩

def withMd5 (locator : Locator) (digest : String) : Locator :=
  { locator with md5 := some (Text.toAsciiLower digest) }

def withSha256 (locator : Locator) (digest : String) : Locator :=
  { locator with sha256 := some (Text.toAsciiLower digest) }

def withDigests (locator : Locator) (md5 sha256 : Option String) : Locator :=
  let plain := (md5.map locator.withMd5).getD locator
  (sha256.map plain.withSha256).getD plain

def isSeparator (c : Char) : Bool :=
  c == '/' || c == '\\'

/-- The last component of the path; separators at its end do not count. -/
def name (locator : Locator) : String :=
  let trimmed := Text.trimEnd isSeparator locator.path.toList
  String.ofList (trimmed.reverse.takeWhile fun c => !isSeparator c).reverse

def encodeChar (c : Char) : List Char :=
  if c = '%' then ['%', '2', '5']
  else if c = '?' then ['%', '3', 'F']
  else if c = '&' then ['%', '2', '6']
  else [c]

def encodePath (path : List Char) : List Char :=
  path.flatMap encodeChar

/-- The character that a percent code stands for; its letter may be of either case. -/
def ofPercentCode? (first second : Char) : Option Char :=
  if first = '2' ∧ second = '5' then some '%'
  else if first = '3' ∧ second.toUpper = 'F' then some '?'
  else if first = '2' ∧ second = '6' then some '&'
  else none

def decodePath? : List Char → Option (List Char)
  | [] => some []
  | '%' :: first :: second :: rest =>
      match ofPercentCode? first second with
      | some c => (decodePath? rest).map (c :: ·)
      | none => none
  | c :: rest => if c = '%' then none else (decodePath? rest).map (c :: ·)

def encodeQuery (md5 sha256 : Option String) : List Char :=
  match md5, sha256 with
  | none, none => []
  | some m, none => '?' :: md5Key ++ '=' :: m.toList
  | none, some s => '?' :: sha256Key ++ '=' :: s.toList
  | some m, some s => '?' :: md5Key ++ '=' :: m.toList ++ '&' :: sha256Key ++ '=' :: s.toList

def text (locator : Locator) : String :=
  String.ofList
    (scheme ++ encodePath locator.path.toList ++ encodeQuery locator.md5 locator.sha256)

/-- A locator with one parameter of a query added; a key given again replaces what it gave. -/
def addParameter? (locator : Locator) (parameter : List Char) : Option Locator :=
  match Text.splitFirst? '=' parameter with
  | some (key, value) =>
      if value.isEmpty then none
      else if key = md5Key then some (locator.withMd5 (String.ofList value))
      else if key = sha256Key then some (locator.withSha256 (String.ofList value))
      else none
  | none => none

def addParameters? : Locator → List (List Char) → Option Locator
  | locator, [] => some locator
  | locator, parameter :: rest =>
      match locator.addParameter? parameter with
      | some next => next.addParameters? rest
      | none => none

/-- What the written form denotes, if it is one. -/
def read? (written : List Char) : Option Locator :=
  match Text.dropBeginning? scheme written with
  | none => none
  | some rest =>
      let (path, parameters) : List Char × List (List Char) :=
        match Text.splitFirst? '?' rest with
        | some (path, query) => (path, Text.split '&' query)
        | none => (rest, [])
      if path.isEmpty then none
      else
        match decodePath? path with
        | some decoded => (ofPath (String.ofList decoded)).addParameters? parameters
        | none => none

def parse (written : String) : Except SourceFault Locator :=
  match read? written.toList with
  | some locator => .ok locator
  | none => .error (.malformedLocator written)

/-- A digest that its written form gives back. -/
def WritableDigest (digest : String) : Prop :=
  digest ≠ "" ∧ ∀ c ∈ digest.toList, c ≠ '&' ∧ ¬ ('A' ≤ c ∧ c ≤ 'Z')

instance (digest : String) : Decidable (WritableDigest digest) :=
  @instDecidableAnd _ _ inferInstance (List.decidableBAll _ _)

/-- The locators that their written form gives back. -/
def Writable (locator : Locator) : Prop :=
  locator.path ≠ "" ∧ (∀ digest ∈ locator.md5, WritableDigest digest) ∧
    ∀ digest ∈ locator.sha256, WritableDigest digest

instance (locator : Locator) : Decidable (Writable locator) := by
  unfold Writable
  infer_instance

def toJson (locator : Locator) : Json :=
  .obj [("path", .str locator.path), ("md5", .ofOption .str locator.md5),
    ("sha256", .ofOption .str locator.sha256)]

def ofJson? (value : Json) : Option Locator := do
  let record ← value.record? ["path", "md5", "sha256"]
  let path ← (record.slot "path").required Json.str?
  let md5 ← (record.slot "md5").nullable Json.str?
  let sha256 ← (record.slot "sha256").nullable Json.str?
  return ⟨path, md5, sha256⟩

end Locator

end ImageImport
