import ImageImport.ByteSource
import ImageImport.Program.Change

/-!
Contract: new programs, and what they record of the source they are made of.

The MD5 of the locator is taken over where there is one; the SHA-256 is always that of the bytes.

Owns: the properties that identify a program, and when an image base applies.
-/

namespace ImageImport

namespace Property

def path : String := "Executable Location"

def format : String := "Executable Format"

def md5 : String := "Executable MD5"

def sha256 : String := "Executable SHA256"

def locator : String := "FSRL"

def created : String := "Date Created"

end Property

namespace Program

/-- An image base applies if it is flat and lies in the default space of the program's language. -/
def acceptsImageBase (program : Program) (base : Option Address) : Bool :=
  match base, program.defaultSpace? with
  | some base, some space =>
      !base.isSegmented && space.name == base.space && space.kind == base.kind
  | _, _ => false

/-- Changes the program of a pair. -/
def changing {ω : Type} (change : Program → Except Failure Program) :
    Attempt (Program × ω) Unit :=
  (Attempt.ofChange change).onPart Prod.fst fun whole program => (program, whole.2)

def recordProperty {ω : Type} (key value : String) : Attempt (Program × ω) Unit :=
  changing fun program => program.setProperty key value

/-- The digest of a source, beside the count of its opened streams. -/
def digesting {Chain : Type} (source : ByteSource) (scheme : Digest.Scheme Chain) :
    Attempt (Program × Nat) String :=
  .of fun (program, opened) => (source.hexDigest scheme opened, program, opened + 1)

/-- Records where a source came from and what it is, in a program with an open transaction. -/
def recordIdentity (source : ByteSource) (format : Option String) (createdAt : String) :
    Attempt (Program × Nat) Unit := do
  if let some path := source.path then recordProperty Property.path path
  if let some format := format then recordProperty Property.format format
  let known := source.locator.bind Locator.md5
  let md5 ← match known with
    | some md5 => pure md5
    | none => digesting source Digest.Md5.scheme
  if let some locator := source.locator then
    let stored := if locator.md5.isNone then locator.withMd5 md5 else locator
    recordProperty Property.locator stored.text
  recordProperty Property.md5 md5
  let sha256 ← digesting source Digest.Sha256.scheme
  recordProperty Property.sha256 sha256
  recordProperty Property.created createdAt

/-- Records the identity and sets the image base where it applies. -/
def recordOrigin (source : ByteSource) (base : Option Address) (format : Option String)
    (createdAt : String) : Attempt (Program × Nat) Unit := do
  recordIdentity source format createdAt
  let (program, _) ← get
  match base with
  | some base =>
      if program.acceptsImageBase (some base) then
        changing fun program => program.setImageBase base
  | none => pure ()

/-- A program of a source, whose listeners hear of nothing yet. The state counts opened streams. -/
def create (source : ByteSource) (fallbackName : String) (base : Option Address)
    (format : Option String) (language : Language) (compiler : String) (consumer : Consumer)
    (createdAt : String) : Attempt Nat Program :=
  .of fun opened =>
    let program :=
      (make (source.programName fallbackName) language compiler consumer).setEventsEnabled false
    let body (program : Program) : (Except Failure Unit × Nat) × Program :=
      let (result, worked, opened) :=
        (recordOrigin source base format createdAt).apply (program, opened)
      ((result, opened), worked)
    match program.bracket "Set program properties" body fun _ => true with
    | .error failure => (.error failure, opened)
    | .ok ((result, opened), ended, finished) =>
        match beforeEnd result ended with
        | .ok () => (.ok finished, opened)
        | .error failure => (.error failure, opened)

end Program

end ImageImport
