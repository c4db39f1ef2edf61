import ImageImport.Digest.Stream
import ImageImport.Locator

/-!
Contract: the bytes being loaded, with what is known of their origin.

A source does not change. It can be read exactly, or streamed any number of times; opening a stream
may depend on how many were opened before, so that a source can fail at one of them.

Owns: the bounds of reads and streams, the name that a source gives a program.
Does not own: the opening of files.
-/

namespace ImageImport

structure ByteSource where
  bytes : List UInt8
  /-- The absolute path of the file behind the source. -/
  path : Option String
  locator : Option Locator
  /-- What every exact read answers instead of bytes. -/
  readFault : Option SourceFault
  /-- The stream opened at an offset, given how many were opened before. -/
  openStream : Nat → UInt64 → Except SourceFault Reader

namespace ByteSource

def checkBounds (offset length size : UInt64) : Except SourceFault Unit :=
  if offset.toNat + length.toNat ≤ size.toNat then .ok ()
  else .error (.outOfBounds offset length size)

def streamOf (bytes : List UInt8) (offset : UInt64) : Except SourceFault Reader :=
  match checkBounds offset 0 bytes.length.toUInt64 with
  | .ok () => .ok (Reader.ofBytes (bytes.drop offset.toNat))
  | .error fault => .error fault

/-- A source held in memory, of unknown origin. -/
def ofBytes (bytes : List UInt8) : ByteSource :=
  ⟨bytes, none, none, none, fun _ offset => streamOf bytes offset⟩

/-- A source with a locator, whose path is also the path of the source. -/
def withLocator (source : ByteSource) (locator : Locator) : ByteSource :=
  { source with locator := some locator, path := some locator.path }

def withPath (source : ByteSource) (path : String) : ByteSource :=
  { source with path := some path }

def failingReads (source : ByteSource) (fault : DeviceFault) : ByteSource :=
  { source with readFault := some (.device fault) }

/-- A source of which one stream, by its number from one on, fails at its first read. -/
def failingStream (source : ByteSource) (number : Option Nat) (fault : DeviceFault) :
    ByteSource :=
  { source with
    openStream := fun opened offset =>
      if number = some (opened + 1) then .ok (Reader.broken fault)
      else source.openStream opened offset }

def size (source : ByteSource) : UInt64 :=
  source.bytes.length.toUInt64

def isEmpty (source : ByteSource) : Bool :=
  source.size == 0

def read (source : ByteSource) (offset length : UInt64) : Except SourceFault (List UInt8) :=
  match source.readFault with
  | some fault => .error fault
  | none =>
      match checkBounds offset length source.size with
      | .ok () => .ok ((source.bytes.drop offset.toNat).take length.toNat)
      | .error fault => .error fault

/-- The name of a program made of the source: the file name of its locator, where it has one. -/
def programName (source : ByteSource) (fallback : String) : String :=
  match source.locator with
  | some locator => locator.name
  | none => fallback

def originText (source : ByteSource) : String :=
  match source.locator with
  | some locator => locator.text
  | none => source.path.getD "memory"

def hexDigest {Chain : Type} (source : ByteSource) (scheme : Digest.Scheme Chain) (opened : Nat) :
    Except Failure String :=
  match source.openStream opened 0 with
  | .error fault => .error (.source fault)
  | .ok reader =>
      match scheme.hexDigestOfReader reader Digest.defaultBufferSize with
      | .ok digest => .ok digest
      | .error fault => .error (.device fault)

end ByteSource

end ImageImport
