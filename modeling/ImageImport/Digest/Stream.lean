import ImageImport.Digest.Md5
import ImageImport.Digest.Sha256
import ImageImport.Failure
import ImageImport.Text.Digits

/-!
Contract: digests of what a reader hands out.

A reader is described by the outcomes of its reads, one after another: some bytes, an interruption,
a fault, or the end, which is a read of no bytes. Interruptions are passed over.

Owns: the reading of a stream to its end, whole or into a digest, with any buffer.
Does not own: where a stream comes from.
-/

namespace ImageImport

inductive ReadOutcome where
  /-- The bytes of one read; none mark the end of the input. -/
  | bytes (chunk : List UInt8)
  | interrupted
  | failed (fault : DeviceFault)
deriving DecidableEq, Repr

/-- The outcomes of reads into a buffer of the given size; past them the input has ended. -/
abbrev Reader := Nat → List ReadOutcome

/-- The list cut into pieces of `size`; the last may be shorter. -/
def chunks {α : Type} (size : Nat) (items : List α) : List (List α) :=
  if items.isEmpty ∨ size = 0 then []
  else items.take size :: chunks size (items.drop size)
termination_by items.length
decreasing_by
  rename_i nonempty
  simp only [List.isEmpty_iff, not_or, ← List.length_eq_zero_iff] at nonempty
  simp only [List.length_drop]
  omega

/-- A reader over bytes in memory fills its buffer at every read. -/
def Reader.ofBytes (bytes : List UInt8) : Reader :=
  fun size => (chunks size bytes).map .bytes

inductive ReadTurn where
  /-- The read hands out no more than so many bytes. -/
  | atMost (count : Nat)
  | interruption
  | fault (fault : DeviceFault)
deriving DecidableEq, Repr

/-- A reader over bytes in memory whose first reads go as told. -/
def Reader.inTurns : List ReadTurn → List UInt8 → Reader
  | [], bytes, size => ofBytes bytes size
  | .atMost count :: rest, bytes, size =>
      .bytes (bytes.take (min count size)) :: inTurns rest (bytes.drop (min count size)) size
  | .interruption :: rest, bytes, size => .interrupted :: inTurns rest bytes size
  | .fault fault :: rest, bytes, size => .failed fault :: inTurns rest bytes size

def Reader.broken (fault : DeviceFault) : Reader :=
  fun _ => [.failed fault]

def ReadOutcome.drain : List ReadOutcome → Except DeviceFault (List UInt8)
  | [] => .ok []
  | .bytes [] :: _ => .ok []
  | .bytes chunk :: rest =>
      match drain rest with
      | .ok more => .ok (chunk ++ more)
      | .error fault => .error fault
  | .interrupted :: rest => drain rest
  | .failed fault :: _ => .error fault

namespace Digest

/-- The buffer size of digests over whole sources. -/
def defaultBufferSize : Nat := 65536

variable {Chain : Type}

/-- The buffer after a read into it: what was read stands in front, and behind it what stood there
before. -/
def refill (chunk buffer : List UInt8) : List UInt8 :=
  chunk ++ buffer.drop chunk.length

/-- Absorbs what is read up to the end of the input. Every read goes into the same buffer, of which
only what the read has filled is absorbed. -/
def Scheme.pump (scheme : Scheme Chain) :
    List UInt8 → Progress Chain → List ReadOutcome → Except DeviceFault (Progress Chain)
  | _, progress, [] => .ok progress
  | _, progress, .bytes [] :: _ => .ok progress
  | buffer, progress, .bytes chunk :: rest =>
      let filled := refill chunk buffer
      scheme.pump filled (scheme.absorb progress (filled.take chunk.length)) rest
  | buffer, progress, .interrupted :: rest => scheme.pump buffer progress rest
  | _, _, .failed fault :: _ => .error fault

def Scheme.hexDigest (scheme : Scheme Chain) (bytes : List UInt8) : String :=
  Text.hexBytes (scheme.digest bytes)

/-- The digest in hexadecimal of what a reader hands out; the buffer has at least one byte. -/
def Scheme.hexDigestOfReader (scheme : Scheme Chain) (reader : Reader) (bufferSize : Nat) :
    Except DeviceFault String :=
  let capacity := max bufferSize 1
  match scheme.pump (List.replicate capacity 0) scheme.start (reader capacity) with
  | .ok progress => .ok (Text.hexBytes (scheme.finish progress))
  | .error fault => .error fault

end Digest

end ImageImport
