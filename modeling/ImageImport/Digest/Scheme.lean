/-!
Contract: a digest over blocks of sixty-four bytes, fed in pieces of any size.

Owns: the cutting into blocks, the padding and the count of bytes. A piece is absorbed byte by byte,
so absorbing two pieces is absorbing their concatenation, by `absorb_append`.
Does not own: the mixing of one block, which each scheme brings along.
-/

namespace ImageImport.Digest

structure Scheme (Chain : Type) where
  initial : Chain
  /-- The chaining value after one block of sixty-four bytes. -/
  compress : Chain → List UInt8 → Chain
  /-- The eight bytes that close the padding, for a message of so many bits. -/
  lengthBytes : Nat → List UInt8
  /-- The digest, once the padding is absorbed. -/
  output : Chain → List UInt8

structure Progress (Chain : Type) where
  chain : Chain
  /-- The bytes of the unfinished block, last first. -/
  pending : List UInt8
  filled : Nat
  count : Nat

variable {Chain : Type}

namespace Scheme

def start (scheme : Scheme Chain) : Progress Chain :=
  ⟨scheme.initial, [], 0, 0⟩

def absorbByte (scheme : Scheme Chain) (progress : Progress Chain) (byte : UInt8) :
    Progress Chain :=
  if progress.filled = 63 then
    ⟨scheme.compress progress.chain (byte :: progress.pending).reverse, [], 0, progress.count + 1⟩
  else
    ⟨progress.chain, byte :: progress.pending, progress.filled + 1, progress.count + 1⟩

def absorb (scheme : Scheme Chain) (progress : Progress Chain) (bytes : List UInt8) :
    Progress Chain :=
  bytes.foldl scheme.absorbByte progress

theorem absorb_append (scheme : Scheme Chain) (progress : Progress Chain)
    (first second : List UInt8) :
    scheme.absorb progress (first ++ second) =
      scheme.absorb (scheme.absorb progress first) second := by
  simp [absorb, List.foldl_append]

/-- One set bit, zeros up to eight bytes short of a whole block, and the message length. -/
def padding (scheme : Scheme Chain) (count : Nat) : List UInt8 :=
  0x80 :: (List.replicate ((119 - count % 64) % 64) 0 ++ scheme.lengthBytes (8 * count))

def finish (scheme : Scheme Chain) (progress : Progress Chain) : List UInt8 :=
  scheme.output (scheme.absorb progress (scheme.padding progress.count)).chain

def digest (scheme : Scheme Chain) (bytes : List UInt8) : List UInt8 :=
  scheme.finish (scheme.absorb scheme.start bytes)

end Scheme

def littleEndian : Nat → Nat → List UInt8
  | 0, _ => []
  | width + 1, n => n.toUInt8 :: littleEndian width (n / 256)

def bigEndian (width n : Nat) : List UInt8 :=
  (littleEndian width n).reverse

def rotateLeft (x : UInt32) (places : UInt32) : UInt32 :=
  (x <<< places) ||| (x >>> (32 - places))

def rotateRight (x : UInt32) (places : UInt32) : UInt32 :=
  (x >>> places) ||| (x <<< (32 - places))

end ImageImport.Digest
