import ImageImport.Digest.Scheme

/-!
Contract: the message digest SHA-256.

Owns: the schedule of sixty-four words, the compression of a block and the constants.
-/

namespace ImageImport.Digest.Sha256

structure Chain where
  a : UInt32
  b : UInt32
  c : UInt32
  d : UInt32
  e : UInt32
  f : UInt32
  g : UInt32
  h : UInt32
deriving DecidableEq

/-- The fractions of the cube roots of the first sixty-four primes. -/
def roundConstants : Array UInt32 :=
  #[0x428a2f98, 0x71374491, 0xb5c0fbcf, 0xe9b5dba5, 0x3956c25b, 0x59f111f1, 0x923f82a4, 0xab1c5ed5,
    0xd807aa98, 0x12835b01, 0x243185be, 0x550c7dc3, 0x72be5d74, 0x80deb1fe, 0x9bdc06a7, 0xc19bf174,
    0xe49b69c1, 0xefbe4786, 0x0fc19dc6, 0x240ca1cc, 0x2de92c6f, 0x4a7484aa, 0x5cb0a9dc, 0x76f988da,
    0x983e5152, 0xa831c66d, 0xb00327c8, 0xbf597fc7, 0xc6e00bf3, 0xd5a79147, 0x06ca6351, 0x14292967,
    0x27b70a85, 0x2e1b2138, 0x4d2c6dfc, 0x53380d13, 0x650a7354, 0x766a0abb, 0x81c2c92e, 0x92722c85,
    0xa2bfe8a1, 0xa81a664b, 0xc24b8b70, 0xc76c51a3, 0xd192e819, 0xd6990624, 0xf40e3585, 0x106aa070,
    0x19a4c116, 0x1e376c08, 0x2748774c, 0x34b0bcb5, 0x391c0cb3, 0x4ed8aa4a, 0x5b9cca4f, 0x682e6ff3,
    0x748f82ee, 0x78a5636f, 0x84c87814, 0x8cc70208, 0x90befffa, 0xa4506ceb, 0xbef9a3f7, 0xc67178f2]

def words : List UInt8 → List UInt32
  | b0 :: b1 :: b2 :: b3 :: rest =>
      ((b0.toUInt32 <<< 24) ||| (b1.toUInt32 <<< 16) ||| (b2.toUInt32 <<< 8) ||| b3.toUInt32) ::
        words rest
  | _ => []

def extend (schedule : Array UInt32) (n : Nat) : Array UInt32 :=
  let early := schedule.getD (n - 15) 0
  let late := schedule.getD (n - 2) 0
  let small0 := rotateRight early 7 ^^^ rotateRight early 18 ^^^ (early >>> 3)
  let small1 := rotateRight late 17 ^^^ rotateRight late 19 ^^^ (late >>> 10)
  schedule.push (schedule.getD (n - 16) 0 + small0 + schedule.getD (n - 7) 0 + small1)

def schedule (block : List UInt8) : Array UInt32 :=
  (List.range' 16 48).foldl extend (words block).toArray

def round (schedule : Array UInt32) (chain : Chain) (n : Nat) : Chain :=
  let big1 := rotateRight chain.e 6 ^^^ rotateRight chain.e 11 ^^^ rotateRight chain.e 25
  let chosen := (chain.e &&& chain.f) ^^^ (~~~chain.e &&& chain.g)
  let first := chain.h + big1 + chosen + roundConstants.getD n 0 + schedule.getD n 0
  let big0 := rotateRight chain.a 2 ^^^ rotateRight chain.a 13 ^^^ rotateRight chain.a 22
  let majority := (chain.a &&& chain.b) ^^^ (chain.a &&& chain.c) ^^^ (chain.b &&& chain.c)
  ⟨first + (big0 + majority), chain.a, chain.b, chain.c, chain.d + first, chain.e, chain.f, chain.g⟩

def compress (chain : Chain) (block : List UInt8) : Chain :=
  let mixed := (List.range 64).foldl (round (schedule block)) chain
  ⟨chain.a + mixed.a, chain.b + mixed.b, chain.c + mixed.c, chain.d + mixed.d,
    chain.e + mixed.e, chain.f + mixed.f, chain.g + mixed.g, chain.h + mixed.h⟩

def scheme : Scheme Chain where
  initial :=
    ⟨0x6a09e667, 0xbb67ae85, 0x3c6ef372, 0xa54ff53a, 0x510e527f, 0x9b05688c, 0x1f83d9ab,
      0x5be0cd19⟩
  compress := compress
  lengthBytes := bigEndian 8
  output chain :=
    [chain.a, chain.b, chain.c, chain.d, chain.e, chain.f, chain.g, chain.h].flatMap
      fun word => bigEndian 4 word.toNat

end ImageImport.Digest.Sha256
