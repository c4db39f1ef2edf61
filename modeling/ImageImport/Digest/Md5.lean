import ImageImport.Digest.Scheme

/-!
Contract: the message digest MD5.

Owns: the mixing of a block of sixteen little-endian words in sixty-four steps, and the constants.
-/

namespace ImageImport.Digest.Md5

structure Chain where
  a : UInt32
  b : UInt32
  c : UInt32
  d : UInt32
deriving DecidableEq

/-- The absolute values of the sines of 1, 2, … 64, as fractions of 2^32. -/
def sines : Array UInt32 :=
  #[0xd76aa478, 0xe8c7b756, 0x242070db, 0xc1bdceee, 0xf57c0faf, 0x4787c62a, 0xa8304613, 0xfd469501,
    0x698098d8, 0x8b44f7af, 0xffff5bb1, 0x895cd7be, 0x6b901122, 0xfd987193, 0xa679438e, 0x49b40821,
    0xf61e2562, 0xc040b340, 0x265e5a51, 0xe9b6c7aa, 0xd62f105d, 0x02441453, 0xd8a1e681, 0xe7d3fbc8,
    0x21e1cde6, 0xc33707d6, 0xf4d50d87, 0x455a14ed, 0xa9e3e905, 0xfcefa3f8, 0x676f02d9, 0x8d2a4c8a,
    0xfffa3942, 0x8771f681, 0x6d9d6122, 0xfde5380c, 0xa4beea44, 0x4bdecfa9, 0xf6bb4b60, 0xbebfbc70,
    0x289b7ec6, 0xeaa127fa, 0xd4ef3085, 0x04881d05, 0xd9d4d039, 0xe6db99e5, 0x1fa27cf8, 0xc4ac5665,
    0xf4292244, 0x432aff97, 0xab9423a7, 0xfc93a039, 0x655b59c3, 0x8f0ccc92, 0xffeff47d, 0x85845dd1,
    0x6fa87e4f, 0xfe2ce6e0, 0xa3014314, 0x4e0811a1, 0xf7537e82, 0xbd3af235, 0x2ad7d2bb, 0xeb86d391]

/-- The rotations of the four rounds; each round goes through its own four in turn. -/
def rotations : Array UInt32 :=
  #[7, 12, 17, 22, 5, 9, 14, 20, 4, 11, 16, 23, 6, 10, 15, 21]

def words : List UInt8 → List UInt32
  | b0 :: b1 :: b2 :: b3 :: rest =>
      (b0.toUInt32 ||| (b1.toUInt32 <<< 8) ||| (b2.toUInt32 <<< 16) ||| (b3.toUInt32 <<< 24)) ::
        words rest
  | _ => []

/-- The mixed word and the index of the message word of a step. -/
def mix (chain : Chain) (step : Nat) : UInt32 × Nat :=
  if step < 16 then
    ((chain.b &&& chain.c) ||| (~~~chain.b &&& chain.d), step)
  else if step < 32 then
    ((chain.d &&& chain.b) ||| (~~~chain.d &&& chain.c), (5 * step + 1) % 16)
  else if step < 48 then
    (chain.b ^^^ chain.c ^^^ chain.d, (3 * step + 5) % 16)
  else
    (chain.c ^^^ (chain.b ||| ~~~chain.d), (7 * step) % 16)

def step (message : Array UInt32) (chain : Chain) (n : Nat) : Chain :=
  let (mixed, index) := mix chain n
  let sum := chain.a + mixed + sines.getD n 0 + message.getD index 0
  ⟨chain.d, chain.b + rotateLeft sum (rotations.getD (n / 16 * 4 + n % 4) 0), chain.b, chain.c⟩

def compress (chain : Chain) (block : List UInt8) : Chain :=
  let message := (words block).toArray
  let mixed := (List.range 64).foldl (step message) chain
  ⟨chain.a + mixed.a, chain.b + mixed.b, chain.c + mixed.c, chain.d + mixed.d⟩

def scheme : Scheme Chain where
  initial := ⟨0x67452301, 0xefcdab89, 0x98badcfe, 0x10325476⟩
  compress := compress
  lengthBytes := littleEndian 8
  output chain :=
    [chain.a, chain.b, chain.c, chain.d].flatMap fun word => littleEndian 4 word.toNat

end ImageImport.Digest.Md5
