import Resharing.Bytes

/-!
# SHA-256 and SHA-512

Both digests follow one rule over words of 32 or 64 bits: the message is padded to
whole blocks of sixteen words, and each block is mixed into eight registers in as
many rounds as there are constants. A `Variant` holds what differs.

## Main definitions

* `Sha2.Variant`, `Sha2.short`, `Sha2.long`: the two kinds
* `Sha2.digest`: the digest of some bytes
-/

namespace Resharing.Sha2

/-- The eight registers. -/
structure Registers (w : Nat) where
  a : BitVec w
  b : BitVec w
  c : BitVec w
  d : BitVec w
  e : BitVec w
  f : BitVec w
  g : BitVec w
  h : BitVec w

namespace Registers

variable {w : Nat}

/-- Registers are added one by one. -/
def add (left right : Registers w) : Registers w :=
  ⟨left.a + right.a, left.b + right.b, left.c + right.c, left.d + right.d,
    left.e + right.e, left.f + right.f, left.g + right.g, left.h + right.h⟩

def toList (registers : Registers w) : List (BitVec w) :=
  [registers.a, registers.b, registers.c, registers.d,
    registers.e, registers.f, registers.g, registers.h]

end Registers

/-- What tells the digests over words of one width apart. -/
structure Variant (w : Nat) where
  /-- The registers before the first block. -/
  start : Registers w
  constants : List (BitVec w)
  /-- Mixes the first register of a round. -/
  mixA : BitVec w → BitVec w
  /-- Mixes the fifth register of a round. -/
  mixE : BitVec w → BitVec w
  /-- Mixes an early word of the schedule. -/
  mixEarly : BitVec w → BitVec w
  mixLate : BitVec w → BitVec w

/-- The exclusive or of three rotations to the right. -/
def rotations {w : Nat} (i j k : Nat) (word : BitVec w) : BitVec w :=
  word.rotateRight i ^^^ word.rotateRight j ^^^ word.rotateRight k

/-- The exclusive or of two rotations and a shift to the right. -/
def rotationsShift {w : Nat} (i j k : Nat) (word : BitVec w) : BitVec w :=
  word.rotateRight i ^^^ word.rotateRight j ^^^ word >>> k

/-- The constants over words of 32 bits: the fractional parts of the cube roots of the
first primes. -/
def shortConstants : List (BitVec 32) :=
  [0x428a2f98, 0x71374491, 0xb5c0fbcf, 0xe9b5dba5, 0x3956c25b, 0x59f111f1,
   0x923f82a4, 0xab1c5ed5, 0xd807aa98, 0x12835b01, 0x243185be, 0x550c7dc3,
   0x72be5d74, 0x80deb1fe, 0x9bdc06a7, 0xc19bf174, 0xe49b69c1, 0xefbe4786,
   0x0fc19dc6, 0x240ca1cc, 0x2de92c6f, 0x4a7484aa, 0x5cb0a9dc, 0x76f988da,
   0x983e5152, 0xa831c66d, 0xb00327c8, 0xbf597fc7, 0xc6e00bf3, 0xd5a79147,
   0x06ca6351, 0x14292967, 0x27b70a85, 0x2e1b2138, 0x4d2c6dfc, 0x53380d13,
   0x650a7354, 0x766a0abb, 0x81c2c92e, 0x92722c85, 0xa2bfe8a1, 0xa81a664b,
   0xc24b8b70, 0xc76c51a3, 0xd192e819, 0xd6990624, 0xf40e3585, 0x106aa070,
   0x19a4c116, 0x1e376c08, 0x2748774c, 0x34b0bcb5, 0x391c0cb3, 0x4ed8aa4a,
   0x5b9cca4f, 0x682e6ff3, 0x748f82ee, 0x78a5636f, 0x84c87814, 0x8cc70208,
   0x90befffa, 0xa4506ceb, 0xbef9a3f7, 0xc67178f2]

/-- The digest of 256 bits. It starts from the fractional parts of the square roots of
the first primes. -/
def short : Variant 32 where
  start := ⟨0x6a09e667, 0xbb67ae85, 0x3c6ef372, 0xa54ff53a, 0x510e527f, 0x9b05688c,
    0x1f83d9ab, 0x5be0cd19⟩
  constants := shortConstants
  mixA := rotations 2 13 22
  mixE := rotations 6 11 25
  mixEarly := rotationsShift 7 18 3
  mixLate := rotationsShift 17 19 10

/-- The constants over words of 64 bits: the fractional parts of the cube roots of the
first primes. -/
def longConstants : List (BitVec 64) :=
  [0x428a2f98d728ae22, 0x7137449123ef65cd, 0xb5c0fbcfec4d3b2f,
   0xe9b5dba58189dbbc, 0x3956c25bf348b538, 0x59f111f1b605d019,
   0x923f82a4af194f9b, 0xab1c5ed5da6d8118, 0xd807aa98a3030242,
   0x12835b0145706fbe, 0x243185be4ee4b28c, 0x550c7dc3d5ffb4e2,
   0x72be5d74f27b896f, 0x80deb1fe3b1696b1, 0x9bdc06a725c71235,
   0xc19bf174cf692694, 0xe49b69c19ef14ad2, 0xefbe4786384f25e3,
   0x0fc19dc68b8cd5b5, 0x240ca1cc77ac9c65, 0x2de92c6f592b0275,
   0x4a7484aa6ea6e483, 0x5cb0a9dcbd41fbd4, 0x76f988da831153b5,
   0x983e5152ee66dfab, 0xa831c66d2db43210, 0xb00327c898fb213f,
   0xbf597fc7beef0ee4, 0xc6e00bf33da88fc2, 0xd5a79147930aa725,
   0x06ca6351e003826f, 0x142929670a0e6e70, 0x27b70a8546d22ffc,
   0x2e1b21385c26c926, 0x4d2c6dfc5ac42aed, 0x53380d139d95b3df,
   0x650a73548baf63de, 0x766a0abb3c77b2a8, 0x81c2c92e47edaee6,
   0x92722c851482353b, 0xa2bfe8a14cf10364, 0xa81a664bbc423001,
   0xc24b8b70d0f89791, 0xc76c51a30654be30, 0xd192e819d6ef5218,
   0xd69906245565a910, 0xf40e35855771202a, 0x106aa07032bbd1b8,
   0x19a4c116b8d2d0c8, 0x1e376c085141ab53, 0x2748774cdf8eeb99,
   0x34b0bcb5e19b48a8, 0x391c0cb3c5c95a63, 0x4ed8aa4ae3418acb,
   0x5b9cca4f7763e373, 0x682e6ff3d6b2b8a3, 0x748f82ee5defb2fc,
   0x78a5636f43172f60, 0x84c87814a1f0ab72, 0x8cc702081a6439ec,
   0x90befffa23631e28, 0xa4506cebde82bde9, 0xbef9a3f7b2c67915,
   0xc67178f2e372532b, 0xca273eceea26619c, 0xd186b8c721c0c207,
   0xeada7dd6cde0eb1e, 0xf57d4f7fee6ed178, 0x06f067aa72176fba,
   0x0a637dc5a2c898a6, 0x113f9804bef90dae, 0x1b710b35131c471b,
   0x28db77f523047d84, 0x32caab7b40c72493, 0x3c9ebe0a15c9bebc,
   0x431d67c49c100d4c, 0x4cc5d4becb3e42b6, 0x597f299cfc657e2a,
   0x5fcb6fab3ad6faec, 0x6c44198c4a475817]

/-- The digest of 512 bits. It starts from the fractional parts of the square roots of
the first primes. -/
def long : Variant 64 where
  start := ⟨0x6a09e667f3bcc908, 0xbb67ae8584caa73b, 0x3c6ef372fe94f82b,
    0xa54ff53a5f1d36f1, 0x510e527fade682d1, 0x9b05688c2b3e6c1f,
    0x1f83d9abfb41bd6b, 0x5be0cd19137e2179⟩
  constants := longConstants
  mixA := rotations 28 34 39
  mixE := rotations 14 18 41
  mixEarly := rotationsShift 1 8 7
  mixLate := rotationsShift 19 61 6

/-! ### Words and bytes -/

/-- The word whose bytes are given, highest first. -/
def wordOfBytes (w : Nat) (bytes : Bytes) : BitVec w :=
  BitVec.ofNat w (bytes.foldl (fun value byte => value * 256 + byte.toNat) 0)

/-- The lowest `count` bytes of a number, highest first. -/
def bytesOfNat (count value : Nat) : Bytes :=
  (List.range count).map fun i => UInt8.ofNat (value / Nat.pow 256 (count - 1 - i))

/-- The bytes of a word, highest first. -/
def bytesOfWord {w : Nat} (word : BitVec w) : Bytes := bytesOfNat (w / 8) word.toNat

/-- Bytes in groups of `size + 1`; the last group may be shorter. -/
def groups (size : Nat) (bytes : Bytes) : List Bytes :=
  match bytes with
  | [] => []
  | byte :: rest => (byte :: rest.take size) :: groups size (rest.drop size)
termination_by bytes.length
decreasing_by simp only [List.length_drop, List.length_cons]; omega

/-- A message filled up to whole blocks: a single bit, zeros, and its length in bits. -/
def pad (w : Nat) (message : Bytes) : Bytes :=
  let block := 2 * w
  let used := message.length + 1 + w / 4
  let zeros := (block - used % block) % block
  message ++ 0x80 :: (List.replicate zeros 0 ++ bytesOfNat (w / 4) (8 * message.length))

/-! ### Rounds -/

section

variable {w : Nat} (variant : Variant w)

/-- One round with a constant and a word of the schedule. -/
def round (registers : Registers w) (constant word : BitVec w) : Registers w :=
  let ⟨a, b, c, d, e, f, g, h⟩ := registers
  let chosen := (e &&& f) ^^^ (~~~e &&& g)
  let majority := (a &&& b) ^^^ (a &&& c) ^^^ (b &&& c)
  let first := h + variant.mixE e + chosen + constant + word
  let second := variant.mixA a + majority
  ⟨first + second, a, b, c, d + first, e, f, g⟩

/-- The word that joins the schedule behind the given sixteen. -/
def nextWord (window : List (BitVec w)) : BitVec w :=
  variant.mixLate (window.getD 14 0) + window.getD 9 0 + variant.mixEarly (window.getD 1 0) +
    window.getD 0 0

/-- The rounds of a block, each with the first of the next sixteen words. -/
def rounds (registers : Registers w) (window : List (BitVec w)) :
    List (BitVec w) → Registers w
  | [] => registers
  | constant :: constants =>
    rounds (round variant registers constant (window.getD 0 0))
      (window.drop 1 ++ [nextWord variant window]) constants

/-- Mixes a block into the registers. -/
def absorb (registers : Registers w) (block : Bytes) : Registers w :=
  let words := (groups (w / 8 - 1) block).map (wordOfBytes w)
  registers.add (rounds variant registers words variant.constants)

def digest (message : Bytes) : Bytes :=
  let blocks := groups (2 * w - 1) (pad w message)
  (blocks.foldl (absorb variant) variant.start).toList.flatMap bytesOfWord

end

end Resharing.Sha2
