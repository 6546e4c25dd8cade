import Resharing.Bytes

/-!
# BLAKE3

A message is cut into chunks of 1024 bytes and each chunk into blocks of 64. The
blocks of a chunk are compressed one after the other into eight words, and the
chunks are joined as the leaves of a binary tree whose left sides are whole powers
of two. The last compression is marked as the root and gives the digest.

## Main definitions

* `Blake3.compress`: the compression of one block
* `Blake3.Node`: a compression that is not yet marked as root or inner
* `Blake3.digest`: the digest of some bytes
-/

namespace Resharing.Blake3

/-- The eight words that compressions hand on. -/
structure Chain where
  a : UInt32
  b : UInt32
  c : UInt32
  d : UInt32
  e : UInt32
  f : UInt32
  g : UInt32
  h : UInt32

def Chain.toList (chain : Chain) : List UInt32 :=
  [chain.a, chain.b, chain.c, chain.d, chain.e, chain.f, chain.g, chain.h]

def start : Chain :=
  ⟨0x6a09e667, 0xbb67ae85, 0x3c6ef372, 0xa54ff53a, 0x510e527f, 0x9b05688c, 0x1f83d9ab,
    0x5be0cd19⟩

def rotate (word count : UInt32) : UInt32 := word >>> count ||| word <<< (32 - count)

/-- Four words that are mixed together. -/
structure Column where
  a : UInt32
  b : UInt32
  c : UInt32
  d : UInt32

/-- Mixes four words with two words of the message. -/
def Column.mix (column : Column) (x y : UInt32) : Column :=
  let a := column.a + column.b + x
  let d := rotate (column.d ^^^ a) 16
  let c := column.c + d
  let b := rotate (column.b ^^^ c) 12
  let a := a + b + y
  let d := rotate (d ^^^ a) 8
  let c := c + d
  let b := rotate (b ^^^ c) 7
  ⟨a, b, c, d⟩

/-- The sixteen words of a compression as four columns. -/
structure Square where
  first : Column
  second : Column
  third : Column
  fourth : Column

namespace Square

/-- Moves every row to the left by its number, so that diagonals become columns. -/
def slant (square : Square) : Square :=
  let ⟨p, q, r, s⟩ := square
  ⟨⟨p.a, q.b, r.c, s.d⟩, ⟨q.a, r.b, s.c, p.d⟩, ⟨r.a, s.b, p.c, q.d⟩, ⟨s.a, p.b, q.c, r.d⟩⟩

def straighten (square : Square) : Square :=
  let ⟨p, q, r, s⟩ := square
  ⟨⟨p.a, s.b, r.c, q.d⟩, ⟨q.a, p.b, s.c, r.d⟩, ⟨r.a, q.b, p.c, s.d⟩, ⟨s.a, r.b, q.c, p.d⟩⟩

/-- Mixes the columns with eight words of the message. -/
def mixColumns (square : Square) (word : Nat → UInt32) : Square :=
  ⟨square.first.mix (word 0) (word 1), square.second.mix (word 2) (word 3),
    square.third.mix (word 4) (word 5), square.fourth.mix (word 6) (word 7)⟩

/-- One round: the columns with the first half of the message, then the diagonals
with the second. -/
def round (square : Square) (message : Array UInt32) : Square :=
  ((square.mixColumns fun i => message.getD i 0).slant.mixColumns
    fun i => message.getD (8 + i) 0).straighten

end Square

/-- Where the words of the next round's message come from. -/
def order : List Nat := [2, 6, 3, 10, 7, 0, 4, 13, 1, 11, 12, 5, 9, 14, 15, 8]

def permute (message : Array UInt32) : Array UInt32 :=
  (order.map fun i => message.getD i 0).toArray

/-- Some rounds, with the message permuted between them. -/
def rounds : Nat → Square → Array UInt32 → Square
  | 0, square, _ => square
  | count + 1, square, message => rounds count (square.round message) (permute message)

/-- Marks that tell compressions apart. -/
structure Marks where
  chunkStart : Bool
  chunkEnd : Bool
  parent : Bool

/-- The marks as a word, with the mark of the root. -/
def Marks.word (marks : Marks) (root : Bool) : UInt32 :=
  (if marks.chunkStart then 1 else 0) + (if marks.chunkEnd then 2 else 0) +
    (if marks.parent then 4 else 0) + (if root then 8 else 0)

/-- A compression that is still to be marked as root or not. -/
structure Node where
  chain : Chain
  block : Array UInt32
  counter : UInt64
  /-- How many bytes of the block belong to the message. -/
  length : UInt32
  marks : Marks

/-- The words that a compression hands on. -/
def Node.compress (node : Node) (root : Bool) : Chain :=
  let chain := node.chain
  let low := node.counter.toUInt32
  let high := (node.counter >>> 32).toUInt32
  let square : Square :=
    ⟨⟨chain.a, chain.e, start.a, low⟩, ⟨chain.b, chain.f, start.b, high⟩,
      ⟨chain.c, chain.g, start.c, node.length⟩,
      ⟨chain.d, chain.h, start.d, node.marks.word root⟩⟩
  let ⟨p, q, r, s⟩ := rounds 7 square node.block
  ⟨p.a ^^^ p.c, q.a ^^^ q.c, r.a ^^^ r.c, s.a ^^^ s.c, p.b ^^^ p.d, q.b ^^^ q.d, r.b ^^^ r.d,
    s.b ^^^ s.d⟩

/-! ### Chunks -/

/-- The words whose bytes are given, lowest first; missing bytes are zero. -/
def wordsOfBytes : Nat → Bytes → List UInt32
  | 0, _ => []
  | count + 1, bytes =>
    let byte (i : Nat) : UInt32 := (bytes.getD i 0).toUInt32
    (byte 0 ||| byte 1 <<< 8 ||| byte 2 <<< 16 ||| byte 3 <<< 24) ::
      wordsOfBytes count (bytes.drop 4)

/-- The bytes of a word, lowest first. -/
def bytesOfWord (word : UInt32) : Bytes :=
  [word.toUInt8, (word >>> 8).toUInt8, (word >>> 16).toUInt8, (word >>> 24).toUInt8]

/-- The last node of a chunk, from the words that its blocks so far hand on. -/
def chunkFrom (counter : UInt64) (chain : Chain) (first : Bool) (bytes : Bytes) : Node :=
  let words := (wordsOfBytes 16 bytes).toArray
  -- Only the last block of a chunk may be short, and only an empty message has an empty one.
  if _ : bytes.length ≤ 64 then
    ⟨chain, words, counter, UInt32.ofNat bytes.length, ⟨first, true, false⟩⟩
  else
    let node : Node := ⟨chain, words, counter, 64, ⟨first, false, false⟩⟩
    chunkFrom counter (node.compress false) false (bytes.drop 64)
termination_by bytes.length
decreasing_by simp only [List.length_drop]; omega

def chunk (counter : UInt64) (bytes : Bytes) : Node := chunkFrom counter start true bytes

/-! ### The tree -/

def join (left right : Chain) : Node :=
  ⟨start, (left.toList ++ right.toList).toArray, 0, 64, ⟨false, false, true⟩⟩

/-- How many of two or more chunks stand on the left side: the greatest power of two
below their number. -/
def leftChunks (chunks : Nat) : Nat := Nat.pow 2 (chunks - 1).log2

theorem leftChunks_lt {chunks : Nat} (several : 1 < chunks) : leftChunks chunks < chunks := by
  have le : Nat.pow 2 (chunks - 1).log2 ≤ chunks - 1 := Nat.log2_self_le (by omega)
  exact Nat.lt_of_le_of_lt le (by omega)

theorem leftChunks_pos (chunks : Nat) : 0 < leftChunks chunks := Nat.two_pow_pos _

/-- The node over a number of chunks, the first of which has the given number. -/
def tree (counter chunks : Nat) (bytes : Bytes) : Node :=
  if several : 1 < chunks then
    let left := leftChunks chunks
    have below : left < chunks := leftChunks_lt several
    have positive : 0 < left := leftChunks_pos chunks
    join ((tree counter left (bytes.take (1024 * left))).compress false)
      ((tree (counter + left) (chunks - left) (bytes.drop (1024 * left))).compress false)
  else chunk (UInt64.ofNat counter) bytes
termination_by chunks
decreasing_by
  · exact below
  · omega

/-- The digest of some bytes, 32 bytes long. -/
def digest (message : Bytes) : Bytes :=
  let chunks := (message.length + 1023) / 1024
  ((tree 0 chunks message).compress true).toList.flatMap bytesOfWord

theorem length_digest (message : Bytes) : (digest message).length = 32 := rfl

end Resharing.Blake3
