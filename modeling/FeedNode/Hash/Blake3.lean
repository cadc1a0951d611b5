import FeedNode.Bytes

/-!
# The BLAKE3 hash

The unkeyed hash with 32 octets of output. The input is cut into chunks of 1024 octets, each of
them into blocks of 64. Compressing the blocks of a chunk one after another gives the chunk's
chaining value; the chunks are the leaves of a binary tree whose left subtrees are complete and as
large as possible, and the root of the tree gives the hash.
-/

namespace FeedNode.Blake3

/-- The sixteen words of a block or of the compression state. -/
abbrev Block := Vector UInt32 16

/-- The eight words that one compression hands to the next. -/
abbrev Chain := Vector UInt32 8

/-- The chaining value that every chunk starts from. -/
def iv : Chain :=
  #v[0x6a09e667, 0xbb67ae85, 0x3c6ef372, 0xa54ff53a, 0x510e527f, 0x9b05688c, 0x1f83d9ab, 0x5be0cd19]

/-- Marks the first block of a chunk. -/
def chunkStart : UInt32 := 1

/-- Marks the last block of a chunk. -/
def chunkEnd : UInt32 := 2

/-- Marks a compression that joins two subtrees. -/
def parent : UInt32 := 4

/-- Marks the compression that gives the hash. -/
def root : UInt32 := 8

/-- Rotation to the right. -/
def rotate (x : UInt32) (n : UInt32) : UInt32 :=
  (x >>> n) ||| (x <<< (32 - n))

/-- Mixes two message words into four words of the state. -/
def mix (s : Block) (a b c d : Fin 16) (x y : UInt32) : Block :=
  let s := s.set a (s[a] + s[b] + x)
  let s := s.set d (rotate (s[d] ^^^ s[a]) 16)
  let s := s.set c (s[c] + s[d])
  let s := s.set b (rotate (s[b] ^^^ s[c]) 12)
  let s := s.set a (s[a] + s[b] + y)
  let s := s.set d (rotate (s[d] ^^^ s[a]) 8)
  let s := s.set c (s[c] + s[d])
  s.set b (rotate (s[b] ^^^ s[c]) 7)

/-- Mixes a whole block into the state, first down the columns and then along the diagonals. -/
def round (s m : Block) : Block :=
  -- the four columns of the state as a square
  let s := mix s 0 4 8 12 m[0] m[1]
  let s := mix s 1 5 9 13 m[2] m[3]
  let s := mix s 2 6 10 14 m[4] m[5]
  let s := mix s 3 7 11 15 m[6] m[7]
  -- its four diagonals
  let s := mix s 0 5 10 15 m[8] m[9]
  let s := mix s 1 6 11 12 m[10] m[11]
  let s := mix s 2 7 8 13 m[12] m[13]
  mix s 3 4 9 14 m[14] m[15]

/-- The order in which a round takes the words of the round before it. -/
def permute (m : Block) : Block :=
  #v[m[2], m[6], m[3], m[10], m[7], m[0], m[4], m[13], m[1], m[11], m[12], m[5], m[9], m[14],
    m[15], m[8]]

/-- The given number of rounds, with the words permuted after each. -/
def rounds : Nat → Block → Block → Block
  | 0, s, _ => s
  | n + 1, s, m => rounds n (round s m) (permute m)

/-- What one compression works on. -/
structure Input where
  chain : Chain
  block : Block
  counter : UInt64
  length : UInt32
  flags : UInt32

/-- The first half of the output of a compression. -/
def Input.compress (i : Input) : Chain :=
  let start : Block :=
    i.chain ++ #v[iv[0], iv[1], iv[2], iv[3], i.counter.toUInt32, (i.counter >>> 32).toUInt32,
      i.length, i.flags]
  let s := rounds 7 start i.block
  Vector.ofFn fun k : Fin 8 => s.get ⟨k.val, by omega⟩ ^^^ s.get ⟨k.val + 8, by omega⟩

/-- Four octets as a word, least significant octet first. -/
def word (b : Bytes) (i : Nat) : UInt32 :=
  .ofNat (Bytes.toNatBE ((b.drop (4 * i)).take 4).reverse)

/-- A block of at most 64 octets, filled up with zeros. -/
def block (b : Bytes) : Block :=
  let b := b ++ List.replicate (64 - b.length) 0
  Vector.ofFn fun i : Fin 16 => word b i

/-- The input of the last compression of a chunk, whose octets are `b`. -/
def chunkBlocks (counter : UInt64) (chain : Chain) (start : UInt32) (b : Bytes) : Input :=
  if b.length ≤ 64 then
    { chain, block := block b, counter, length := .ofNat b.length, flags := start ||| chunkEnd }
  else
    let i : Input := { chain, block := block (b.take 64), counter, length := 64, flags := start }
    chunkBlocks counter i.compress 0 (b.drop 64)
termination_by b.length
decreasing_by simp; omega

/-- The input of the last compression of the chunk at a position. -/
def chunk (position : Nat) (b : Bytes) : Input :=
  chunkBlocks (.ofNat position) iv chunkStart b

/-- The input of the compression that joins two subtrees. -/
def join (left right : Chain) : Input where
  chain := iv
  block := left ++ right
  counter := 0
  length := 64
  flags := parent

/-- The octets in the left subtree over more than one chunk: the greatest power of two of whole
chunks that leaves something for the right one. -/
def leftLength (length : Nat) : Nat :=
  1024 <<< Nat.log2 ((length - 1) / 1024)

/-- The left subtree is not empty. -/
theorem leftLength_pos (length : Nat) : 0 < leftLength length := by
  rw [leftLength, Nat.shiftLeft_eq]
  exact Nat.mul_pos (by omega) (Nat.two_pow_pos _)

/-- The left subtree leaves something for the right one. -/
theorem leftLength_lt {length : Nat} (h : 1024 < length) : leftLength length < length := by
  have h0 : (length - 1) / 1024 ≠ 0 := by omega
  have := Nat.log2_self_le h0
  rw [leftLength, Nat.shiftLeft_eq]
  omega

/-- The left subtree has less than all octets. -/
theorem length_take_leftLength {b : Bytes} (h : ¬ b.length ≤ 1024) :
    (b.take (leftLength b.length)).length < b.length := by
  have := leftLength_lt (Nat.lt_of_not_le h)
  rw [List.length_take]
  omega

/-- The right subtree has less than all octets. -/
theorem length_drop_leftLength {b : Bytes} (h : ¬ b.length ≤ 1024) :
    (b.drop (leftLength b.length)).length < b.length := by
  have := leftLength_pos b.length
  rw [List.length_drop]
  omega

/-- The input of the last compression of the tree over `b`, whose first chunk is at a position. -/
def tree (position : Nat) (b : Bytes) : Input :=
  if h : b.length ≤ 1024 then chunk position b
  else
    let n := leftLength b.length
    join (tree position (b.take n)).compress (tree (position + n / 1024) (b.drop n)).compress
termination_by b.length
decreasing_by
  · exact length_take_leftLength h
  · exact length_drop_leftLength h

/-- A word as four octets, least significant octet first. -/
def octets (w : UInt32) : Bytes :=
  (Bytes.bigEndian 4 w.toNat).reverse

/-- The hash of some octets. -/
def hash (b : Bytes) : Bytes :=
  let i := tree 0 b
  ({ i with flags := i.flags ||| root } : Input).compress.toList.flatMap octets

end FeedNode.Blake3
