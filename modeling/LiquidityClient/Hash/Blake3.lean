import LiquidityClient.Hash.Words

/-!
# BLAKE3 key derivation

`deriveKey` turns key material into a 32-byte key bound to a context text. Context and key material
are single chunks here, at most 1024 bytes each : the context is a constant of the application, and
the key material a shared secret.
-/

namespace LiquidityClient.Blake3

/-- The initial words, also the key of the first pass. -/
def initial : List UInt32 :=
  [0x6a09e667, 0xbb67ae85, 0x3c6ef372, 0xa54ff53a, 0x510e527f, 0x9b05688c, 0x1f83d9ab, 0x5be0cd19]

/-- Mark of the first block of a chunk. -/
def chunkStart : UInt32 := 1

/-- Mark of the last block of a chunk. -/
def chunkEnd : UInt32 := 2

/-- Mark of the block that gives the output. -/
def root : UInt32 := 8

/-- Mark of the pass over the context. -/
def contextPass : UInt32 := 32

/-- Mark of the pass over the key material. -/
def materialPass : UInt32 := 64

/-- The mixing function, with two words of the message. -/
def mix (m n : UInt32) (q : Quad) : Quad :=
  let a := q.a + q.b + m
  let d := Word.rotateRight (q.d ^^^ a) 16
  let c := q.c + d
  let b := Word.rotateRight (q.b ^^^ c) 12
  let a := a + b + n
  let d := Word.rotateRight (d ^^^ a) 8
  let c := c + d
  let b := Word.rotateRight (b ^^^ c) 7
  ⟨a, b, c, d⟩

/-- One round : columns with the first eight message words, diagonals with the last eight. -/
def round (message : List UInt32) (s : Square) : Square :=
  let m (i : Nat) : UInt32 := message.getD i 0
  (s.mixColumns fun i => mix (m (2 * i)) (m (2 * i + 1))).mixDiagonals
    fun i => mix (m (2 * i + 8)) (m (2 * i + 9))

/-- The order in which the next round takes the message words. -/
def permutation : List Nat :=
  [2, 6, 3, 10, 7, 0, 4, 13, 1, 11, 12, 5, 9, 14, 15, 8]

/-- The message words in the order of the next round. -/
def permute (message : List UInt32) : List UInt32 :=
  permutation.map fun i => message.getD i 0

/-- The given number of rounds, with the message words permuted between them. -/
def rounds : Nat → List UInt32 → Square → Square
  | 0, _, s => s
  | count + 1, message, s => rounds count (permute message) (round message s)

/-- The chaining value after a block of `length` bytes, padded with zeros to 64. -/
def compress (chaining : List UInt32) (block : Bytes) (marks : UInt32) : List UInt32 :=
  let message := Word.listOfLE (block ++ Bytes.repeated (64 - block.length) 0)
  let start := chaining ++ initial.take 4 ++ [0, 0, UInt32.ofNat block.length, marks]
  let out := (rounds 7 message (Square.ofList start)).toList
  (out.take 8).zipWith (· ^^^ ·) (out.drop 8)

/-- The chaining value over the blocks of a chunk, the last of which gives the output. -/
def absorb (marks : UInt32) : List UInt32 → UInt32 → List Bytes → List UInt32
  | chaining, first, [] => compress chaining [] (marks ||| first ||| chunkEnd ||| root)
  | chaining, first, [block] => compress chaining block (marks ||| first ||| chunkEnd ||| root)
  | chaining, first, block :: rest =>
    absorb marks (compress chaining block (marks ||| first)) 0 rest

/-- The output words of one pass over a single chunk. -/
def pass (marks : UInt32) (key : List UInt32) (input : Bytes) : List UInt32 :=
  absorb marks key chunkStart (input.chunks 64)

/-- The 32-byte key that the key material gives in the context. -/
def deriveKey (context material : Bytes) : Bytes :=
  Word.bytesLE (pass materialPass (pass contextPass initial context) material)

end LiquidityClient.Blake3
