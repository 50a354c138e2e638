import LiquidityClient.Hash.Words

/-!
# SHA-256

The hash of FIPS 180-4, twice-applied as Bitcoin uses it for transactions, and as the message
authentication code HMAC.
-/

namespace LiquidityClient.Sha256

/-- The chaining value. -/
structure State where
  a : UInt32
  b : UInt32
  c : UInt32
  d : UInt32
  e : UInt32
  f : UInt32
  g : UInt32
  h : UInt32

/-- The chaining value before the first block. -/
def initial : State :=
  ⟨0x6a09e667, 0xbb67ae85, 0x3c6ef372, 0xa54ff53a, 0x510e527f, 0x9b05688c, 0x1f83d9ab, 0x5be0cd19⟩

/-- The round constants. -/
def constants : List UInt32 :=
  [0x428a2f98, 0x71374491, 0xb5c0fbcf, 0xe9b5dba5, 0x3956c25b, 0x59f111f1, 0x923f82a4, 0xab1c5ed5,
    0xd807aa98, 0x12835b01, 0x243185be, 0x550c7dc3, 0x72be5d74, 0x80deb1fe, 0x9bdc06a7, 0xc19bf174,
    0xe49b69c1, 0xefbe4786, 0x0fc19dc6, 0x240ca1cc, 0x2de92c6f, 0x4a7484aa, 0x5cb0a9dc, 0x76f988da,
    0x983e5152, 0xa831c66d, 0xb00327c8, 0xbf597fc7, 0xc6e00bf3, 0xd5a79147, 0x06ca6351, 0x14292967,
    0x27b70a85, 0x2e1b2138, 0x4d2c6dfc, 0x53380d13, 0x650a7354, 0x766a0abb, 0x81c2c92e, 0x92722c85,
    0xa2bfe8a1, 0xa81a664b, 0xc24b8b70, 0xc76c51a3, 0xd192e819, 0xd6990624, 0xf40e3585, 0x106aa070,
    0x19a4c116, 0x1e376c08, 0x2748774c, 0x34b0bcb5, 0x391c0cb3, 0x4ed8aa4a, 0x5b9cca4f, 0x682e6ff3,
    0x748f82ee, 0x78a5636f, 0x84c87814, 0x8cc70208, 0x90befffa, 0xa4506ceb, 0xbef9a3f7, 0xc67178f2]

/-- One round with a round constant and a word of the message schedule. -/
def round (s : State) (constant word : UInt32) : State :=
  let sum1 := Word.rotateRight s.e 6 ^^^ Word.rotateRight s.e 11 ^^^ Word.rotateRight s.e 25
  let choice := (s.e &&& s.f) ^^^ ((~~~ s.e) &&& s.g)
  let t1 := s.h + sum1 + choice + constant + word
  let sum0 := Word.rotateRight s.a 2 ^^^ Word.rotateRight s.a 13 ^^^ Word.rotateRight s.a 22
  let majority := (s.a &&& s.b) ^^^ (s.a &&& s.c) ^^^ (s.b &&& s.c)
  let t2 := sum0 + majority
  ⟨t1 + t2, s.a, s.b, s.c, s.d + t1, s.e, s.f, s.g⟩

/-- The next sixteen words of the message schedule, one word on. -/
def advance (window : List UInt32) : List UInt32 :=
  let w (i : Nat) : UInt32 := window.getD i 0
  let small0 := Word.rotateRight (w 1) 7 ^^^ Word.rotateRight (w 1) 18 ^^^ (w 1 >>> 3)
  let small1 := Word.rotateRight (w 14) 17 ^^^ Word.rotateRight (w 14) 19 ^^^ (w 14 >>> 10)
  window.drop 1 ++ [w 0 + small0 + w 9 + small1]

/-- The rounds for the given constants, each with the first word of the window. -/
def rounds : List UInt32 → State → List UInt32 → State
  | [], s, _ => s
  | constant :: rest, s, window => rounds rest (round s constant (window.getD 0 0)) (advance window)

/-- The chaining value after a block of 64 bytes. -/
def compress (s : State) (block : Bytes) : State :=
  let t := rounds constants s (Word.listOfBE block)
  ⟨s.a + t.a, s.b + t.b, s.c + t.c, s.d + t.d, s.e + t.e, s.f + t.f, s.g + t.g, s.h + t.h⟩

/-- The message with its padding : a one bit, zeros up to 56 modulo 64 bytes, and the length in
bits. -/
def pad (message : Bytes) : Bytes :=
  let zeros := (119 - message.length % 64) % 64
  message ++ 0x80 :: Bytes.repeated zeros 0 ++ Bytes.ofNatBE 8 (8 * message.length)

/-- The hash of a message, 32 bytes. -/
def hash (message : Bytes) : Bytes :=
  let s := ((pad message).chunks 64).foldl compress initial
  Word.bytesBE [s.a, s.b, s.c, s.d, s.e, s.f, s.g, s.h]

/-- The hash of the hash. -/
def doubleHash (message : Bytes) : Bytes :=
  hash (hash message)

/-- The authentication code of a message under a key of at most 64 bytes. -/
def hmac (key message : Bytes) : Bytes :=
  let block := key ++ Bytes.repeated (64 - key.length) 0
  hash (block.map (· ^^^ 0x5c) ++ hash (block.map (· ^^^ 0x36) ++ message))

theorem length_hash (message : Bytes) : (hash message).length = 32 := by
  simp [hash, Word.bytesBE, Bytes.length_ofNatBE]

end LiquidityClient.Sha256
