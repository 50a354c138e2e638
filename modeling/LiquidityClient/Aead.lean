import LiquidityClient.Hash.Words

/-!
# ChaCha20-Poly1305

The authenticated cipher of RFC 8439 with empty associated data. A sealed message is the ciphertext
followed by a tag of 16 bytes; opening checks the tag before it decrypts. `decrypt?_encrypt` : what
is encrypted decrypts to the same message, and `encrypt_of_decrypt?` : nothing else does.
-/

namespace LiquidityClient

namespace ChaCha20

/-- The quarter round. -/
def quarter (q : Quad) : Quad :=
  let a := q.a + q.b
  let d := Word.rotateLeft (q.d ^^^ a) 16
  let c := q.c + d
  let b := Word.rotateLeft (q.b ^^^ c) 12
  let a := a + b
  let d := Word.rotateLeft (d ^^^ a) 8
  let c := c + d
  let b := Word.rotateLeft (b ^^^ c) 7
  ⟨a, b, c, d⟩

/-- The given number of double rounds. -/
def rounds : Nat → Square → Square
  | 0, s => s
  | count + 1, s => rounds count ((s.mixColumns fun _ => quarter).mixDiagonals fun _ => quarter)

/-- The 64 bytes of the key stream for a counter value. -/
def block (key nonce : Bytes) (counter : Nat) : Bytes :=
  let start := [0x61707865, 0x3320646e, 0x79622d32, 0x6b206574] ++ Word.listOfLE key
    ++ UInt32.ofNat counter :: Word.listOfLE nonce
  let out := (rounds 10 (Square.ofList start)).toList
  Word.bytesLE (out.zipWith (· + ·) start)

/-- The first bytes of the key stream from a counter value on, as many as there are blocks. -/
def keyStream (key nonce : Bytes) : Nat → Nat → Bytes
  | _, 0 => []
  | counter, blocks + 1 => block key nonce counter ++ keyStream key nonce (counter + 1) blocks

/-- The bytes with the key stream added, from counter value one on; the same again undoes it. -/
def apply (key nonce bytes : Bytes) : Bytes :=
  bytes.zipWith (· ^^^ ·) (keyStream key nonce 1 ((bytes.length + 63) / 64))

theorem length_bytesLE (words : List UInt32) : (Word.bytesLE words).length = 4 * words.length := by
  induction words with
  | nil => rfl
  | cons w rest ih =>
    simp only [Word.bytesLE, List.flatMap_cons, List.length_append, Bytes.length_ofNatLE,
      List.length_cons] at ih ⊢
    omega

theorem le_length_listOfLE (bytes : Bytes) : bytes.length / 4 = (Word.listOfLE bytes).length := by
  induction bytes using Word.listOfLE.induct with
  | case1 a b c d rest ih => simp [Word.listOfLE, ← ih]; omega
  | case2 bytes h =>
    rcases bytes with _ | ⟨a, _ | ⟨b, _ | ⟨c, _ | ⟨d, rest⟩⟩⟩⟩
    · simp [Word.listOfLE]
    · simp [Word.listOfLE]
    · simp [Word.listOfLE]
    · simp [Word.listOfLE]
    · exact absurd rfl (h a b c d rest)

/-- With a key of 32 bytes and a nonce of 12 a block of the key stream has 64 bytes. -/
theorem length_block {key nonce : Bytes} (hkey : key.length = 32) (hnonce : nonce.length = 12)
    (counter : Nat) : (block key nonce counter).length = 64 := by
  have h1 := le_length_listOfLE key
  have h2 := le_length_listOfLE nonce
  simp only [block, length_bytesLE, List.length_zipWith, Square.toList, List.length_append,
    List.length_cons, List.length_nil, ← h1, ← h2, hkey, hnonce]
  rfl

theorem length_keyStream {key nonce : Bytes} (hkey : key.length = 32) (hnonce : nonce.length = 12)
    (counter blocks : Nat) : (keyStream key nonce counter blocks).length = 64 * blocks := by
  induction blocks generalizing counter with
  | zero => rfl
  | succ blocks ih => simp [keyStream, length_block hkey hnonce, ih]; omega

theorem zipWith_xor_self {bytes stream : Bytes} (h : bytes.length ≤ stream.length) :
    (bytes.zipWith (· ^^^ ·) stream).zipWith (· ^^^ ·) stream = bytes := by
  induction bytes generalizing stream with
  | nil => simp
  | cons byte rest ih =>
    cases stream with
    | nil => simp at h
    | cons k stream =>
      simp only [List.length_cons, Nat.add_le_add_iff_right] at h
      simp only [List.zipWith_cons_cons, ih h, UInt8.xor_assoc, UInt8.xor_self, UInt8.xor_zero]

theorem length_apply {key nonce : Bytes} (hkey : key.length = 32) (hnonce : nonce.length = 12)
    (bytes : Bytes) : (apply key nonce bytes).length = bytes.length := by
  simp only [apply, List.length_zipWith, length_keyStream hkey hnonce]
  omega

/-- The cipher is its own inverse. -/
theorem apply_apply {key nonce : Bytes} (hkey : key.length = 32) (hnonce : nonce.length = 12)
    (bytes : Bytes) : apply key nonce (apply key nonce bytes) = bytes := by
  have hlen := length_apply hkey hnonce bytes
  unfold apply at hlen ⊢
  rw [hlen]
  exact zipWith_xor_self (by rw [length_keyStream hkey hnonce]; omega)

end ChaCha20

namespace Poly1305

/-- The prime of the field. -/
def prime : Nat := 0x3fffffffffffffffffffffffffffffffb

/-- The multiplier with the bits cleared that keep products short. -/
def clamp (r : Nat) : Nat :=
  r &&& 0x0ffffffc0ffffffc0ffffffc0fffffff

/-- The tag of a message under a one-time key of 32 bytes. -/
def tag (key message : Bytes) : Bytes :=
  let r := clamp (Bytes.toNatLE (key.take 16))
  let s := Bytes.toNatLE (key.drop 16)
  let sum := (Bytes.chunks 16 message).foldl
    (fun acc part => (acc + Bytes.toNatLE (part ++ [1])) * r % prime) 0
  Bytes.ofNatLE 16 (sum + s)

end Poly1305

namespace Aead

/-- Length of a tag. -/
def tagLength : Nat := 16

/-- The tag of a ciphertext. -/
def tag (key nonce ciphertext : Bytes) : Bytes :=
  let oneTime := (ChaCha20.block key nonce 0).take 32
  let zeros := (16 - ciphertext.length % 16) % 16
  Poly1305.tag oneTime (ciphertext ++ Bytes.repeated zeros 0 ++ Bytes.ofNatLE 8 0
    ++ Bytes.ofNatLE 8 ciphertext.length)

/-- The ciphertext of a message, and its tag behind it. -/
def encrypt (key nonce plaintext : Bytes) : Bytes :=
  let ciphertext := ChaCha20.apply key nonce plaintext
  ciphertext ++ tag key nonce ciphertext

/-- The message of a sealed byte string, if its tag is right. -/
def decrypt? (key nonce bytes : Bytes) : Option Bytes :=
  if bytes.length < tagLength then none
  else
    let ciphertext := bytes.take (bytes.length - tagLength)
    if bytes.drop (bytes.length - tagLength) = tag key nonce ciphertext then
      some (ChaCha20.apply key nonce ciphertext)
    else none

theorem length_tag (key nonce ciphertext : Bytes) : (tag key nonce ciphertext).length = 16 := by
  simp [tag, Poly1305.tag, Bytes.length_ofNatLE]

/-- What is encrypted decrypts to the same message. -/
theorem decrypt?_encrypt {key nonce : Bytes} (hkey : key.length = 32) (hnonce : nonce.length = 12)
    (plaintext : Bytes) : decrypt? key nonce (encrypt key nonce plaintext) = some plaintext := by
  simp [decrypt?, encrypt, length_tag, tagLength, ChaCha20.apply_apply hkey hnonce]

/-- Only the encryption of a message decrypts to it. -/
theorem encrypt_of_decrypt? {key nonce bytes plaintext : Bytes} (hkey : key.length = 32)
    (hnonce : nonce.length = 12) (h : decrypt? key nonce bytes = some plaintext) :
    bytes = encrypt key nonce plaintext := by
  simp only [decrypt?] at h
  split at h
  · simp at h
  · split at h
    · rename_i htag
      obtain rfl := Option.some.inj h
      rw [encrypt, ChaCha20.apply_apply hkey hnonce, ← htag, List.take_append_drop]
    · simp at h

end Aead

end LiquidityClient
