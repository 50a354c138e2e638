import LiquidityClient.Aead
import LiquidityClient.Hash.Blake3
import LiquidityClient.Secp256k1.Key
import LiquidityClient.Wire.Messages

/-!
# Sealed messages

A message is sealed to a public key with a one-off key pair and a nonce of 12 bytes : the secret
shared with the recipient, stretched in the context of this channel, encrypts it. An envelope is the
one-off public key, the nonce and the ciphertext with its tag, 61 bytes more than the message
(`length_sealBytes`). A reply key is a one-off key pair whose public half travels in a request, so
that the reply can be sealed to it.
-/

namespace LiquidityClient

/-- The public key with these bytes. -/
def parsePublicKey (bytes : Bytes) : Except SealError PublicKey :=
  match PublicKey.ofBytes? bytes with
  | some key => .ok key
  | none => .error (.invalidPublicKey "malformed public key")

/-- The secret key with these bytes, which must be 32. -/
def parseSecretKey (bytes : Bytes) : Except SealError SecretKey :=
  if bytes.length = 32 then
    match SecretKey.ofBytes? bytes with
    | some key => .ok key
    | none => .error (.invalidSecretKey "malformed or out-of-range secret key")
  else .error (.invalidKeyLength 32 bytes.length)

/-- A sealed message. -/
structure Envelope where
  /-- The one-off public key, compressed. -/
  ephemeralKey : Bytes
  nonce : Bytes
  /-- The ciphertext with its tag. -/
  ciphertext : Bytes
  deriving DecidableEq, Repr

namespace Envelope

/-- Length of a nonce. -/
def nonceLength : Nat := 12

/-- Length of all that stands in front of the ciphertext. -/
def headerLength : Nat := publicKeyLength + nonceLength

/-- The bytes of an envelope. -/
def toBytes (envelope : Envelope) : Bytes :=
  envelope.ephemeralKey ++ envelope.nonce ++ envelope.ciphertext

/-- The envelope in a byte string, which must hold at least the header and a tag. -/
def ofBytes (bytes : Bytes) : Except SealError Envelope :=
  if bytes.length < headerLength + Aead.tagLength then .error (.decryption "payload too short")
  else
    .ok
      { ephemeralKey := bytes.take publicKeyLength
        nonce := (bytes.drop publicKeyLength).take nonceLength
        ciphertext := bytes.drop headerLength }

theorem toBytes_of_ofBytes {bytes : Bytes} {envelope : Envelope}
    (h : ofBytes bytes = .ok envelope) :
    envelope.toBytes = bytes := by
  unfold ofBytes at h
  split at h
  · cases h
  · obtain rfl := Except.ok.inj h
    have : bytes.drop headerLength = (bytes.drop publicKeyLength).drop nonceLength := by
      simp [List.drop_drop, headerLength]
    rw [toBytes, this, List.append_assoc, List.take_append_drop, List.take_append_drop]

end Envelope

/-- The context to which the keys of this channel are bound. -/
def channelContext : Bytes :=
  Utf8.encode "lspclient secure-channel 2024 chacha20poly1305 v1"

/-- The cipher key of a shared secret. -/
def channelKey (theirs : PublicKey) (ours : SecretKey) : Bytes :=
  Blake3.deriveKey channelContext (sharedSecret theirs ours)

/-- What sealing draws at random : a one-off key pair and a nonce. -/
structure SealSeed where
  ephemeral : SecretKey
  nonce : Bytes

/-- A byte string sealed to a public key. -/
def sealBytes (recipient : PublicKey) (seed : SealSeed) (plaintext : Bytes) : Bytes :=
  Envelope.toBytes
    { ephemeralKey := seed.ephemeral.publicKey.compressed
      nonce := seed.nonce
      ciphertext := Aead.encrypt (channelKey recipient seed.ephemeral) seed.nonce plaintext }

/-- The byte string in an envelope that is sealed to the public key of `secret`. -/
def openBytes (secret : SecretKey) (bytes : Bytes) : Except SealError Bytes :=
  match Envelope.ofBytes bytes with
  | .error e => .error e
  | .ok envelope =>
    match parsePublicKey envelope.ephemeralKey with
    | .error e => .error e
    | .ok ephemeral =>
      match Aead.decrypt? (channelKey ephemeral secret) envelope.nonce envelope.ciphertext with
      | some plaintext => .ok plaintext
      | none => .error (.decryption "decryption failed: aead::Error")

/-- A message sealed to a public key. -/
def sealMessage {α : Type} [Wire.Message α] (recipient : PublicKey) (seed : SealSeed)
    (message : α) :
    Wire.Encrypted :=
  ⟨sealBytes recipient seed (Wire.encode message)⟩

/-- The message in an envelope that is sealed to the public key of `secret`. -/
def openMessage (α : Type) [Wire.Message α] (secret : SecretKey) (envelope : Wire.Encrypted) :
    Except SealError α :=
  match openBytes secret envelope.data with
  | .error e => .error e
  | .ok plaintext =>
    match Wire.decode? α plaintext with
    | some message => .ok message
    | none => .error .malformed

theorem length_sealBytes (recipient : PublicKey) {seed : SealSeed} (hnonce : seed.nonce.length = 12)
    (hkey : (channelKey recipient seed.ephemeral).length = 32) (plaintext : Bytes) :
    (sealBytes recipient seed plaintext).length = 61 + plaintext.length := by
  simp only [sealBytes, Envelope.toBytes, Aead.encrypt, List.length_append,
    PublicKey.length_compressed, hnonce, Aead.length_tag, ChaCha20.length_apply hkey hnonce]
  omega

end LiquidityClient
