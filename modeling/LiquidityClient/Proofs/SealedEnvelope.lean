import LiquidityClient.Proofs.KeyAgreement
import LiquidityClient.Proofs.Wire.RoundTrip

/-!
# Opening what is sealed

An envelope that is sealed to the public key of a secret one opens with it to what was sealed
(`openBytes_sealBytes`), because both sides derive the same cipher key (`channelKey_comm`). Nothing
else opens : what opens is the key of 33 bytes in front of it, the nonce of 12 bytes behind that and
the encryption of the message under the key derived from the two (`openBytes_eq_ok_iff`). So a message
opens up to the signs of its zeros (`openMessage_sealMessage`), and with it the answer to a request
that names the key to reply to (`SealedAnswer.Fits.opens`).
-/

namespace LiquidityClient

/-! ## The cipher key -/

namespace Blake3

theorem length_compress (chaining : List UInt32) (block : Bytes) (marks : UInt32) :
    (compress chaining block marks).length = 8 := by
  simp [compress, Square.toList]

theorem length_absorb (marks : UInt32) (chaining : List UInt32) (first : UInt32)
    (blocks : List Bytes) : (absorb marks chaining first blocks).length = 8 := by
  induction blocks generalizing chaining first with
  | nil => rw [absorb, length_compress]
  | cons block rest ih =>
    cases rest with
    | nil => rw [absorb, length_compress]
    | cons next rest => rw [absorb, ih]; exact List.cons_ne_nil _ _

/-- A derived key has 32 bytes. -/
theorem length_deriveKey (context material : Bytes) : (deriveKey context material).length = 32 := by
  rw [deriveKey, ChaCha20.length_bytesLE, pass, length_absorb]

end Blake3

theorem length_channelKey (theirs : PublicKey) (ours : SecretKey) :
    (channelKey theirs ours).length = 32 :=
  Blake3.length_deriveKey _ _

/-- Both sides derive the same key. -/
theorem channelKey_comm (key other : SecretKey) :
    channelKey key.publicKey other = channelKey other.publicKey key := by
  rw [channelKey, sharedSecret_comm, ← channelKey]

/-! ## Envelopes -/

theorem parsePublicKey_eq_ok_iff {bytes : Bytes} {key : PublicKey} :
    parsePublicKey bytes = .ok key ↔ PublicKey.ofBytes? bytes = some key := by
  unfold parsePublicKey
  split
  · next h => rw [h, Except.ok.injEq, Option.some.injEq]
  · next h => simp [h]

namespace Envelope

/-- The parts of an envelope are read from its bytes. -/
theorem ofBytes_toBytes {envelope : Envelope}
    (hkey : envelope.ephemeralKey.length = publicKeyLength)
    (hnonce : envelope.nonce.length = nonceLength)
    (hciphertext : Aead.tagLength ≤ envelope.ciphertext.length) :
    ofBytes envelope.toBytes = .ok envelope := by
  have hlength : ¬ envelope.toBytes.length < headerLength + Aead.tagLength := by
    simp only [toBytes, List.length_append, hkey, hnonce, headerLength]
    omega
  have hheader : (envelope.ephemeralKey ++ envelope.nonce).length = headerLength := by
    rw [List.length_append, hkey, hnonce, headerLength]
  have hrest : envelope.toBytes.drop headerLength = envelope.ciphertext := by
    rw [toBytes, List.drop_left' hheader]
  rw [ofBytes, if_neg hlength, hrest, toBytes, List.append_assoc, List.take_left' hkey,
    List.drop_left' hkey, List.take_left' hnonce]

/-- What is read from a byte string are a key and a nonce of the right length. -/
theorem lengths_of_ofBytes {bytes : Bytes} {envelope : Envelope}
    (h : ofBytes bytes = .ok envelope) :
    envelope.ephemeralKey.length = publicKeyLength ∧ envelope.nonce.length = nonceLength := by
  unfold ofBytes at h
  split at h
  · cases h
  · next hlength =>
    obtain rfl := Except.ok.inj h
    simp only [headerLength, publicKeyLength, nonceLength, List.length_take, List.length_drop] at *
    omega

end Envelope

/-! ## Sealing and opening -/

/-- The envelope from the holder of `ephemeral` to that of `secret`. -/
def envelopeFrom (ephemeral : PublicKey) (secret : SecretKey) (nonce plaintext : Bytes) :
    Envelope :=
  { ephemeralKey := ephemeral.compressed
    nonce
    ciphertext := Aead.encrypt (channelKey ephemeral secret) nonce plaintext }

/-- Sealing to a key pair gives the envelope as its holder sees it. -/
theorem sealBytes_publicKey (secret : SecretKey) (seed : SealSeed) (plaintext : Bytes) :
    sealBytes secret.publicKey seed plaintext =
      (envelopeFrom seed.ephemeral.publicKey secret seed.nonce plaintext).toBytes := by
  rw [sealBytes, envelopeFrom, channelKey_comm]

/-- Exactly the envelopes to a key pair open with it. -/
theorem openBytes_eq_ok_iff {secret : SecretKey} {bytes plaintext : Bytes} :
    openBytes secret bytes = .ok plaintext ↔
      ∃ (ephemeral : PublicKey) (nonce : Bytes), ephemeral.Valid ∧
        nonce.length = Envelope.nonceLength ∧
        bytes = (envelopeFrom ephemeral secret nonce plaintext).toBytes := by
  constructor
  · intro h
    unfold openBytes at h
    split at h
    · cases h
    · next envelope henvelope =>
      obtain ⟨hlength, hnonce⟩ := Envelope.lengths_of_ofBytes henvelope
      split at h
      · cases h
      · next ephemeral hephemeral =>
        split at h
        · next opened hopened =>
          cases h
          have hread := parsePublicKey_eq_ok_iff.1 hephemeral
          have hkey := PublicKey.compressed_of_ofBytes? hlength hread
          have hciphertext := Aead.encrypt_of_decrypt? (length_channelKey _ _) hnonce hopened
          refine ⟨ephemeral, envelope.nonce, PublicKey.valid_of_ofBytes? hread, hnonce, ?_⟩
          rw [envelopeFrom, hkey, ← hciphertext, Envelope.toBytes_of_ofBytes henvelope]
        · cases h
  · rintro ⟨ephemeral, nonce, hvalid, hnonce, rfl⟩
    have hciphertext : Aead.tagLength ≤
        (Aead.encrypt (channelKey ephemeral secret) nonce plaintext).length := by
      rw [Aead.encrypt, List.length_append, Aead.length_tag]
      exact Nat.le_add_left _ _
    have hread : Envelope.ofBytes (envelopeFrom ephemeral secret nonce plaintext).toBytes =
        .ok (envelopeFrom ephemeral secret nonce plaintext) :=
      Envelope.ofBytes_toBytes (PublicKey.length_compressed ephemeral) hnonce hciphertext
    have hkey : parsePublicKey (envelopeFrom ephemeral secret nonce plaintext).ephemeralKey =
        .ok ephemeral :=
      parsePublicKey_eq_ok_iff.2 hvalid.ofBytes?_compressed
    have hopen := Aead.decrypt?_encrypt (length_channelKey ephemeral secret) hnonce plaintext
    simp only [openBytes, hread, hkey]
    rw [envelopeFrom, hopen]

/-- What is sealed opens. -/
theorem openBytes_sealBytes (secret : SecretKey) {seed : SealSeed}
    (hnonce : seed.nonce.length = Envelope.nonceLength) (plaintext : Bytes) :
    openBytes secret (sealBytes secret.publicKey seed plaintext) = .ok plaintext :=
  openBytes_eq_ok_iff.2 ⟨_, _, seed.ephemeral.valid_publicKey, hnonce,
    sealBytes_publicKey secret seed plaintext⟩

/-- A sealed message that fits in an envelope opens, but for the signs of its zeros. -/
theorem openMessage_sealMessage {α : Type} [Wire.Message α] (secret : SecretKey) {seed : SealSeed}
    (hnonce : seed.nonce.length = Envelope.nonceLength) {message : α}
    (hform : (Wire.Message.schema α).wellFormed)
    (hsize : (Wire.encode message).length < UInt64.size) :
    openMessage α secret (sealMessage secret.publicKey seed message) =
      .ok (Wire.positiveZeros message) := by
  unfold openMessage sealMessage
  rw [openBytes_sealBytes secret hnonce]
  dsimp only
  rw [Wire.decode?_encode hform message hsize]

/-- Without fractional numbers it opens as it is. -/
theorem openMessage_sealMessage_of_doubleFree {α : Type} [Wire.Message α] (secret : SecretKey)
    {seed : SealSeed} (hnonce : seed.nonce.length = Envelope.nonceLength) {message : α}
    (hform : (Wire.Message.schema α).wellFormed) (hdouble : (Wire.Message.schema α).doubleFree)
    (hsize : (Wire.encode message).length < UInt64.size) :
    openMessage α secret (sealMessage secret.publicKey seed message) = .ok message := by
  rw [openMessage_sealMessage secret hnonce hform hsize, Wire.positiveZeros_of_doubleFree hdouble]

/-! ## Sealed answers -/

/-- A call whose answer is sealed : what the caller draws, and what the provider seals. -/
structure SealedAnswer (α : Type) where
  replyKey : SecretKey
  ephemeral : SecretKey
  nonce : { bytes : Bytes // bytes.length = Envelope.nonceLength }
  /-- What the provider draws to seal its response to the reply key. -/
  seed : SealSeed
  response : α

namespace SealedAnswer

variable {α : Type} [Wire.Message α] {answer : SealedAnswer α}

/-- The answer as it arrives. -/
def reply (answer : SealedAnswer α) : Wire.Encrypted :=
  sealMessage answer.replyKey.publicKey answer.seed answer.response

/-- The answer fits in an envelope. -/
structure Fits (answer : SealedAnswer α) : Prop where
  nonce_length : answer.seed.nonce.length = Envelope.nonceLength
  response_lt : (Wire.encode answer.response).length < UInt64.size

theorem Fits.opens (h : answer.Fits) (hform : (Wire.Message.schema α).wellFormed) :
    openMessage α answer.replyKey answer.reply = .ok (Wire.positiveZeros answer.response) :=
  openMessage_sealMessage answer.replyKey h.nonce_length hform h.response_lt

end SealedAnswer

/-- The bytes of the base point, the public key of the secret 1. -/
def unitKey : Bytes :=
  PublicKey.compressed ⟨Secp256k1.generator⟩

theorem parsePublicKey_unitKey : parsePublicKey unitKey = .ok ⟨Secp256k1.generator⟩ :=
  parsePublicKey_eq_ok_iff.2 Secp256k1.valid_generator.ofBytes?_compressed

/-- Terms of a provider with this key, without fees. -/
def unitTerms : Terms :=
  ⟨"", unitKey, "02", "", 0, 0, 0, ⟨0⟩, 40, 0, 0, 0, ""⟩

/-- An answer for which the secret 7 is drawn wherever one is. -/
def sevenfold {α : Type} (response : α) : SealedAnswer α :=
  let secret : SecretKey := ⟨7, by decide, by decide⟩
  let nonce := Bytes.repeated Envelope.nonceLength 0
  ⟨secret, secret, ⟨nonce, List.length_replicate⟩, ⟨secret, nonce⟩, response⟩

/-! ## All of it -/

/-- The length of an envelope, and where its key and its nonce stand. -/
theorem envelopeFrom_header (ephemeral : PublicKey) (secret : SecretKey) {nonce : Bytes}
    (hnonce : nonce.length = Envelope.nonceLength) (plaintext : Bytes) :
    (envelopeFrom ephemeral secret nonce plaintext).toBytes.length = 61 + plaintext.length ∧
      (envelopeFrom ephemeral secret nonce plaintext).toBytes.take 33 = ephemeral.compressed ∧
      ((envelopeFrom ephemeral secret nonce plaintext).toBytes.drop 33).take 12 = nonce := by
  have hkey := PublicKey.length_compressed ephemeral
  have hciphertext := ChaCha20.length_apply (length_channelKey ephemeral secret) hnonce plaintext
  refine ⟨?_, ?_, ?_⟩
  · simp only [envelopeFrom, Envelope.toBytes, Aead.encrypt, List.length_append, hkey, hnonce,
      Aead.length_tag, hciphertext, Envelope.nonceLength]
    omega
  · rw [Envelope.toBytes, envelopeFrom, List.append_assoc, List.take_left' hkey]
  · rw [Envelope.toBytes, envelopeFrom, List.append_assoc, List.drop_left' hkey]
    exact List.take_left' hnonce

/-- Whatever is sealed to a key pair opens with it, at 61 bytes more than the message. Whatever
opens is a key that is read from the first 33 bytes, a nonce of 12 bytes and the encryption of the
message under the key derived from that key and the secret one; so the header and the message give
all of it. -/
theorem sealed_round_trip (secret : SecretKey) :
    (∀ (ephemeral : SecretKey) (nonce : { bytes : Bytes // bytes.length = Envelope.nonceLength })
        (plaintext : Bytes),
      (sealBytes secret.publicKey ⟨ephemeral, nonce⟩ plaintext).length = 61 + plaintext.length ∧
        openBytes secret (sealBytes secret.publicKey ⟨ephemeral, nonce⟩ plaintext) =
          .ok plaintext) ∧
    (∀ bytes plaintext : Bytes, openBytes secret bytes = .ok plaintext →
      61 ≤ bytes.length ∧ ∃ ephemeral : PublicKey,
        PublicKey.ofBytes? (bytes.take 33) = some ephemeral ∧
        ephemeral.compressed = bytes.take 33 ∧ ((bytes.drop 33).take 12).length = 12 ∧
        bytes = ephemeral.compressed ++ (bytes.drop 33).take 12 ++
          Aead.encrypt (channelKey ephemeral secret) ((bytes.drop 33).take 12) plaintext) ∧
    ∀ bytes bytes' plaintext : Bytes, openBytes secret bytes = .ok plaintext →
      openBytes secret bytes' = .ok plaintext → bytes.take 45 = bytes'.take 45 →
      bytes = bytes' := by
  refine ⟨fun ephemeral nonce plaintext => ⟨?_, openBytes_sealBytes secret nonce.2 plaintext⟩,
    fun bytes plaintext h => ?_, fun bytes bytes' plaintext h h' hheader => ?_⟩
  · rw [sealBytes_publicKey]
    exact (envelopeFrom_header _ _ nonce.2 _).1
  · obtain ⟨ephemeral, nonce, hvalid, hnonce, rfl⟩ := openBytes_eq_ok_iff.1 h
    obtain ⟨hlength, hkey, hnonceAt⟩ := envelopeFrom_header ephemeral secret hnonce plaintext
    refine ⟨by omega, ephemeral, ?_, hkey.symm, ?_, ?_⟩
    · rw [hkey, hvalid.ofBytes?_compressed]
    · rw [hnonceAt]
      exact hnonce
    · rw [hnonceAt]
      rfl
  · obtain ⟨ephemeral, nonce, hvalid, hnonce, rfl⟩ := openBytes_eq_ok_iff.1 h
    obtain ⟨ephemeral', nonce', hvalid', hnonce', rfl⟩ := openBytes_eq_ok_iff.1 h'
    obtain ⟨-, hkey, hnonceAt⟩ := envelopeFrom_header ephemeral secret hnonce plaintext
    obtain ⟨-, hkey', hnonceAt'⟩ := envelopeFrom_header ephemeral' secret hnonce' plaintext
    have hkeys := congrArg (List.take 33) hheader
    have hnonces := congrArg (List.drop 33) hheader
    rw [List.take_take, List.take_take, Nat.min_eq_left (by decide), hkey, hkey',
      PublicKey.compressed_inj hvalid hvalid'] at hkeys
    rw [List.drop_take, List.drop_take, hnonceAt, hnonceAt'] at hnonces
    rw [hkeys, hnonces]

end LiquidityClient
