import LiquidityClient.Collaborators

/-!
# The secrets of a swap
-/

namespace LiquidityClient

/-- The secrets of one swap, with what is shown of them. -/
structure SwapKeys where
  /-- 32 bytes. -/
  preimage : Bytes
  /-- The hash of the preimage. -/
  paymentHash : Bytes
  /-- 32 bytes. -/
  refundKey : Bytes
  /-- The compressed public key of the refund key. -/
  refundPublicKey : Bytes
  deriving DecidableEq, Repr

/-- The swap secrets made of a preimage and a refund key. -/
def SwapKeys.ofSecrets (preimage : Bytes) (refundKey : SecretKey) : SwapKeys where
  preimage
  paymentHash := Sha256.hash preimage
  refundKey := refundKey.toBytes
  refundPublicKey := refundKey.publicKey.compressed

/-- Is the payment hash the hash of the preimage? -/
def SwapKeys.hashMatches (keys : SwapKeys) : Bool :=
  Sha256.hash keys.preimage = keys.paymentHash

/-- Is the public key the one of the refund key? -/
def SwapKeys.keyMatches (keys : SwapKeys) : Bool :=
  (SecretKey.ofBytes? keys.refundKey).any fun key =>
    key.publicKey.compressed = keys.refundPublicKey

/-- Fresh secrets for a swap. -/
def freshSwapKeys {ε : Type} : Action ε SwapKeys := do
  let preimage ← Action.ask (.freshBytes 32)
  let refundKey ← Action.ask .freshKey
  return SwapKeys.ofSecrets preimage.val refundKey

end LiquidityClient
