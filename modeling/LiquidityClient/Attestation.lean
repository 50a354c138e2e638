import LiquidityClient.Collaborators

/-!
# Attestation of devices

The provider hands out a nonce to which the attestation of a device is bound, and verifies the
attestation.
-/

namespace LiquidityClient

/-- Asks for a nonce for the attestation of a device. -/
def attestationNonce (terms : Terms) (nodeId : Bytes) (device : String) :
    Action ClientError String := do
  let providerKey ← parsePublicKey terms.providerKey
  let replyKey ← Action.ask .freshKey
  let envelope ← sealFresh (α := Wire.IntegrityNonceRequest) providerKey
    ⟨replyKey.publicKey.compressed, nodeId, device⟩
  let reply ← Action.provider (.integrityNonce envelope)
  let response ← openMessage Wire.IntegrityNonceReply replyKey reply
  return response.nonce

/-- Submits the attestation of a device. -/
def verifyAttestation (terms : Terms) (nodeId : Bytes) (device token : String) :
    Action ClientError Wire.IntegrityResult := do
  let providerKey ← parsePublicKey terms.providerKey
  let envelope ← sealFresh (α := Wire.IntegrityVerifyRequest) providerKey ⟨nodeId, token, device⟩
  let reply ← Action.provider (.integrityVerify envelope)
  return Wire.IntegrityResult.ofNumber reply.result

end LiquidityClient
