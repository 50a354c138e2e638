import LiquidityClient.Bitcoin.Address
import LiquidityClient.Collaborators
import LiquidityClient.Configuration
import LiquidityClient.Swap.RedeemScript
import LiquidityClient.Swap.Refund

/-!
# Submarine swaps

A swap is registered with the provider and checked twice : the address that the provider answers
must be the address of the script rebuilt here, and also the address that the node watches. A funded
swap is redeemed by the provider, who pays an invoice against it, or swept back with a refund.
-/

namespace LiquidityClient

/-- The version of the swap script that is told to the provider. -/
def scriptVersion : Int32 := 2

/-- A swap that is registered with the provider and verified here. -/
structure RegisteredSwap where
  paymentHash : Bytes
  /-- The provider's key, as the provider sent it. -/
  htlcKey : Bytes
  refundKey : Bytes
  /-- The redeem script. -/
  script : Bytes
  /-- The address of the script's outputs. -/
  scriptAddress : String
  /-- The chain's height at the registration. -/
  height : UInt32
  deriving DecidableEq, Repr

/-- What the provider offered for a swap, and the script that was rebuilt here. -/
structure SwapOffer where
  response : Wire.RegisterSubmarineReply
  info : NodeInfo
  network : Network
  script : Bytes
  deriving DecidableEq, Repr

/-- The address of the rebuilt script. -/
def SwapOffer.address (offer : SwapOffer) : String :=
  Address.payToScriptHash offer.network offer.script

/-- The swap of an offer that is accepted. -/
def SwapOffer.swap (offer : SwapOffer) (paymentHash refundKey : Bytes) : RegisteredSwap where
  paymentHash
  htlcKey := offer.response.htlcPubkey
  refundKey
  script := offer.script
  scriptAddress := offer.response.scriptAddress
  height := offer.info.blockHeight

namespace Swap

/-- Accepts an address that is the expected one. -/
def requireAddress (expected actual : String) : Except SwapError Unit :=
  if expected = actual then .ok () else .error (.scriptMismatch expected actual)

/-- Accepts a payment hash of 32 bytes. -/
def requireHash (paymentHash : Bytes) : Except SwapError Unit :=
  if paymentHash.length = 32 then .ok ()
  else
    .error (.invalidInput
      ("payment hash must be 32 bytes, got " ++ Decimal.ofNat paymentHash.length))

/-- Asks the provider to offer a swap of a payment hash, refundable to a public key, and rebuilds
the script of the swap. -/
def requestOffer (settings : SwapSettings) (terms : Terms) (nodeId paymentHash refundKey : Bytes) :
    Action SwapError SwapOffer := do
  requireHash paymentHash
  let ourKey ← parsePublicKey refundKey
  let providerKey ← parsePublicKey terms.providerKey
  let replyKey ← Action.ask .freshKey
  let envelope ← sealFresh (α := Wire.RegisterSubmarineRequest) providerKey
    { encryptPubkey := replyKey.publicKey.compressed
      paymentHash
      repayPubkey := refundKey
      destination := nodeId
      swapScriptVersion := scriptVersion }
  let reply ← Action.provider (.registerSubmarine envelope)
  let response ← openMessage Wire.RegisterSubmarineReply replyKey reply
  let theirKey ← parsePublicKey response.htlcPubkey
  let info ← Action.node .getInfo
  let network ← Network.ofName info.network
  let script ← SwapParameters.redeemScript ⟨paymentHash, theirKey, ourKey, settings.csvHeight⟩
  return { response, info, network, script }

/-- Accepts an offer if its address is that of the rebuilt script, and if the node watches the
script under the same address. -/
def acceptOffer (paymentHash refundKey : Bytes) (offer : SwapOffer) :
    Action SwapError RegisteredSwap := do
  requireAddress offer.address offer.response.scriptAddress
  let watched ←
    Action.node (.addWatchScript offer.script offer.info.blockHash offer.info.blockHeight)
  requireAddress watched offer.response.scriptAddress
  return offer.swap paymentHash refundKey

/-- Registers a swap of a payment hash, refundable to a public key. -/
def register (settings : SwapSettings) (terms : Terms) (nodeId paymentHash refundKey : Bytes) :
    Action SwapError RegisteredSwap := do
  acceptOffer paymentHash refundKey
    (← requestOffer settings terms nodeId paymentHash refundKey)

/-- Asks the provider to pay an invoice against a funded swap. -/
def receive (terms : Terms) (paymentHash : Bytes) (invoice : String) : Action SwapError Unit := do
  let providerKey ← parsePublicKey terms.providerKey
  let envelope ← sealFresh (α := Wire.ReceiveSubmarineRequest) providerKey ⟨paymentHash, invoice⟩
  let _ ← Action.provider (.receiveSubmarine envelope)

/-- Sweeps swap outputs to an address, and gives the transaction's id. -/
def refund (settings : SwapSettings) (inputs : List RefundInput) (address label : String) :
    Action SwapError Bytes := do
  let info ← Action.node .getInfo
  let network ← Network.ofName info.network
  let destination ← Address.parse network address
  let tx ← Refund.build inputs destination.script settings.csvHeight settings.feeRateSatPerKw
  Action.node (.publishTransaction tx.encode label)
  return tx.txid

/-- Watches a known swap script again, from the current block on. -/
def watchAgain (script : Bytes) : Action SwapError String := do
  let info ← Action.node .getInfo
  Action.node (.addWatchScript script info.blockHash info.blockHeight)

end Swap

end LiquidityClient
