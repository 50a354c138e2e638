import LiquidityClient.Attestation
import LiquidityClient.Configuration
import LiquidityClient.Payment.Pay
import LiquidityClient.Rebalance
import LiquidityClient.Registration
import LiquidityClient.Session
import LiquidityClient.Swap.Engine
import LiquidityClient.Swap.Keys

/-!
# The client

The operations of one wallet with one provider. Those that talk to the provider first see to it that
there are terms; those that only read the terms fail without them.
-/

namespace LiquidityClient

/-- A client : its configuration, and whether a watcher of the chain is attached. -/
structure Client where
  configuration : Configuration
  hasWatcher : Bool := false
  deriving DecidableEq, Repr

namespace Client

/-! ## What the terms tell -/

/-- The version of the protocol that the provider speaks. -/
def version : Operation String := do
  return (← Session.snapshot).version

/-- The provider's node, `key@host`. -/
def hubNode : Operation String := do
  return (← Session.snapshot).hubNode

/-- The provider's service fee in parts of ten thousand. -/
def feePermyriad : Operation Int64 := do
  return (← Session.snapshot).feePermyriad

/-- The service fee for receiving an amount over a new channel. -/
def paymentFee (amountSat : Int64) : Operation Int64 := do
  return (← Session.snapshot).serviceFeeSat amountSat

/-- The provider's routing policy, if there are terms and the peer is the provider's node. -/
def feeHint? (peer : Bytes) : Operation (Option FeeHint) := do
  return (← get).terms.bind fun terms => terms.feeHint? peer

/-! ## Session -/

/-- Asks for a sign of life. Without one the terms are dropped. -/
def ping (nonce : Int32) : Operation Int32 := do
  let _ ← Session.ensure
  match ← Operation.outcome (Action.provider (.ping ⟨nonce⟩)) with
  | .ok reply => return reply.nonce
  | .error cause =>
    Session.invalidate
    throw (.fault cause)

/-- The largest amount that a channel can receive. -/
def receiveMax : Operation Int64 := do
  return receivableMax (← Action.node .listChannels)

/-! ## Payments -/

/-- Registers a payment that is to arrive over a new channel, and gives the payer's invoice. -/
def registerPayment (amountSat : Int64) (memo : String) : Operation String := do
  let terms ← Session.ensure
  let nodeId ← Session.resolveNodeId
  LiquidityClient.registerPayment terms nodeId amountSat memo

/-- Pays an invoice over the provider's routes. -/
def payInvoice (invoice : String) (feeLimitSat amountSat : Int64) : Operation PaymentOutcome := do
  let terms ← Session.ensure
  Operation.ofAction .route (pay terms invoice feeLimitSat amountSat)

/-- A route from our node to the payee of an invoice. -/
def buildRoute (query : RouteQuery) : Operation Route := do
  let terms ← Session.ensure
  Operation.ofAction .route (findRoute terms query)

/-- Moves all balances into the largest channel and closes the others. What the runtime says of a
task that died may be left out. -/
def rebalance (client : Client) (died : Rebalance.Phase → String := fun _ => "") :
    Operation RebalanceReport := do
  let terms ← Session.ensure
  Rebalance.run terms client.configuration.rebalance died

/-! ## Swaps -/

/-- The number of blocks until a swap can be refunded. -/
def refundBlocks (client : Client) : UInt32 :=
  client.configuration.swap.csvHeight

/-- Fresh secrets for a swap. -/
def createSwapKeys : Operation SwapKeys :=
  Operation.ofAction id freshSwapKeys

/-- Registers a swap of a payment hash, refundable to a public key. -/
def registerSwap (client : Client) (paymentHash refundKey : Bytes) : Operation RegisteredSwap := do
  let terms ← Session.ensure
  let nodeId ← Session.resolveNodeId
  Operation.ofAction .swap
    (Swap.register client.configuration.swap terms nodeId paymentHash refundKey)

/-- Asks the provider to pay an invoice against a funded swap. -/
def receiveSwap (paymentHash : Bytes) (invoice : String) : Operation Unit := do
  let terms ← Session.ensure
  Operation.ofAction .swap (Swap.receive terms paymentHash invoice)

/-- Sweeps swap outputs to an address, and gives the transaction's id. -/
def refundSwaps (client : Client) (inputs : List RefundInput) (address label : String) :
    Operation String := do
  let _ ← Session.ensure
  let txid ← Operation.ofAction .swap
    (Swap.refund client.configuration.swap inputs address label)
  return showTxid txid

/-- Watches a known swap script again, and gives its address. -/
def watchSwapAgain (script : Bytes) : Operation String := do
  let _ ← Session.ensure
  Operation.ofAction .swap (Swap.watchAgain script)

/-! ## Account -/

/-- Registers a mail address. -/
def registerMail (address : String) : Operation Unit := do
  let terms ← Session.ensure
  Operation.ofAction id (do
    let providerKey ← parsePublicKey terms.providerKey
    let envelope ← sealFresh (α := Wire.RegisterUserInfoRequest) providerKey ⟨address⟩
    let _ ← Action.provider (.registerUserInfo envelope) : Action ClientError Unit)

/-- Sends a report to the provider. -/
def report (category : String) (level : Wire.ReportLevel) (message : String) : Operation Unit := do
  let terms ← Session.ensure
  Operation.ofAction .route (sendReport terms category level message)

/-- Asks the provider to open a channel to our node. -/
def requestChannel : Operation Unit := do
  let _ ← Session.ensure
  let nodeId ← Session.resolveNodeId
  let _ ← Action.provider (.openChannel ⟨Hex.encode nodeId⟩)

/-- Asks for a nonce for the attestation of a device. -/
def attestationNonce (device : String) : Operation String := do
  let terms ← Session.ensure
  let nodeId ← Session.resolveNodeId
  LiquidityClient.attestationNonce terms nodeId device

/-- Submits the attestation of a device. -/
def verifyAttestation (device token : String) : Operation Wire.IntegrityResult := do
  let terms ← Session.ensure
  let nodeId ← Session.resolveNodeId
  LiquidityClient.verifyAttestation terms nodeId device token

/-! ## Closed channels -/

/-- Fails if no watcher is attached. -/
def requireWatcher (client : Client) : Operation Unit :=
  if client.hasWatcher then pure () else throw (.fault (.configuration "no close watcher attached"))

/-- Starts to watch a channel for its close on the chain. -/
def watchClose (client : Client) (channelPoint : String) : Operation Unit := do
  client.requireWatcher
  match ChannelPoint.validate channelPoint with
  | .error cause => throw (.fault cause)
  | .ok () => Action.watcher (.register channelPoint)

/-- Stops to watch a channel. -/
def unwatchClose (client : Client) (channelPoint : String) : Operation Unit := do
  client.requireWatcher
  Action.watcher (.unregister channelPoint)

/-- How many of the watched channels are closed on the chain. -/
def countClosed (client : Client) : Operation Nat := do
  client.requireWatcher
  Action.watcher .checkClosed

end Client

end LiquidityClient
