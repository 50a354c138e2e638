import LiquidityClient.Binary64.Shortest
import LiquidityClient.Payment.Pay

/-!
# Receiving over a channel opened on the fly

Two invoices share a preimage and a payment address : the node keeps one for what the provider
forwards after its fee, the payer gets one for the whole amount. The provider learns the payment
hash, the payment address and both amounts in a sealed message. An amount that a channel can already
receive is refused.
-/

namespace LiquidityClient

/-- The channel id in the hint. The channel does not exist before the provider opens it. -/
def hintChannelId : UInt64 := 333333

/-- An unsigned 32-bit number, if the value is one. -/
def toWord32? (n : Int64) : Option UInt32 :=
  if 0 ≤ n.toInt ∧ n.toInt < UInt32.size then some (UInt32.ofNat n.toInt.toNat) else none

/-- The hint through the channel that the provider is to open, priced by its terms. -/
def Terms.hopHint (terms : Terms) : Except Fault HopHint :=
  match toWord32? terms.baseFeeMsat with
  | none =>
    .error (.protocol
      ("base fee " ++ Decimal.ofInt terms.baseFeeMsat.toInt ++ " msat out of range"))
  | some feeBaseMsat =>
    match toWord32? terms.feeMillionths with
    | none => .error (.protocol ("fee rate " ++ terms.feeRate.toText ++ " out of range"))
    | some feeProportionalMillionths =>
      .ok
        { nodeId := terms.nodeKey
          channelId := hintChannelId
          feeBaseMsat
          feeProportionalMillionths
          cltvExpiryDelta := terms.timeLockDelta }

/-- Refuses an amount that one of the channels can receive. -/
def requireNewChannel (channels : List Channel) (amountSat : Int64) : Except ClientError Unit :=
  let available := receivableMax channels
  if amountSat ≤ available then .error (.alreadyReceivable available amountSat) else .ok ()

/-- Registers a payment that is to arrive over a new channel, and gives the payer's invoice. -/
def registerPayment (terms : Terms) (nodeId : Bytes) (amountSat : Int64) (memo : String) :
    Action ClientError String := do
  let channels ← Action.node .listChannels
  requireNewChannel channels amountSat
  let preimage ← Action.ask (.freshBytes 32)
  let outgoingSat := amountSat - terms.serviceFeeSat amountSat
  let incomingMsat ← toMsat amountSat
  let outgoingMsat ← toMsat outgoingSat
  let hint ← terms.hopHint
  let kept ← Action.node (.addInvoice
    { amountSat := outgoingSat
      preimage := preimage.val
      memo
      routeHint := some hint
      paymentAddress := none
      mode := .register })
  let forPayer ← Action.node (.addInvoice
    { amountSat
      preimage := preimage.val
      memo
      routeHint := some hint
      paymentAddress := some kept.paymentAddress
      mode := .createOnly })
  if forPayer.paymentAddress ≠ kept.paymentAddress then throw .paymentAddressMismatch
  let providerKey ← parsePublicKey terms.providerKey
  let envelope ← sealFresh (α := Wire.PaymentInformation) providerKey
    { paymentHash := forPayer.paymentHash
      paymentSecret := kept.paymentAddress
      destination := nodeId
      incomingAmountMsat := incomingMsat
      outgoingAmountMsat := outgoingMsat }
  let _ ← Action.provider (.registerPayment ⟨"", envelope.data⟩)
  return forPayer.paymentRequest

end LiquidityClient
