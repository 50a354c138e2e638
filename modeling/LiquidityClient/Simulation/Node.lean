import LiquidityClient.Bitcoin.Address
import LiquidityClient.Collaborators
import LiquidityClient.Simulation.Plan

/-!
# A scripted node

It numbers the invoices it makes, moves balances for circular payments between its own channels, and
keeps a record of payments that its plan lets fail.
-/

namespace LiquidityClient.Simulation

/-- How an answer of the node differs from its usual one. -/
structure NodeChange where
  channels : Option (List Channel) := none
  payments : Option (List Payment) := none
  paymentRequest : Option String := none
  paymentHash : Option Bytes := none
  paymentAddress : Option Bytes := none
  payRequest : Option PayRequest := none
  address : Option String := none
  /-- How long a payment takes. -/
  delayMs : Nat := 0
  /-- The index of the node that fails a payment, with the reason on the record. -/
  failure : Option (UInt32 × FailureReason) := none
  paymentError : Option String := none

/-- The script of a node, and what it remembers. -/
structure NodeScript where
  info : NodeInfo
  channels : List Channel := []
  payments : List Payment := []
  payRequest : Option PayRequest := none
  plan : Plan NodeChange := []
  /-- The number of invoices asked for with a given preimage. -/
  invoices : Nat := 0
  /-- The number of other invoices made. -/
  plainInvoices : Nat := 0
  /-- The preimage of the last invoice asked for. -/
  lastPreimage : Bytes := []

namespace NodeScript

/-- The method of a call. -/
def methodName : NodeRequest → String
  | .getInfo => "get_info"
  | .listChannels => "list_channels"
  | .listPayments => "list_payments"
  | .addInvoice _ => "add_invoice"
  | .addPlainInvoice _ _ => "add_invoice_simple"
  | .decodePayRequest _ => "decode_pay_req"
  | .addWatchScript _ _ _ => "add_watch_script"
  | .publishTransaction _ _ => "publish_transaction"
  | .queryRoutes _ _ _ => "query_routes"
  | .sendToRoute _ _ => "send_to_route_sync"
  | .closeChannel _ _ _ => "close_channel"

/-- 32 copies of the byte `base + n`. -/
def filled (base n : Nat) : Bytes :=
  Bytes.repeated 32 (UInt8.ofNat (base + n))

/-- The invoice with this number. -/
def invoice (number : Nat) (request : InvoiceRequest) (change : NodeChange) : AddedInvoice where
  paymentRequest := change.paymentRequest.getD
    ("lnbcrt" ++ Decimal.ofInt request.amountSat.toInt ++ "n1mock" ++ Decimal.ofNat number)
  paymentHash := change.paymentHash.getD (filled 0x30 number)
  paymentAddress := change.paymentAddress.getD
    (match request.paymentAddress, request.mode with
      | some address, .createOnly => address
      | _, _ => filled 0x10 number)

/-- The first element with the property changed. -/
def updateFirst {α : Type} (p : α → Bool) (f : α → α) : List α → List α
  | [] => []
  | x :: rest => if p x then f x :: rest else x :: updateFirst p f rest

/-- The node after a payment over a route : one that returns over a second channel moves
balances. -/
def settle (node : NodeScript) (route : Route) : NodeScript :=
  match route.hops with
  | [out, back] =>
    if back.nodeKey = node.info.identityKey then
      let amount := route.totalAmountMsat / 1000
      let channels := updateFirst (fun c => c.channelId = out.channelId)
        (fun c => { c with
          localBalance := c.localBalance - amount
          remoteBalance := c.remoteBalance + amount }) node.channels
      { node with
        channels := updateFirst (fun c => c.remoteChannelId = back.channelId)
          (fun c => { c with
            localBalance := c.localBalance + amount
            remoteBalance := c.remoteBalance - amount }) channels }
    else node
  | _ => node

/-- The record of a payment that failed at a node of the route. -/
def failedPayment (paymentHash : Bytes) (route : Route) (index : UInt32) (reason : FailureReason) :
    Payment :=
  { paymentHash := Hex.encode paymentHash
    status := .failed
    failureReason := reason
    attempts := [⟨route, some ⟨"TEMPORARY_CHANNEL_FAILURE", index⟩⟩] }

/-- The outcome of a payment. -/
def send (paymentHash : Bytes) (route : Route) (change : NodeChange) (node : NodeScript) :
    SendResult × NodeScript :=
  match change.failure, change.paymentError with
  | some (index, reason), _ =>
    let others := node.payments.filter fun p => p.paymentHash ≠ Hex.encode paymentHash
    (⟨"TemporaryChannelFailure", [], paymentHash⟩,
      { node with payments := others ++ [failedPayment paymentHash route index reason] })
  | none, some error => (⟨error, [], paymentHash⟩, node)
  | none, none => (⟨"", Bytes.repeated 32 0, paymentHash⟩, node.settle route)

/-- The node as a call arrives. -/
def arrive (node : NodeScript) : NodeRequest → NodeScript
  | .addInvoice request =>
    { node with invoices := node.invoices + 1, lastPreimage := request.preimage }
  | _ => node

/-- The answer of a call that happens, and the node after it. -/
def handle (change : NodeChange) : (request : NodeRequest) → NodeScript →
    Except Fault request.Answer × NodeScript
  | .getInfo, node => (.ok node.info, node)
  | .listChannels, node => (.ok (change.channels.getD node.channels), node)
  | .listPayments, node => (.ok (change.payments.getD node.payments), node)
  | .addInvoice request, node => (.ok (invoice (node.invoices - 1) request change), node)
  | .addPlainInvoice amountMsat _, node =>
    let n := node.plainInvoices
    (.ok
      { paymentRequest :=
          "lnbcrt" ++ Decimal.ofInt amountMsat.toInt ++ "p1self" ++ Decimal.ofNat n
        paymentHash := filled 0x40 n
        paymentAddress := filled 0x60 n },
      { node with plainInvoices := n + 1 })
  | .decodePayRequest text, node =>
    (match change.payRequest <|> node.payRequest with
      | some request => .ok request
      | none => .error (.node ("cannot decode " ++ text)), node)
  | .addWatchScript script _ _, node =>
    let network := (Network.ofName node.info.network).toOption.getD .regtest
    (.ok (change.address.getD (Address.payToScriptHash network script)), node)
  | .publishTransaction _ _, node => (.ok (), node)
  | .queryRoutes _ _ _, node => (.ok [], node)
  | .sendToRoute paymentHash route, node =>
    let (result, node) := node.send paymentHash route change
    (.ok result, node)
  | .closeChannel _ _ _, node => (.ok (), node)

end NodeScript

end LiquidityClient.Simulation
