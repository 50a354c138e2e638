import LiquidityClient.Lightning.Route

/-!
# What the local node tells

Identity and chain tip, channels, payments and invoices, as the client reads them from the node. A
channel point is the text `txid:index` of the channel's funding output; `ChannelPoint.parse` splits
it at the first colon.
-/

namespace LiquidityClient

/-- Identity and chain tip of the local node. -/
structure NodeInfo where
  /-- Node id, in hexadecimal. -/
  identityKey : String
  blockHeight : UInt32
  blockHash : String
  /-- Name of the chain. -/
  network : String
  deriving DecidableEq, Repr

/-- An active channel of the local node; balances in satoshis. -/
structure Channel where
  channelId : UInt64
  /-- The id by which the peer knows the channel. -/
  remoteChannelId : UInt64
  remoteKey : String
  channelPoint : String
  capacity : Int64
  localBalance : Int64
  remoteBalance : Int64
  commitFee : Int64
  localReserveSat : UInt64
  remoteReserveSat : UInt64
  deriving DecidableEq, Repr

namespace ChannelPoint

/-- The characters before and after the first colon, if there is one. -/
def splitColon : List Char → Option (List Char × List Char)
  | [] => none
  | c :: rest =>
    if c = ':' then some ([], rest)
    else (splitColon rest).map fun (before, after) => (c :: before, after)

/-- The funding transaction and the output index of a channel point. -/
def parse (point : String) : Except Fault (String × UInt32) :=
  match splitColon point.toList with
  | none => .error (.invalidInput ("bad channel point: " ++ point))
  | some (txid, index) =>
    match Decimal.readUInt32 (String.ofList index) with
    | .ok n => .ok (String.ofList txid, n)
    | .error e =>
      .error (.invalidInput
        ("bad channel point index " ++ String.ofList index ++ ": " ++ e.message))

/-- Accepts a channel point whose transaction id is 64 hexadecimal digits. -/
def validate (point : String) : Except Fault Unit :=
  match parse point with
  | .error fault => .error fault
  | .ok (txid, _) =>
    if txid.utf8ByteSize = 64 ∧ Hex.isHex txid then .ok ()
    else .error (.invalidInput ("bad channel point txid: " ++ point))

end ChannelPoint

/-- State of a payment, numbered as the node reports it. -/
inductive PaymentStatus where
  | unknown
  | inFlight
  | succeeded
  | failed
  deriving DecidableEq, Repr

/-- Why a payment did not succeed. -/
inductive FailureReason where
  | none
  | timeout
  | noRoute
  | error
  | incorrectPaymentDetails
  | insufficientBalance
  deriving DecidableEq, Repr

namespace PaymentStatus

/-- The node's name of a status. -/
def name : PaymentStatus → String
  | .unknown => "UNKNOWN"
  | .inFlight => "IN_FLIGHT"
  | .succeeded => "SUCCEEDED"
  | .failed => "FAILED"

/-- The status with this name; any other name is an unknown status. -/
def ofName (text : String) : PaymentStatus :=
  if text = "IN_FLIGHT" then .inFlight
  else if text = "SUCCEEDED" then .succeeded
  else if text = "FAILED" then .failed
  else .unknown

/-- The status as a word. -/
def word : PaymentStatus → String
  | .unknown => "Unknown"
  | .inFlight => "InFlight"
  | .succeeded => "Succeeded"
  | .failed => "Failed"

end PaymentStatus

namespace FailureReason

/-- The node's name of a reason. -/
def name : FailureReason → String
  | .none => "FAILURE_REASON_NONE"
  | .timeout => "FAILURE_REASON_TIMEOUT"
  | .noRoute => "FAILURE_REASON_NO_ROUTE"
  | .error => "FAILURE_REASON_ERROR"
  | .incorrectPaymentDetails => "FAILURE_REASON_INCORRECT_PAYMENT_DETAILS"
  | .insufficientBalance => "FAILURE_REASON_INSUFFICIENT_BALANCE"

/-- The node's number of a reason. -/
def number : FailureReason → Nat
  | .none => 0
  | .timeout => 1
  | .noRoute => 2
  | .error => 3
  | .incorrectPaymentDetails => 4
  | .insufficientBalance => 5

/-- The reason with this name; any other name is no reason. -/
def ofName (text : String) : FailureReason :=
  if text = "FAILURE_REASON_TIMEOUT" then .timeout
  else if text = "FAILURE_REASON_NO_ROUTE" then .noRoute
  else if text = "FAILURE_REASON_ERROR" then .error
  else if text = "FAILURE_REASON_INCORRECT_PAYMENT_DETAILS" then .incorrectPaymentDetails
  else if text = "FAILURE_REASON_INSUFFICIENT_BALANCE" then .insufficientBalance
  else .none

/-- The reason as a word. -/
def word : FailureReason → String
  | .none => "None"
  | .timeout => "Timeout"
  | .noRoute => "NoRoute"
  | .error => "Error"
  | .incorrectPaymentDetails => "IncorrectPaymentDetails"
  | .insufficientBalance => "InsufficientBalance"

end FailureReason

/-- A failure that a node on the route reported. -/
structure HtlcFailure where
  code : String
  /-- Index in the route of the node that reported the failure; 0 is ourselves. -/
  sourceIndex : UInt32
  deriving DecidableEq, Repr

/-- One attempt of a payment. -/
structure HtlcAttempt where
  route : Route
  failure : Option HtlcFailure
  deriving DecidableEq, Repr

/-- A payment on the node's record. -/
structure Payment where
  /-- Payment hash, in hexadecimal. -/
  paymentHash : String
  status : PaymentStatus
  failureReason : FailureReason
  attempts : List HtlcAttempt
  deriving DecidableEq, Repr

/-- The edge that failed the payment's single attempt : the one that leads into the node that
reported the failure. Payments with no or several attempts, failures reported by ourselves, by the
payee or from behind the route, and node ids that are not hexadecimal name no edge. -/
def Payment.failingEdge? (payment : Payment) : Option Edge :=
  match payment.attempts with
  | [⟨route, some failure⟩] =>
    match failure.sourceIndex.toNat with
    | 0 => none
    | i + 1 =>
      match route.hops[i]?, route.hops[i + 1]? with
      | some source, some target => (Edge.ofHex source.nodeKey target.nodeKey).toOption
      | _, _ => none
  | _ => none

/-- A decoded payment request. -/
structure PayRequest where
  destination : String
  paymentHash : String
  amountMsat : Int64
  amountSat : Int64
  /-- Creation time, in seconds since the epoch. -/
  timestamp : Int64
  /-- Validity after the creation, in seconds. -/
  expiry : Int64
  paymentAddress : Bytes
  deriving DecidableEq, Repr

/-- Result of sending a payment over a route; the error is empty on success. -/
structure SendResult where
  paymentError : String
  preimage : Bytes
  paymentHash : Bytes
  deriving DecidableEq, Repr

/-- A hint in an invoice : the last hop to the payee. -/
structure HopHint where
  nodeId : String
  channelId : UInt64
  feeBaseMsat : UInt32
  feeProportionalMillionths : UInt32
  cltvExpiryDelta : UInt32
  deriving DecidableEq, Repr

/-- How the node keeps an invoice with a given preimage. -/
inductive InvoiceMode where
  /-- Stored, and settled when paid. -/
  | register
  /-- Only encoded and returned. -/
  | createOnly
  deriving DecidableEq, Repr

/-- An invoice to be made with a given preimage. -/
structure InvoiceRequest where
  amountSat : Int64
  preimage : Bytes
  memo : String
  routeHint : Option HopHint
  paymentAddress : Option Bytes
  mode : InvoiceMode
  deriving DecidableEq, Repr

/-- An invoice that was made. -/
structure AddedInvoice where
  paymentRequest : String
  paymentHash : Bytes
  paymentAddress : Bytes
  deriving DecidableEq, Repr

end LiquidityClient
