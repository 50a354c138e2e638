import LiquidityClient.Payment.Report
import LiquidityClient.Payment.Search

/-!
# Paying an invoice

`pay` looks for a route and sends the payment over it, in at most ten rounds. A round that fails at
an edge excludes this edge and starts another one; any other failure ends the payment. A payment
that passed the first checks and did not succeed is reported to the provider, and a failed report
changes nothing.
-/

namespace LiquidityClient

/-- The most rounds of one payment. -/
def maxRounds : Nat := 10

/-- The category of reports on payments. -/
def reportCategory : String := "QueryRoutes"

/-- How a payment ended. -/
structure PaymentOutcome where
  /-- The invoice's payment hash, in hexadecimal. -/
  paymentHash : String
  status : PaymentStatus
  failureReason : FailureReason
  /-- The number of edges excluded in the end. -/
  excludedPairs : Nat
  /-- The number of routes sent. -/
  attempts : Nat
  deriving DecidableEq, Repr

/-- Did the payment succeed? -/
def PaymentOutcome.isSuccess (outcome : PaymentOutcome) : Bool :=
  outcome.status = .succeeded

/-- What came of sending one route. -/
inductive SendOutcome where
  | succeeded
  | failed (reason : FailureReason) (edge : Option Edge)
  deriving DecidableEq, Repr

/-- What the node's record tells of a payment that failed. -/
def SendOutcome.ofPayments (paymentHash : Bytes) (payments : List Payment) : SendOutcome :=
  match payments.find? fun p => p.paymentHash = Hex.encode paymentHash with
  | none => .failed .error none
  | some payment =>
    -- The node knows of no failure; the payment was likely made before.
    if payment.failureReason = .none then .failed .error none
    else .failed payment.failureReason payment.failingEdge?

/-- Sends a payment over a route. -/
def sendRoute (paymentHash : Bytes) (route : Route) : Action Fault SendOutcome := do
  let result ← Action.node (.sendToRoute paymentHash route)
  if result.paymentError.isEmpty then return .succeeded
  let payments ← Action.node .listPayments
  return SendOutcome.ofPayments paymentHash payments

/-- The text of the report on a payment that failed. -/
def failureReport (request : PayRequest) (excluded : Nat) (reason : FailureReason) : String :=
  let destination :=
    match Hex.decode request.destination with
    | .ok bytes => Hex.encode (Sha256.hash bytes)
    | .error e => "(destination not hex: " ++ e.message ++ ")"
  "FAIL: hashed_destination=" ++ destination ++ ", errPairs=" ++ Decimal.ofNat excluded
    ++ ", last_reason=" ++ reason.name

/-- Reports a payment that failed, whether or not the report arrives. -/
def reportFailure (terms : Terms) (request : PayRequest) (excluded : Nat) (reason : FailureReason)
    (level : Wire.ReportLevel) : Action RouteError Unit := do
  let _ ← (sendReport terms reportCategory level (failureReport request excluded reason)).outcome

/-- What the rounds have led to so far. -/
structure PaymentProgress where
  excluded : List Edge
  reason : FailureReason
  level : Wire.ReportLevel
  attempts : Nat

namespace PaymentProgress

/-- Before the first round. -/
def start : PaymentProgress :=
  ⟨[], .error, .normal, 0⟩

/-- The outcome of a payment that failed. -/
def failure (progress : PaymentProgress) (request : PayRequest) : PaymentOutcome :=
  ⟨request.paymentHash, .failed, progress.reason, progress.excluded.length, progress.attempts⟩

/-- The outcome of a payment that succeeded. -/
def success (progress : PaymentProgress) (request : PayRequest) : PaymentOutcome :=
  ⟨request.paymentHash, .succeeded, .none, progress.excluded.length, progress.attempts⟩

end PaymentProgress

/-- A payment on its way. -/
structure PaymentJob where
  terms : Terms
  invoice : String
  feeLimitSat : Int64
  amountSat : Int64
  /-- The decoded invoice, with its amount. -/
  request : PayRequest
  paymentHash : Bytes

namespace PaymentJob

/-- The query for the next route. -/
def query (job : PaymentJob) (excluded : List Edge) : RouteQuery where
  invoice := job.invoice
  paymentAddress := job.request.paymentAddress
  totalAmountMsat := job.request.amountMsat
  feeLimitSat := job.feeLimitSat
  amountSat := job.amountSat
  ignored := excluded

/-- Reports a payment that failed, and ends it. -/
def giveUp (job : PaymentJob) (progress : PaymentProgress) : Action RouteError PaymentOutcome := do
  reportFailure job.terms job.request progress.excluded.length progress.reason progress.level
  return progress.failure job.request

/-- Goes on after a send : ends the payment, or starts again by `retry` with the failed edge
excluded. -/
def afterSend (job : PaymentJob) (progress : PaymentProgress)
    (retry : PaymentProgress → Action RouteError PaymentOutcome) :
    Except Fault SendOutcome → Action RouteError PaymentOutcome
  | .error cause => do
    reportFailure job.terms job.request progress.excluded.length .error .normal
    throw (.fault cause)
  | .ok .succeeded => return progress.success job.request
  | .ok (.failed reason none) => job.giveUp { progress with reason, level := .normal }
  | .ok (.failed reason (some edge)) =>
    retry { progress with excluded := progress.excluded ++ [edge], reason, level := .notify }

/-- The remaining rounds of a payment. -/
def rounds (job : PaymentJob) : Nat → PaymentProgress → Action RouteError PaymentOutcome
  | 0, progress => job.giveUp progress
  | remaining + 1, progress => do
    match ← (findRoute job.terms (job.query progress.excluded)).outcome with
    | .error _ => job.giveUp { progress with reason := .noRoute, level := .notify }
    | .ok route =>
      let sent ← (sendRoute job.paymentHash route).outcome
      job.afterSend { progress with attempts := progress.attempts + 1 } (job.rounds remaining) sent

end PaymentJob

/-- An amount in millisatoshis. -/
def toMsat (amountSat : Int64) : Except Fault Int64 :=
  match checkedProduct? amountSat msatPerSat with
  | some amountMsat => .ok amountMsat
  | none =>
    .error (.invalidInput ("amount " ++ Decimal.ofInt amountSat.toInt ++ " sat overflows msat"))

/-- The pay request with its amount, which is the given one if the invoice names none. -/
def PayRequest.withAmount (request : PayRequest) (amountSat : Int64) : Except Fault PayRequest :=
  if request.amountMsat = 0 then
    match toMsat amountSat with
    | .ok amountMsat => .ok { request with amountMsat }
    | .error cause => .error cause
  else .ok request

/-- The payment hash of a request as bytes. -/
def PayRequest.hashBytes (request : PayRequest) : Except Fault Bytes :=
  match Hex.decode request.paymentHash with
  | .ok bytes => .ok bytes
  | .error e => .error (.invalidInput ("payment hash is not hex: " ++ e.message))

/-- Decodes an invoice and checks that it can be paid. -/
def preparePayment (terms : Terms) (invoice : String) (feeLimitSat amountSat : Int64) :
    Action RouteError PaymentJob := do
  let request ← Action.node (.decodePayRequest invoice)
  let expiredAt := request.timestamp + request.expiry
  let now ← Action.ask .now
  if expiredAt < now then throw (.invoiceExpired expiredAt)
  let request ← request.withAmount amountSat
  let paymentHash ← request.hashBytes
  return { terms, invoice, feeLimitSat, amountSat, request, paymentHash }

/-- Pays an invoice; the given amount counts for invoices that name none. -/
def pay (terms : Terms) (invoice : String) (feeLimitSat amountSat : Int64) :
    Action RouteError PaymentOutcome := do
  let job ← preparePayment terms invoice feeLimitSat amountSat
  job.rounds maxRounds .start

end LiquidityClient
