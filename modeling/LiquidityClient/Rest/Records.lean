import LiquidityClient.Lightning.Node
import LiquidityClient.Rest.Route

/-!
# The node's records in JSON

The documents in which the node answers, as far as the client reads them. A field that is left out
has its zero value, except the node's own id, which must be there.
-/

namespace LiquidityClient

open JsonValue (asText? asList? asOptional? asUInt32? asUInt64? asInt64? asBytes?)

/-! ## Identity and channels -/

/-- The name of a chain in a document. -/
def chainOfJson? (value : JsonValue) : Option String := do
  let fields ← JsonRecord.ofValue? ["network"] value
  fields.field? 0 "network" "" asText?

/-- What the node tells of itself, once for each of its chains. -/
def NodeInfo.ofJson? (value : JsonValue) : Option (List NodeInfo) := do
  let fields ← JsonRecord.ofValue? ["identity_pubkey", "block_height", "block_hash", "chains"] value
  let identityKey ← fields.required? 0 "identity_pubkey" asText?
  let blockHeight ← fields.field? 1 "block_height" 0 asUInt32?
  let blockHash ← fields.field? 2 "block_hash" "" asText?
  let chains ← fields.field? 3 "chains" [] (asList? chainOfJson?)
  return chains.map fun network => { identityKey, blockHeight, blockHash, network }

/-- The reserve in the constraints of one side of a channel. -/
def reserveOfJson? (value : JsonValue) : Option UInt64 := do
  let fields ← JsonRecord.ofValue? ["chan_reserve_sat"] value
  fields.field? 0 "chan_reserve_sat" 0 asUInt64?

/-- The channel in a document. Without an id that the peer uses, its alias counts. -/
def Channel.ofJson? (value : JsonValue) : Option Channel := do
  let fields ← JsonRecord.ofValue?
    ["chan_id", "remote_chan_id", "peer_scid_alias", "remote_pubkey", "channel_point", "capacity",
      "local_balance", "remote_balance", "commit_fee", "local_constraints", "remote_constraints"]
    value
  let remoteId ← fields.field? 1 "remote_chan_id" 0 asUInt64?
  let alias_ ← fields.field? 2 "peer_scid_alias" 0 asUInt64?
  return {
    channelId := ← fields.field? 0 "chan_id" 0 asUInt64?
    remoteChannelId := if remoteId ≠ 0 then remoteId else alias_
    remoteKey := ← fields.field? 3 "remote_pubkey" "" asText?
    channelPoint := ← fields.field? 4 "channel_point" "" asText?
    capacity := ← fields.field? 5 "capacity" 0 asInt64?
    localBalance := ← fields.field? 6 "local_balance" 0 asInt64?
    remoteBalance := ← fields.field? 7 "remote_balance" 0 asInt64?
    commitFee := ← fields.field? 8 "commit_fee" 0 asInt64?
    localReserveSat := ← fields.field? 9 "local_constraints" 0 reserveOfJson?
    remoteReserveSat := ← fields.field? 10 "remote_constraints" 0 reserveOfJson? }

/-! ## Payments -/

/-- The failure in a document. -/
def HtlcFailure.ofJson? (value : JsonValue) : Option HtlcFailure := do
  let fields ← JsonRecord.ofValue? ["code", "failure_source_index"] value
  return {
    code := ← fields.field? 0 "code" "" asText?
    sourceIndex := ← fields.field? 1 "failure_source_index" 0 asUInt32? }

/-- The attempt in a document. -/
def HtlcAttempt.ofJson? (value : JsonValue) : Option HtlcAttempt := do
  let fields ← JsonRecord.ofValue? ["route", "failure"] value
  return {
    route := ← fields.field? 0 "route" .empty Route.ofJson?
    failure := ← fields.field? 1 "failure" none (asOptional? HtlcFailure.ofJson?) }

/-- The payment in a document. -/
def Payment.ofJson? (value : JsonValue) : Option Payment := do
  let fields ← JsonRecord.ofValue? ["payment_hash", "status", "failure_reason", "htlcs"] value
  return {
    paymentHash := ← fields.field? 0 "payment_hash" "" asText?
    status := .ofName (← fields.field? 1 "status" "" asText?)
    failureReason := .ofName (← fields.field? 2 "failure_reason" "" asText?)
    attempts := ← fields.field? 3 "htlcs" [] (asList? HtlcAttempt.ofJson?) }

/-- The result of sending a payment in a document. -/
def SendResult.ofJson? (value : JsonValue) : Option SendResult := do
  let fields ← JsonRecord.ofValue? ["payment_error", "payment_preimage", "payment_hash"] value
  return {
    paymentError := ← fields.field? 0 "payment_error" "" asText?
    preimage := ← fields.field? 1 "payment_preimage" [] asBytes?
    paymentHash := ← fields.field? 2 "payment_hash" [] asBytes? }

/-! ## Invoices -/

/-- The invoice in a document. -/
def AddedInvoice.ofJson? (value : JsonValue) : Option AddedInvoice := do
  let fields ← JsonRecord.ofValue? ["r_hash", "payment_request", "payment_addr"] value
  return {
    paymentHash := ← fields.field? 0 "r_hash" [] asBytes?
    paymentRequest := ← fields.field? 1 "payment_request" "" asText?
    paymentAddress := ← fields.field? 2 "payment_addr" [] asBytes? }

/-- The pay request in a document. -/
def PayRequest.ofJson? (value : JsonValue) : Option PayRequest := do
  let fields ← JsonRecord.ofValue?
    ["destination", "payment_hash", "num_satoshis", "num_msat", "timestamp", "expiry",
      "payment_addr"] value
  return {
    destination := ← fields.field? 0 "destination" "" asText?
    paymentHash := ← fields.field? 1 "payment_hash" "" asText?
    amountSat := ← fields.field? 2 "num_satoshis" 0 asInt64?
    amountMsat := ← fields.field? 3 "num_msat" 0 asInt64?
    timestamp := ← fields.field? 4 "timestamp" 0 asInt64?
    expiry := ← fields.field? 5 "expiry" 0 asInt64?
    paymentAddress := ← fields.field? 6 "payment_addr" [] asBytes? }

/-! ## Single fields -/

/-- The only text that is read of a document, in the field of this name. -/
def textOfJson? (name : String) (value : JsonValue) : Option String := do
  let fields ← JsonRecord.ofValue? [name] value
  fields.field? 0 name "" asText?

/-- The only list that is read of a document, in the field of this name. -/
def listOfJson? {α : Type} (name : String) (read? : JsonValue → Option α) (value : JsonValue) :
    Option (List α) := do
  let fields ← JsonRecord.ofValue? [name] value
  fields.field? 0 name [] (asList? read?)

end LiquidityClient
