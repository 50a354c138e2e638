import LiquidityClient.Json.Record
import LiquidityClient.Lightning.Route

/-!
# Routes in JSON

The node's form of a route. Numbers of 64 bits are written as texts, those of 32 bits as numbers,
and a hop has a multi-path record only if there is one. The members of an object stand in the order
of their names.
-/

namespace LiquidityClient

open JsonValue (ofText ofDecimal ofBytes ofMembers asText? asBoolean? asList? asOptional? asUInt32?
  asUInt64? asInt64? asBytes?)

namespace MultiPathRecord

/-- The record in JSON. -/
def toJson (record : MultiPathRecord) : JsonValue :=
  ofMembers
    [("payment_addr", ofBytes record.paymentAddress),
      ("total_amt_msat", ofDecimal record.totalAmountMsat.toInt)]

/-- The record in a document. -/
def ofJson? (value : JsonValue) : Option MultiPathRecord := do
  let fields ← JsonRecord.ofValue? ["payment_addr", "total_amt_msat"] value
  return {
    paymentAddress := ← fields.field? 0 "payment_addr" [] asBytes?
    totalAmountMsat := ← fields.field? 1 "total_amt_msat" 0 asInt64? }

end MultiPathRecord

namespace Hop

/-- The hop in JSON. -/
def toJson (hop : Hop) : JsonValue :=
  ofMembers
    ([("amt_to_forward_msat", ofDecimal hop.amountMsat.toInt),
      ("chan_id", ofDecimal hop.channelId.toNat),
      ("expiry", .integer hop.expiry.toNat),
      ("fee_msat", ofDecimal hop.feeMsat.toInt)]
      ++ (hop.multiPath.map fun record => ("mpp_record", record.toJson)).toList
      ++ [("pub_key", ofText hop.nodeKey), ("tlv_payload", .boolean hop.tlvPayload)])

/-- The hop in a document. -/
def ofJson? (value : JsonValue) : Option Hop := do
  let fields ← JsonRecord.ofValue?
    ["chan_id", "expiry", "amt_to_forward_msat", "fee_msat", "pub_key", "tlv_payload", "mpp_record"]
    value
  return {
    channelId := ← fields.field? 0 "chan_id" 0 asUInt64?
    expiry := ← fields.field? 1 "expiry" 0 asUInt32?
    amountMsat := ← fields.field? 2 "amt_to_forward_msat" 0 asInt64?
    feeMsat := ← fields.field? 3 "fee_msat" 0 asInt64?
    nodeKey := ← fields.field? 4 "pub_key" "" asText?
    tlvPayload := ← fields.field? 5 "tlv_payload" false asBoolean?
    multiPath := ← fields.field? 6 "mpp_record" none (asOptional? MultiPathRecord.ofJson?) }

end Hop

namespace Route

/-- The route in JSON. -/
def toJson (route : Route) : JsonValue :=
  ofMembers
    [("hops", .array (route.hops.map Hop.toJson)),
      ("total_amt_msat", ofDecimal route.totalAmountMsat.toInt),
      ("total_fees_msat", ofDecimal route.totalFeesMsat.toInt),
      ("total_time_lock", .integer route.totalTimeLock.toNat)]

/-- The route in a document. -/
def ofJson? (value : JsonValue) : Option Route := do
  let fields ← JsonRecord.ofValue?
    ["total_time_lock", "total_fees_msat", "total_amt_msat", "hops"] value
  return {
    totalTimeLock := ← fields.field? 0 "total_time_lock" 0 asUInt32?
    totalFeesMsat := ← fields.field? 1 "total_fees_msat" 0 asInt64?
    totalAmountMsat := ← fields.field? 2 "total_amt_msat" 0 asInt64?
    hops := ← fields.field? 3 "hops" [] (asList? Hop.ofJson?) }

end Route

end LiquidityClient
