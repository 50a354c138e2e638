import LiquidityClient.Files
import LiquidityClient.Json.Reader
import LiquidityClient.Json.Record
import LiquidityClient.Swap.Refund

/-!
# Files of swap outputs

The swap outputs that are to be swept, as an array of records in a JSON file. All fields must be
there; scripts and keys are in hexadecimal.
-/

namespace LiquidityClient.Cli

/-- A record of the file. -/
structure RefundRecord where
  script : String
  txid : String
  index : UInt32
  amountSat : UInt64
  refundKey : String
  deriving DecidableEq, Repr

namespace RefundRecord

/-- The record in a document. -/
def ofJson? (value : JsonValue) : Option RefundRecord := do
  let fields ← JsonRecord.ofValue? ["script", "txid", "index", "amount_sat", "refund_privkey"] value
  return {
    script := ← fields.required? 0 "script" JsonValue.asText?
    txid := ← fields.required? 1 "txid" JsonValue.asText?
    index := UInt32.ofNat (← fields.required? 2 "index" (JsonValue.asNat? (UInt32.size - 1)))
    amountSat :=
      UInt64.ofNat (← fields.required? 3 "amount_sat" (JsonValue.asNat? (UInt64.size - 1)))
    refundKey := ← fields.required? 4 "refund_privkey" JsonValue.asText? }

/-- The swap output that a record describes. The key is looked at before the script. -/
def toInput (record : RefundRecord) : Except String RefundInput :=
  match Hex.decode record.refundKey with
  | .error _ => .error "refund_privkey is not hex"
  | .ok refundKey =>
    if refundKey.length ≠ 32 then .error "refund_privkey must be 32 bytes"
    else
      match Hex.decode record.script with
      | .error _ => .error "script is not hex"
      | .ok script =>
        .ok ⟨script, record.txid, record.index, record.amountSat, refundKey⟩

end RefundRecord

/-- The records in the text of a file. -/
def refundRecords? (text : String) : Option (List RefundRecord) :=
  (JsonValue.parse? text).bind (JsonValue.asList? RefundRecord.ofJson?)

/-- Reads the swap outputs in a file. -/
def readRefundInputs (path : String) : Program Files (Except String (List RefundInput)) := do
  match ← Files.readText path with
  | .error _ => return .error ("failed to read " ++ path)
  | .ok text =>
    match refundRecords? text with
    | none => return .error ("failed to parse " ++ path)
    | some records => return records.mapM RefundRecord.toInput

end LiquidityClient.Cli
