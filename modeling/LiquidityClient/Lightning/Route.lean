import LiquidityClient.Error
import LiquidityClient.Text.Hex
import LiquidityClient.Wire.Schema
import LiquidityClient.Word

/-!
# Routes

A route is a list of hops with aggregate totals : what leaves the wallet, the fees in it, and the
time lock of the first transfer. Totals and hops move together. `prependHop` puts a hop in front
that forwards the old total and expires at the old time lock, and changes nothing if a total
overflows; `attachMultiPath` marks the last hop.
-/

namespace LiquidityClient

/-- The record of a multi-path payment, carried by the last hop. -/
structure MultiPathRecord where
  paymentAddress : Bytes
  totalAmountMsat : Int64
  deriving DecidableEq, Repr

/-- One hop of a route. -/
structure Hop where
  channelId : UInt64
  /-- What the hop's receiving node forwards. -/
  amountMsat : Int64
  feeMsat : Int64
  expiry : UInt32
  /-- Node id of the hop's receiving node, in hexadecimal. -/
  nodeKey : String
  tlvPayload : Bool
  multiPath : Option MultiPathRecord
  deriving DecidableEq, Repr

/-- A route with its totals. -/
structure Route where
  hops : List Hop
  totalTimeLock : UInt32
  totalFeesMsat : Int64
  totalAmountMsat : Int64
  deriving DecidableEq, Repr

/-- The sum of two signed words, if it is one. -/
def checkedSum? (a b : Int64) : Option Int64 :=
  let sum := a.toInt + b.toInt
  if Word.IsInt64 sum then some (a + b) else none

/-- The product of two signed words, if it is one. -/
def checkedProduct? (a b : Int64) : Option Int64 :=
  let product := a.toInt * b.toInt
  if Word.IsInt64 product then some (a * b) else none

namespace Route

/-- The route without hops. -/
def empty : Route := ⟨[], 0, 0, 0⟩

/-- Is there no hop? -/
def isEmpty (route : Route) : Bool :=
  route.hops.isEmpty

/-- The fault of a total that overflows. -/
def overflow (what : String) : Fault :=
  .protocol ("route " ++ what ++ " overflows")

/-- The route behind one more hop in front, which forwards the old total amount and expires at the
old total time lock. -/
def prependHop (route : Route) (channelId : UInt64) (nodeKey : String) (feeMsat : Int64)
    (timeLockDelta : UInt32) : Except Fault Route :=
  match checkedSum? route.totalAmountMsat feeMsat with
  | none => .error (overflow "amount")
  | some amount =>
    match checkedSum? route.totalFeesMsat feeMsat with
    | none => .error (overflow "fees")
    | some fees =>
      if route.totalTimeLock.toNat + timeLockDelta.toNat < UInt32.size then
        .ok
          { hops :=
              { channelId
                amountMsat := route.totalAmountMsat
                feeMsat
                expiry := route.totalTimeLock
                nodeKey
                tlvPayload := true
                multiPath := none } :: route.hops
            totalTimeLock := route.totalTimeLock + timeLockDelta
            totalFeesMsat := fees
            totalAmountMsat := amount }
      else .error (overflow "time lock")

/-- The hops with the record on the last of them. -/
def markLast (record : MultiPathRecord) : List Hop → List Hop
  | [] => []
  | [hop] => [{ hop with multiPath := some record }]
  | hop :: rest => hop :: markLast record rest

/-- The route with the record on its last hop, if it has one. -/
def attachMultiPath? (route : Route) (record : MultiPathRecord) : Option Route :=
  if route.isEmpty then none else some { route with hops := markLast record route.hops }

end Route

/-- A directed edge between two nodes that failed to forward a payment. -/
structure Edge where
  source : Bytes
  target : Bytes
  deriving DecidableEq, Repr

namespace Edge

/-- The edge between two node ids in hexadecimal. -/
def ofHex (source target : String) : Except Fault Edge :=
  match Hex.decode source with
  | .error e => .error (.invalidInput ("node pair 'from': " ++ e.message))
  | .ok s =>
    match Hex.decode target with
    | .error e => .error (.invalidInput ("node pair 'to': " ++ e.message))
    | .ok t => .ok ⟨s, t⟩

end Edge

/-! ## Messages -/

namespace Wire

instance : Message MultiPathRecord where
  schema := .cons "total_amt_msat" 10 .int64 (.cons "payment_addr" 11 .bytes .nil)
  toRecord record := (record.totalAmountMsat, record.paymentAddress, ())
  ofRecord := fun (total, address, _) => ⟨address, total⟩
  ofRecord_toRecord _ := rfl

instance : Message Hop where
  schema :=
    .cons "chan_id" 1 .uint64 (.cons "expiry" 5 .uint32 (.cons "amt_to_forward_msat" 6 .int64
      (.cons "fee_msat" 7 .int64 (.cons "pub_key" 8 .string (.cons "tlv_payload" 9 .bool
      (.cons "mpp_record" 10 (.optional (Message.schema MultiPathRecord)) .nil))))))
  toRecord hop :=
    (hop.channelId, hop.expiry, hop.amountMsat, hop.feeMsat, hop.nodeKey, hop.tlvPayload,
      hop.multiPath.map Message.toRecord, ())
  ofRecord := fun (channelId, expiry, amount, fee, nodeKey, tlvPayload, multiPath, _) =>
    ⟨channelId, amount, fee, expiry, nodeKey, tlvPayload, multiPath.map Message.ofRecord⟩
  ofRecord_toRecord hop := by
    rcases hop with ⟨_, _, _, _, _, _, _ | _⟩ <;> rfl

instance : Message Route where
  schema :=
    .cons "total_time_lock" 1 .uint32 (.cons "hops" 4 (.repeated (Message.schema Hop))
      (.cons "total_fees_msat" 5 .int64 (.cons "total_amt_msat" 6 .int64 .nil)))
  toRecord route :=
    (route.totalTimeLock, route.hops.map Message.toRecord, route.totalFeesMsat,
      route.totalAmountMsat, ())
  ofRecord := fun (timeLock, hops, fees, amount, _) =>
    ⟨hops.map Message.ofRecord, timeLock, fees, amount⟩
  ofRecord_toRecord route := by
    rcases route with ⟨hops, _, _, _⟩
    have : (hops.map Message.toRecord).map (Message.ofRecord (α := Hop)) = hops := by
      simp [Function.comp_def, Message.ofRecord_toRecord]
    simp only [this]

instance : Message Edge where
  schema := .cons "from" 1 .bytes (.cons "to" 2 .bytes .nil)
  toRecord edge := (edge.source, edge.target, ())
  ofRecord := fun (source, target, _) => ⟨source, target⟩
  ofRecord_toRecord _ := rfl

end Wire

end LiquidityClient
