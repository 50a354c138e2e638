import LiquidityClient.Lightning.Node

/-!
# Channel terms and fees

The terms that the provider publishes, and the fee arithmetic on them. Divisions cut towards zero,
as the provider's own checks do; the service fee is computed in 128 bits and held to the largest
amount, so that it never drops as the amount grows.
-/

namespace LiquidityClient

namespace Wire

/-- The provider's answer to a request for its channel terms. -/
structure ChannelInformationReply where
  name : String
  pubkey : String
  host : String
  channelCapacity : Int64
  targetConf : Int32
  baseFeeMsat : Int64
  feeRate : Binary64
  timeLockDelta : UInt32
  channelFeePermyriad : Int64
  lspPubkey : Bytes
  maxInactiveDuration : Int64
  channelMinimumFeeMsat : Int64
  version : String
  deriving DecidableEq, Repr

instance : Message ChannelInformationReply where
  schema :=
    .cons "name" 1 .string (.cons "pubkey" 2 .string (.cons "host" 3 .string
      (.cons "channel_capacity" 4 .int64 (.cons "target_conf" 5 .int32
      (.cons "base_fee_msat" 6 .int64 (.cons "fee_rate" 7 .double
      (.cons "time_lock_delta" 8 .uint32 (.cons "channel_fee_permyriad" 9 .int64
      (.cons "lsp_pubkey" 10 .bytes (.cons "max_inactive_duration" 11 .int64
      (.cons "channel_minimum_fee_msat" 12 .int64 (.cons "version" 13 .string .nil))))))))))))
  toRecord r :=
    (r.name, r.pubkey, r.host, r.channelCapacity, r.targetConf, r.baseFeeMsat, r.feeRate,
      r.timeLockDelta, r.channelFeePermyriad, r.lspPubkey, r.maxInactiveDuration,
      r.channelMinimumFeeMsat, r.version, ())
  ofRecord := fun (name, pubkey, host, capacity, conf, base, rate, delta, permyriad, key, inactive,
      minimum, version, _) =>
    ⟨name, pubkey, host, capacity, conf, base, rate, delta, permyriad, key, inactive,
      minimum, version⟩
  ofRecord_toRecord _ := rfl

end Wire

/-- Length of a compressed public key. -/
def publicKeyLength : Nat := 33

/-- The channel terms of the provider. -/
structure Terms where
  name : String
  /-- The key to which requests are sealed. -/
  providerKey : Bytes
  /-- Node id of the provider's node, in hexadecimal. -/
  nodeKey : String
  host : String
  channelCapacity : Int64
  targetConf : Int32
  baseFeeMsat : Int64
  /-- Forwarding fee as a fraction of the amount. -/
  feeRate : Binary64
  timeLockDelta : UInt32
  /-- Service fee for a channel opened on the fly, in parts of ten thousand. -/
  feePermyriad : Int64
  minimumFeeMsat : Int64
  maxInactiveDuration : Int64
  version : String
  deriving DecidableEq, Repr

namespace Terms

/-- The terms in a reply, whose key must have the length of a compressed public key. -/
def ofReply (reply : Wire.ChannelInformationReply) : Except Fault Terms :=
  if reply.lspPubkey.length = publicKeyLength then
    .ok
      { name := reply.name
        providerKey := reply.lspPubkey
        nodeKey := reply.pubkey
        host := reply.host
        channelCapacity := reply.channelCapacity
        targetConf := reply.targetConf
        baseFeeMsat := reply.baseFeeMsat
        feeRate := reply.feeRate
        timeLockDelta := reply.timeLockDelta
        feePermyriad := reply.channelFeePermyriad
        minimumFeeMsat := reply.channelMinimumFeeMsat
        maxInactiveDuration := reply.maxInactiveDuration
        version := reply.version }
  else
    .error (.protocol
      ("LSP pubkey must be " ++ Decimal.ofNat publicKeyLength ++ " bytes, got "
        ++ Decimal.ofNat reply.lspPubkey.length))

/-- The connection text of the provider's node, `key@host`. -/
def hubNode (terms : Terms) : String :=
  terms.nodeKey ++ "@" ++ terms.host

/-- The node id of the provider's node. -/
def nodeKeyBytes (terms : Terms) : Except Fault Bytes :=
  match Hex.decode terms.nodeKey with
  | .ok bytes => .ok bytes
  | .error e => .error (.protocol ("LSP node pubkey is not hex: " ++ e.message))

/-- The fee in satoshis for receiving an amount over a channel opened on the fly : the permyriad
share, but at least the minimum, and at most the largest amount there is. -/
def serviceFeeSat (terms : Terms) (amountSat : Int64) : Int64 :=
  let productMsat := (amountSat.toInt * 1000 * terms.feePermyriad.toInt).bmod Word.size128
  let shareMsat := productMsat.tdiv 10000
  let feeSat := (max shareMsat terms.minimumFeeMsat.toInt).tdiv 1000
  if Word.IsInt64 feeSat then Int64.ofInt feeSat else Int64.maxValue

/-- The fee that the provider's node charges for forwarding an amount. -/
def hopFeeMsat (terms : Terms) (amountMsat : Int64) : Int64 :=
  terms.baseFeeMsat + ((Binary64.ofInt amountMsat.toInt).mul terms.feeRate).toInt64

/-- The proportional fee in millionths. -/
def feeMillionths (terms : Terms) : Int64 :=
  (terms.feeRate.mul (.ofInt 1000000)).toInt64

end Terms

/-- The provider's routing policy. -/
structure FeeHint where
  feeBaseMsat : Int64
  feeProportionalMillionths : Int64
  timeLockDelta : UInt32
  deriving DecidableEq, Repr

/-- The provider's routing policy, if the peer is the provider's node. -/
def Terms.feeHint? (terms : Terms) (peer : Bytes) : Option FeeHint :=
  match Hex.decode terms.nodeKey with
  | .error _ => none
  | .ok node =>
    if node = peer then some ⟨terms.baseFeeMsat, terms.feeMillionths, terms.timeLockDelta⟩ else none

/-- The share of the commitment fee that is kept back for fee updates, in percent. -/
def commitFeeMarginPercent : Int64 := 50

/-- What a channel can receive, in satoshis, which may be negative. -/
def Channel.receivable (channel : Channel) : Int64 :=
  let margin := channel.commitFee * commitFeeMarginPercent / 100
  channel.remoteBalance - channel.remoteReserveSat.toInt64 - margin

/-- The largest amount in satoshis that one of the channels can receive, at least zero. -/
def receivableMax (channels : List Channel) : Int64 :=
  channels.foldl (fun best channel => max best channel.receivable) 0

end LiquidityClient
