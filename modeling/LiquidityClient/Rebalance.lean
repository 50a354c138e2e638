import LiquidityClient.Collaborators
import LiquidityClient.Configuration
import LiquidityClient.Payment.Splice

/-!
# Rebalancing

All local balances move into the channel with the largest capacity, by circular payments over the
provider's node, and the emptied channels are closed. Transferring and closing are two tasks. The
closing task waits for the end of the transfer, whatever way it ended, and a fault of the transfer
is reported only after both have ended.
-/

namespace LiquidityClient

/-- Blocks between the chain's height and the expiry of a circular payment. -/
def circularDelay : UInt32 := 40

/-- How often closing a channel is tried. -/
def closeAttempts : Nat := 3

/-- The memo of the invoices of circular payments. -/
def circularMemo : String := "rebalance myself"

/-- What a rebalance did. -/
structure RebalanceReport where
  /-- Channels from which a circular payment was tried. -/
  attempted : Nat := 0
  succeeded : Nat := 0
  /-- Channels whose close was started. -/
  closed : Nat := 0
  deriving DecidableEq, Repr

/-- What a transfer did. -/
structure TransferReport where
  attempted : Nat := 0
  succeeded : Nat := 0
  deriving DecidableEq, Repr

namespace Rebalance

/-! ## Transfer -/

/-- The route out through one channel to the provider's node and back in through another. -/
def circularRoute (outId inId : UInt64) (providerNode ownNode : String) (amountMsat : Int64)
    (height timeLockDelta : UInt32) (paymentAddress : Bytes) : Route :=
  let expiry := height + circularDelay
  { hops :=
      [{ channelId := outId
         amountMsat
         feeMsat := 0
         expiry
         nodeKey := providerNode
         tlvPayload := true
         multiPath := none },
       { channelId := inId
         amountMsat
         feeMsat := 0
         expiry
         nodeKey := ownNode
         tlvPayload := true
         multiPath := some ⟨paymentAddress, amountMsat⟩ }]
    totalTimeLock := expiry + timeLockDelta
    totalFeesMsat := 0
    totalAmountMsat := amountMsat }

/-- Pays the local balance of a channel into the target channel; the answer tells whether it went
through. -/
def payIntoTarget (terms : Terms) (source target : Channel) : Action Fault Bool := do
  let amountMsat := source.localBalance * msatPerSat
  let invoice ← Action.node (.addPlainInvoice amountMsat circularMemo)
  let info ← Action.node .getInfo
  let route := circularRoute source.channelId target.remoteChannelId terms.nodeKey info.identityKey
    amountMsat info.blockHeight terms.timeLockDelta invoice.paymentAddress
  let result ← Action.node (.sendToRoute invoice.paymentHash route)
  return result.paymentError.isEmpty

/-- The position and the capacity of the first channel with the largest positive capacity among
channels from `position` on, if one beats the best so far. -/
def largestFrom (position : Nat) (best : Nat × Int64) : List Channel → Nat × Int64
  | [] => best
  | c :: rest =>
    largestFrom (position + 1) (if best.2 < c.capacity then (position, c.capacity) else best) rest

/-- The position of the channel into which the balances move. -/
def targetIndex (channels : List Channel) : Nat :=
  (largestFrom 0 (0, 0) channels).1

/-- The sum of the local balances. -/
def totalLocal (channels : List Channel) : Int64 :=
  channels.foldl (fun sum c => sum + c.localBalance) 0

/-- How much the channel can hold on our side. -/
def headroom (target : Channel) : Int64 :=
  target.localBalance + target.remoteBalance - target.remoteReserveSat.toInt64

/-- Pays the balances of the channels from `position` on into the target. -/
def transferFrom (terms : Terms) (targetPosition : Nat) (target : Channel) :
    Nat → TransferReport → List Channel → Program Collaborators TransferReport
  | _, report, [] => return report
  | position, report, source :: rest => do
    if position = targetPosition ∨ source.localBalance = 0 then
      transferFrom terms targetPosition target (position + 1) report rest
    else
      let report := { report with attempted := report.attempted + 1 }
      match ← (payIntoTarget terms source target).run with
      | .ok true =>
        transferFrom terms targetPosition target (position + 1)
          { report with succeeded := report.succeeded + 1 } rest
      | _ => transferFrom terms targetPosition target (position + 1) report rest

/-- Moves all local balances into the largest channel, if they fit there. No channel may have a
local reserve. -/
def transfer (terms : Terms) (channels : List Channel) :
    Program Collaborators (Except Fault TransferReport) := do
  match channels.find? fun c => c.localReserveSat ≠ 0 with
  | some c =>
    return .error (.configuration
      ("channel " ++ Decimal.ofNat c.channelId.toNat ++ " has local reserve "
        ++ Decimal.ofNat c.localReserveSat.toNat ++ " sat, rebalance requires zero"))
  | none =>
    match channels[targetIndex channels]? with
    | none => return .ok {}
    | some target =>
      if headroom target < totalLocal channels then return .ok {}
      else return .ok (← transferFrom terms (targetIndex channels) target 0 {} channels)

/-! ## Close -/

/-- Tries to close a channel, at most so many times, with pauses between the attempts. -/
def closeChannel (settings : RebalanceSettings) (txid : String) (index : UInt32) :
    Nat → Program Collaborators Bool
  | 0 => return false
  | remaining + 1 => do
    match ← (Action.node (.closeChannel txid index settings.closeSatPerVbyte)).run with
    | .ok () => return true
    | .error _ =>
      if remaining = 0 then return false
      else
        let _ ← Program.request (I := Collaborators) (.pause settings.closeRetryDelayMs.toNat)
        closeChannel settings txid index remaining

/-- Closes the channels without local balance, and counts those whose close was started. -/
def closeEmptied (settings : RebalanceSettings) : Nat → List Channel → Program Collaborators Nat
  | closed, [] => return closed
  | closed, c :: rest => do
    if c.localBalance ≠ 0 then closeEmptied settings closed rest
    else
      match ChannelPoint.parse c.channelPoint with
      | .error _ => closeEmptied settings closed rest
      | .ok (txid, index) =>
        if ← closeChannel settings txid index closeAttempts then
          closeEmptied settings (closed + 1) rest
        else closeEmptied settings closed rest

/-- Lets the channels settle, lists them again, and closes the emptied ones if there are at least
two channels. -/
def closeSettled (settings : RebalanceSettings) : Program Collaborators Nat := do
  let _ ← Program.request (I := Collaborators) (.pause settings.settleDelayMs.toNat)
  match ← (Action.node .listChannels).run with
  | .error _ => return 0
  | .ok channels => if channels.length ≤ 1 then return 0 else closeEmptied settings 0 channels

/-- Waits for the end of the transfer, and closes the emptied channels. -/
def close (settings : RebalanceSettings) : Program Collaborators Nat :=
  .await (closeSettled settings)

/-- The two tasks of a rebalance. -/
inductive Phase where
  | transfer
  | close

/-- The report of two tasks that have ended. What is known of a task that died is what the runtime
says of it. -/
def conclude (died : Phase → String) (transferred : Option (Except Fault TransferReport))
    (closed : Option Nat) : Except ClientError RebalanceReport :=
  match closed, transferred with
  | none, _ => .error (.task ("rebalance close: " ++ died .close))
  | some _, none => .error (.task ("rebalance transfer: " ++ died .transfer))
  | some _, some (.error cause) => .error (.fault cause)
  | some closed, some (.ok report) => .ok ⟨report.attempted, report.succeeded, closed⟩

/-- Transfers and closes, side by side. -/
def runTasks (terms : Terms) (settings : RebalanceSettings) (died : Phase → String)
    (channels : List Channel) : Action ClientError RebalanceReport :=
  ExceptT.mk (.both (transfer terms channels) (close settings) fun transferred closed =>
    .pure (conclude died transferred closed))

/-- Rebalances the channels of the node, if there are at least two. -/
def run (terms : Terms) (settings : RebalanceSettings) (died : Phase → String) :
    Action ClientError RebalanceReport := do
  let channels ← Action.node .listChannels
  if channels.length ≤ 1 then return {} else runTasks terms settings died channels

end Rebalance

end LiquidityClient
