import LiquidityClient.Proofs.Transcript
import LiquidityClient.Rebalance
import Mathlib.Tactic.SplitIfs

/-!
# What a rebalance asks

The transfer asks for invoices and the state of the node, and sends circular routes
(`TransferRequest`). The closing task asks for pauses, the channels, and channels to be closed
(`CloseRequest`). `inOrder_run` gives the requests of the whole rebalance, in which the closing task
awaits the transfer before it asks anything.
-/

namespace LiquidityClient.Rebalance

open Program

/-- What the transfer asks of the node. -/
inductive TransferRequest (terms : Terms) : Request → Prop
  | invoice (amountMsat : Int64) :
      TransferRequest terms (.node (.addPlainInvoice amountMsat circularMemo))
  | info : TransferRequest terms (.node .getInfo)
  | send (paymentHash : Bytes) (outId inId : UInt64) (ownNode : String) (amountMsat : Int64)
      (height : UInt32) (paymentAddress : Bytes) :
      TransferRequest terms (.node (.sendToRoute paymentHash
        (circularRoute outId inId terms.nodeKey ownNode amountMsat height terms.timeLockDelta
          paymentAddress)))

/-- What the closing task asks. -/
inductive CloseRequest (settings : RebalanceSettings) : Request → Prop
  | settle : CloseRequest settings (.pause settings.settleDelayMs.toNat)
  | channels : CloseRequest settings (.node .listChannels)
  | close (txid : String) (index : UInt32) :
      CloseRequest settings (.node (.closeChannel txid index settings.closeSatPerVbyte))
  | retry : CloseRequest settings (.pause settings.closeRetryDelayMs.toNat)

variable {terms : Terms} {settings : RebalanceSettings}

/-! ## Transfer -/

theorem inOrder_payIntoTarget (source target : Channel) :
    InOrder (TransferRequest terms) (payIntoTarget terms source target).run := by
  unfold payIntoTarget
  refine Action.inOrder_bind (Action.inOrder_node (.invoice _)) fun invoice => ?_
  refine Action.inOrder_bind (Action.inOrder_node .info) fun info => ?_
  exact Action.inOrder_bind (Action.inOrder_node (.send ..)) fun result => Action.inOrder_pure _

theorem inOrder_transferFrom (targetPosition : Nat) (target : Channel) (position : Nat)
    (report : TransferReport) (channels : List Channel) :
    InOrder (TransferRequest terms)
      (transferFrom terms targetPosition target position report channels) := by
  induction channels generalizing position report with
  | nil => exact .pure _
  | cons source rest ih =>
    rw [transferFrom]
    split_ifs
    · exact ih _ _
    · refine (inOrder_payIntoTarget source target).bind fun outcome => ?_
      split <;> exact ih _ _

theorem inOrder_transfer (channels : List Channel) :
    InOrder (TransferRequest terms) (transfer terms channels) := by
  unfold transfer
  split
  · exact .pure _
  split
  · exact .pure _
  split_ifs
  · exact .pure _
  · exact (inOrder_transferFrom _ _ _ _ _).bind fun _ => .pure _

/-! ## Close -/

/-- Closing a channel asks for this channel only. -/
theorem inOrder_closeChannel (txid : String) (index : UInt32) (attempts : Nat) :
    InOrder (fun request =>
        request = Request.node (.closeChannel txid index settings.closeSatPerVbyte) ∨
          request = Request.pause settings.closeRetryDelayMs.toNat)
      (closeChannel settings txid index attempts) := by
  induction attempts with
  | zero => exact .pure _
  | succ attempts ih =>
    rw [closeChannel]
    refine (Action.inOrder_node (.inl rfl)).bind fun outcome => ?_
    split
    · exact .pure _
    split_ifs
    · exact .pure _
    · exact (inOrder_request (.inr rfl)).bind fun _ => ih

/-- Closing the emptied channels does not list the channels again. -/
theorem inOrder_closeEmptied (closed : Nat) (channels : List Channel) :
    InOrder (fun request => CloseRequest settings request ∧ request ≠ Request.node .listChannels)
      (closeEmptied settings closed channels) := by
  induction channels generalizing closed with
  | nil => exact .pure _
  | cons channel rest ih =>
    rw [closeEmptied]
    split_ifs
    · exact ih _
    split
    · exact ih _
    · refine ((inOrder_closeChannel _ _ _).mono ?_).bind fun started => ?_
      · rintro _ (rfl | rfl)
        · exact ⟨.close _ _, nofun⟩
        · exact ⟨.retry, nofun⟩
      · split_ifs <;> exact ih _

theorem inOrder_closeSettled : InOrder (CloseRequest settings) (closeSettled settings) := by
  refine (inOrder_request .settle).bind fun _ => ?_
  refine (Action.inOrder_node .channels).bind fun outcome => ?_
  split
  · exact .pure _
  split_ifs
  · exact .pure _
  · exact (inOrder_closeEmptied _ _).mono fun _ => And.left

/-! ## Both -/

/-- A rebalance asks what its two tasks ask, one after the other, and for the channels before. -/
theorem inOrder_run {died : Phase → String} : InOrder (fun request =>
    TransferRequest terms request ∨ CloseRequest settings request)
      (run terms settings died).run := by
  unfold run
  refine Action.inOrder_bind (Action.inOrder_mapError (Action.inOrder_node (.inr .channels)))
    fun channels => ?_
  split_ifs
  · exact Action.inOrder_pure _
  · exact .both ((inOrder_transfer channels).mono fun _ => .inl)
      (inOrder_closeSettled.mono fun _ => .inr) fun _ _ => .pure _

end LiquidityClient.Rebalance
