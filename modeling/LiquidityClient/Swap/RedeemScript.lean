import LiquidityClient.Bitcoin.Script
import LiquidityClient.Secp256k1.Key

/-!
# The redeem script of a swap

Whoever shows a preimage of the payment hash signs with the claim key; whoever shows anything else
signs with the refund key, and only after the lock has passed.
-/

namespace LiquidityClient

/-- What a redeem script is made from. -/
structure SwapParameters where
  /-- 32 bytes. -/
  paymentHash : Bytes
  /-- The provider's key, for the branch with the preimage. -/
  htlcKey : PublicKey
  /-- Our key, for the branch after the lock. -/
  refundKey : PublicKey
  /-- The lock, in blocks. -/
  csvHeight : UInt32
  deriving DecidableEq, Repr

namespace SwapParameters

open Opcode

/-- The items of the redeem script. -/
def items (p : SwapParameters) : List ScriptItem :=
  [.op opSha256, .push p.paymentHash, .op opEqual,
    .op opIf,
    .push p.htlcKey.compressed,
    .op opElse,
    .lockHeight p.csvHeight, .op opCheckSequenceVerify, .op opDrop, .push p.refundKey.compressed,
    .op opEndIf,
    .op opCheckSig]

/-- The redeem script. -/
def redeemScript (p : SwapParameters) : Except SwapError Bytes :=
  ScriptItem.assemble p.items

end SwapParameters

end LiquidityClient
