import LiquidityClient.Swap.Keys
import LiquidityClient.Swap.Refund
import LiquidityClient.Text.Quoted

/-!
# Values without their secrets

What diagnostics show of values that hold secret keys or preimages : the public fields, with two
dots for the others.
-/

namespace LiquidityClient

/-- A record as diagnostics show it, with two dots for the fields that are left out. -/
def showRecord (name : String) (fields : List (String × String)) : String :=
  name ++ " \x7b " ++ String.join (fields.map fun (field, value) => field ++ ": " ++ value ++ ", ")
    ++ ".. \x7d"

/-- A key pair, by its public key. -/
def SecretKey.redacted (key : SecretKey) : String :=
  showRecord "KeyPair" [("public", Quoted.text (Hex.encode key.publicKey.compressed))]

/-- A swap output that is to be swept, without its key. -/
def RefundInput.redacted (input : RefundInput) : String :=
  showRecord "RepayData"
    [("txid", Quoted.text input.txid), ("index", Decimal.ofNat input.index.toNat),
      ("amount_sat", Decimal.ofNat input.amountSat.toNat),
      ("script", Quoted.text (Hex.encode input.script))]

/-- The secrets of a swap, by what is known of them. -/
def SwapKeys.redacted (keys : SwapKeys) : String :=
  showRecord "SwapKeys"
    [("payment_hash", Quoted.text (Hex.encode keys.paymentHash)),
      ("refund_pubkey", Quoted.text (Hex.encode keys.refundPublicKey))]

end LiquidityClient
