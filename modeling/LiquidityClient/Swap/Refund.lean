import LiquidityClient.Bitcoin.Transaction
import LiquidityClient.Error
import LiquidityClient.Secp256k1.Signature

/-!
# The refund of swap outputs

One transaction sweeps swap outputs through their refund branch. Each input has the lock height as
its sequence and the witness `[signature, empty, script]`; the one output takes the sum of the
inputs less the fee, and must not be dust. The fee is taken of a weight in which each signature
counts with its greatest length, in words that wrap around.
-/

namespace LiquidityClient

/-- A swap output that is to be swept back. -/
structure RefundInput where
  script : Bytes
  /-- The funding transaction, in hexadecimal. -/
  txid : String
  index : UInt32
  amountSat : UInt64
  /-- 32 bytes. -/
  refundKey : Bytes
  deriving DecidableEq, Repr

namespace Refund

/-- The version of a refund, the least one for which relative locks count. -/
def version : UInt32 := 2

/-- The estimated witness bytes of an input : the pushes of a signature of 73 bytes, of nothing, and
of the script. -/
def witnessSize (script : Bytes) : Nat :=
  1 + 73 + 1 + 1 + script.length

/-- The out point of an input, whose position is `position`. -/
def outPoint (position : Nat) (input : RefundInput) : Except SwapError OutPoint :=
  match parseTxid? input.txid with
  | some txid => .ok ⟨txid, input.index⟩
  | none =>
    .error (.invalidInput ("input " ++ Decimal.ofNat position ++ " txid: not a transaction id"))

/-- The out points of inputs from `position` on and the sum of their amounts, on top of `total`. -/
def gather : Nat → Nat → List RefundInput → Except SwapError (List OutPoint × Nat)
  | _, total, [] => .ok ([], total)
  | position, total, input :: rest => do
    let point ← outPoint position input
    let total := total + input.amountSat.toNat
    if UInt64.size ≤ total then .error (.invalidInput "input amounts overflow")
    else
      let (points, total) ← gather (position + 1) total rest
      return (point :: points, total)

/-- The transaction without witnesses. -/
def skeleton (points : List OutPoint) (csvHeight : UInt32) (output : TxOut) : Transaction :=
  { version
    inputs := points.map fun previous => ⟨previous, [], csvHeight, []⟩
    outputs := [output]
    lockTime := 0 }

/-- The weight from which the fee is taken. -/
def weight (inputs : List RefundInput) (tx : Transaction) : Nat :=
  inputs.foldl (fun weight input => weight + witnessSize input.script) (4 * tx.encodeBase.length)

/-- The fee for a weight, at a rate in satoshis for 1000 units. The weight and the product are
words, and what does not fit wraps around. -/
def feeSat (weight : Nat) (ratePerKw : UInt64) : UInt64 :=
  UInt64.ofNat weight * ratePerKw / 1000

/-- The least sum of amounts that pays a fee and an output that is not dust. It saturates at the
greatest word. -/
def leastTotalSat (fee : UInt64) (destination : Bytes) : Nat :=
  min (fee.toNat + TxOut.minimalNonDust destination) (UInt64.size - 1)

/-- The signature of an input with its type byte, for the input at `position`. -/
def signInput (tx : Transaction) (position : Nat) (txIn : TxIn) (input : RefundInput) :
    Except SwapError Bytes :=
  match SecretKey.ofBytes? input.refundKey with
  | none =>
    .error (.signing
      ("input " ++ Decimal.ofNat position ++ " key: malformed or out-of-range secret key"))
  | some key =>
    let digest := tx.signatureDigest txIn input.script input.amountSat
    .ok ((Signature.sign key digest).der ++ [UInt8.ofNat Transaction.sighashAll])

/-- The inputs of a transaction from `position` on, with their witnesses. -/
def signInputs (tx : Transaction) : Nat → List TxIn → List RefundInput →
    Except SwapError (List TxIn)
  | position, txIn :: txIns, input :: inputs => do
    let signature ← signInput tx position txIn input
    let rest ← signInputs tx (position + 1) txIns inputs
    return { txIn with witness := [signature, [], input.script] } :: rest
  | _, _, _ => .ok []

/-- The signed transaction that sweeps the inputs to the destination script. -/
def build (inputs : List RefundInput) (destination : Bytes) (csvHeight : UInt32)
    (ratePerKw : UInt64) :
    Except SwapError Transaction := do
  if inputs.isEmpty then .error (.invalidInput "no refund inputs")
  let (points, total) ← gather 0 0 inputs
  let fee := feeSat (weight inputs (skeleton points csvHeight ⟨0, destination⟩)) ratePerKw
  if total < leastTotalSat fee destination then .error (.insufficientFunds total fee.toNat)
  let tx := skeleton points csvHeight ⟨UInt64.ofNat (total - fee.toNat), destination⟩
  let signed ← signInputs tx 0 tx.inputs inputs
  return { tx with inputs := signed }

end Refund

end LiquidityClient
