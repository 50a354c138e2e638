import LiquidityClient.Hash.Sha256
import LiquidityClient.Text.Hex

/-!
# Transactions

Transactions in the serialization with witnesses, the hash that names one, and the digest that a
signature of a witness-script input signs. Transaction ids are shown with their bytes reversed.
-/

namespace LiquidityClient

/-- An output of an earlier transaction. -/
structure OutPoint where
  /-- The transaction's hash, in the order of the hash. -/
  txid : Bytes
  index : UInt32
  deriving DecidableEq, Repr

/-- An input of a transaction. -/
structure TxIn where
  previous : OutPoint
  signatureScript : Bytes
  sequence : UInt32
  witness : List Bytes
  deriving DecidableEq, Repr

/-- An output of a transaction. -/
structure TxOut where
  valueSat : UInt64
  script : Bytes
  deriving DecidableEq, Repr

/-- A transaction. -/
structure Transaction where
  version : UInt32
  inputs : List TxIn
  outputs : List TxOut
  lockTime : UInt32
  deriving DecidableEq, Repr

/-- The length prefix of lists and byte strings in transactions. -/
def compactSize (n : Nat) : Bytes :=
  if n < 0xfd then [UInt8.ofNat n]
  else if n < UInt16.size then 0xfd :: Bytes.ofNatLE 2 n
  else if n < UInt32.size then 0xfe :: Bytes.ofNatLE 4 n
  else 0xff :: Bytes.ofNatLE 8 n

/-- A byte string behind its length. -/
def sized (bytes : Bytes) : Bytes :=
  compactSize bytes.length ++ bytes

/-- The hash in its order from its text of 64 digits, which shows it reversed. -/
def parseTxid? (text : String) : Option Bytes :=
  match Hex.decode text with
  | .ok bytes => if bytes.length = 32 then some bytes.reverse else none
  | .error _ => none

/-- The text of a transaction hash. -/
def showTxid (txid : Bytes) : String :=
  Hex.encode txid.reverse

namespace OutPoint

/-- The bytes of an out point. -/
def encode (o : OutPoint) : Bytes :=
  o.txid ++ Bytes.ofNatLE 4 o.index.toNat

end OutPoint

namespace TxIn

/-- The bytes of an input without its witness. -/
def encode (input : TxIn) : Bytes :=
  input.previous.encode ++ sized input.signatureScript ++ Bytes.ofNatLE 4 input.sequence.toNat

/-- The bytes of an input's witness. -/
def encodeWitness (input : TxIn) : Bytes :=
  compactSize input.witness.length ++ input.witness.flatMap sized

end TxIn

namespace TxOut

/-- The bytes of an output. -/
def encode (output : TxOut) : Bytes :=
  Bytes.ofNatLE 8 output.valueSat.toNat ++ sized output.script

/-- The feerate below which nodes do not relay, in satoshis for 1000 bytes. -/
def dustRelayFee : Nat := 3000

/-- Is the script a witness program : a version and one push of 2 to 40 bytes? -/
def isWitnessProgram (script : Bytes) : Bool :=
  match script with
  | version :: length :: rest =>
    (version = 0 ∨ (0x51 ≤ version.toNat ∧ version.toNat ≤ 0x60))
      ∧ 2 ≤ length.toNat ∧ length.toNat ≤ 40 ∧ rest.length = length.toNat
  | _ => false

/-- The least value of an output with this script that is not dust : what it costs, at the relay
feerate, to make the output and to spend it. -/
def minimalNonDust (script : Bytes) : Nat :=
  let own := 8 + (sized script).length
  let size :=
    if script.head? = some 0x6a then 0
    else if isWitnessProgram script then 32 + 4 + 1 + 107 / 4 + 4 + own
    else 32 + 4 + 1 + 107 + 4 + own
  dustRelayFee * size / 1000

end TxOut

namespace Transaction

/-- The bytes of the version. -/
def encodeVersion (tx : Transaction) : Bytes :=
  Bytes.ofNatLE 4 tx.version.toNat

/-- The bytes of inputs and outputs without witnesses. -/
def encodeBody (tx : Transaction) : Bytes :=
  compactSize tx.inputs.length ++ tx.inputs.flatMap TxIn.encode
    ++ compactSize tx.outputs.length ++ tx.outputs.flatMap TxOut.encode

/-- The bytes without witnesses. -/
def encodeBase (tx : Transaction) : Bytes :=
  tx.encodeVersion ++ tx.encodeBody ++ Bytes.ofNatLE 4 tx.lockTime.toNat

/-- Does some input have a witness, or is there no input? Then the form with witnesses is used. -/
def hasWitness (tx : Transaction) : Bool :=
  tx.inputs.isEmpty || tx.inputs.any fun input => !input.witness.isEmpty

/-- The bytes, with a mark and the witnesses if there are any. -/
def encode (tx : Transaction) : Bytes :=
  if tx.hasWitness then
    tx.encodeVersion ++ [0, 1] ++ tx.encodeBody ++ tx.inputs.flatMap TxIn.encodeWitness
      ++ Bytes.ofNatLE 4 tx.lockTime.toNat
  else tx.encodeBase

/-- The hash that names the transaction, which witnesses do not change. -/
def txid (tx : Transaction) : Bytes :=
  Sha256.doubleHash tx.encodeBase

/-- The signature type that covers all inputs and outputs. -/
def sighashAll : Nat := 1

/-- The digest that a signature of all inputs and outputs signs, for the input with this out point
and sequence, which spends an output of `valueSat` with this witness script. -/
def signatureDigest (tx : Transaction) (input : TxIn) (script : Bytes)
    (valueSat : UInt64) : Bytes :=
  let previous := tx.inputs.flatMap fun i => i.previous.encode
  let sequences := tx.inputs.flatMap fun i => Bytes.ofNatLE 4 i.sequence.toNat
  Sha256.doubleHash
    (tx.encodeVersion ++ Sha256.doubleHash previous ++ Sha256.doubleHash sequences
      ++ input.previous.encode ++ sized script ++ Bytes.ofNatLE 8 valueSat.toNat
      ++ Bytes.ofNatLE 4 input.sequence.toNat
      ++ Sha256.doubleHash (tx.outputs.flatMap TxOut.encode)
      ++ Bytes.ofNatLE 4 tx.lockTime.toNat ++ Bytes.ofNatLE 4 sighashAll)

end Transaction

end LiquidityClient
