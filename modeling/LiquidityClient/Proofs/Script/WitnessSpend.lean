import LiquidityClient.Bitcoin.Transaction
import LiquidityClient.Proofs.DerSignature
import LiquidityClient.Proofs.Script.Evaluation

/-!
# Spending outputs with a witness script

`Transaction.spends` says that an input spends an output that holds the hash of a witness script, by
the consensus rules for version 0 : the last element of the witness is the script with this hash,
and it accepts the others. A signature is checked against the digest of BIP 143 (`signatureHash`)
for the type in its last byte. Witnesses do not enter the digest (`signatureHash_congr`), and for
the type that covers all inputs and outputs it is the digest that `signatureDigest` computes.
-/

namespace LiquidityClient

/-- The output script that holds the hash of a witness script. -/
def witnessScriptOutput (script : Bytes) : Bytes :=
  0 :: 32 :: Sha256.hash script

namespace TxIn

/-- An input without its witness. -/
def unsigned (input : TxIn) : TxIn :=
  { input with witness := [] }

@[simp] theorem previous_unsigned (input : TxIn) : input.unsigned.previous = input.previous := rfl

@[simp] theorem sequence_unsigned (input : TxIn) : input.unsigned.sequence = input.sequence := rfl

end TxIn

namespace Transaction

/-! ## The digest -/

/-- Does a signature of this type cover its own input only, by bit 7? -/
def coversOneInput (hashType : UInt8) : Bool :=
  hashType.toNat.testBit 7

/-- Does a signature of this type cover no output, by its low 5 bits? -/
def coversNoOutput (hashType : UInt8) : Bool :=
  hashType.toNat % 32 = 2

/-- Does a signature of this type cover the output only that has the index of the input? -/
def coversOneOutput (hashType : UInt8) : Bool :=
  hashType.toNat % 32 = 3

/-- The digest that stands for what a signature does not cover. -/
def uncovered : Bytes :=
  Bytes.repeated 32 0

/-- The digest of the out points. -/
def previousDigest (tx : Transaction) (hashType : UInt8) : Bytes :=
  if coversOneInput hashType then uncovered
  else Sha256.doubleHash (tx.inputs.flatMap fun i => i.previous.encode)

/-- The digest of the sequences. -/
def sequenceDigest (tx : Transaction) (hashType : UInt8) : Bytes :=
  if coversOneInput hashType || coversNoOutput hashType || coversOneOutput hashType then uncovered
  else Sha256.doubleHash (tx.inputs.flatMap fun i => Bytes.ofNatLE 4 i.sequence.toNat)

/-- The digest of the outputs. -/
def outputDigest (tx : Transaction) (index : Nat) (hashType : UInt8) : Bytes :=
  if coversNoOutput hashType then uncovered
  else if coversOneOutput hashType then
    match tx.outputs[index]? with
    | some output => Sha256.doubleHash output.encode
    | none => uncovered
  else Sha256.doubleHash (tx.outputs.flatMap TxOut.encode)

/-- The digest of BIP 143 that a signature of this type signs, for the input at an index, which
spends an output of `valueSat` with this witness script. -/
def signatureHash (tx : Transaction) (index : Nat) (input : TxIn) (script : Bytes)
    (valueSat : UInt64) (hashType : UInt8) : Bytes :=
  Sha256.doubleHash
    (tx.encodeVersion ++ tx.previousDigest hashType ++ tx.sequenceDigest hashType
      ++ input.previous.encode ++ sized script ++ Bytes.ofNatLE 8 valueSat.toNat
      ++ Bytes.ofNatLE 4 input.sequence.toNat ++ tx.outputDigest index hashType
      ++ Bytes.ofNatLE 4 tx.lockTime.toNat ++ Bytes.ofNatLE 4 hashType.toNat)

/-- For the type that covers everything this is the digest that is computed. -/
theorem signatureHash_all (tx : Transaction) (index : Nat) (input : TxIn) (script : Bytes)
    (valueSat : UInt64) :
    tx.signatureHash index input script valueSat 1 = tx.signatureDigest input script valueSat :=
  rfl

/-- Witnesses do not enter the digest. -/
theorem signatureHash_congr {tx : Transaction} {signed : List TxIn} {input txIn : TxIn}
    (hsigned : signed.map TxIn.unsigned = tx.inputs.map TxIn.unsigned)
    (hinput : input.unsigned = txIn.unsigned) (index : Nat) (script : Bytes) (valueSat : UInt64)
    (hashType : UInt8) :
    { tx with inputs := signed }.signatureHash index input script valueSat hashType =
      tx.signatureHash index txIn script valueSat hashType := by
  have hflat (f : TxIn → Bytes) (hf : ∀ i : TxIn, f i.unsigned = f i) :
      signed.flatMap f = tx.inputs.flatMap f := by
    have hcongr := congrArg (List.flatMap f) hsigned
    rwa [List.flatMap_map, List.flatMap_map, funext hf] at hcongr
  have hprevious := congrArg TxIn.previous hinput
  have hsequence := congrArg TxIn.sequence hinput
  rw [TxIn.previous_unsigned, TxIn.previous_unsigned] at hprevious
  rw [TxIn.sequence_unsigned, TxIn.sequence_unsigned] at hsequence
  unfold signatureHash previousDigest sequenceDigest
  dsimp only
  rw [hflat (fun i => i.previous.encode) fun _ => rfl,
    hflat (fun i => Bytes.ofNatLE 4 i.sequence.toNat) fun _ => rfl, hprevious, hsequence]
  rfl

/-! ## Spending -/

/-- Does a signature with its type byte hold under a key, both as they are spelled? Nothing is said
of a signature that is not in DER; the empty one does not hold. -/
def checkSignature (tx : Transaction) (index : Nat) (input : TxIn) (script : Bytes)
    (valueSat : UInt64) (key signature : Bytes) : Option Bool :=
  match signature.getLast? with
  | none => some false
  | some hashType =>
    (Signature.ofDer? signature.dropLast).map fun decoded =>
      (PublicKey.ofBytes? key).any fun key =>
        Signature.verify key (tx.signatureHash index input script valueSat hashType) decoded

/-- What evaluation reads of an input that spends an output of `valueSat` with a witness script. -/
def spendContext (tx : Transaction) (index : Nat) (input : TxIn) (script : Bytes)
    (valueSat : UInt64) : SpendContext where
  version := tx.version
  sequence := input.sequence
  checkSignature := tx.checkSignature index input script valueSat

@[simp] theorem checkSignature_spendContext (tx : Transaction) (index : Nat) (input : TxIn)
    (script : Bytes) (valueSat : UInt64) :
    (tx.spendContext index input script valueSat).checkSignature =
      tx.checkSignature index input script valueSat :=
  rfl

/-- Does the input at an index spend the output, which holds the hash of a witness script? -/
def spends (tx : Transaction) (index : Nat) (output : TxOut) : Bool :=
  tx.inputs[index]?.any fun input =>
    input.witness.getLast?.any fun script =>
      input.signatureScript.isEmpty && output.script = witnessScriptOutput script
        && ScriptState.accepts (tx.spendContext index input script output.valueSat) script
          input.witness.dropLast

/-- A signature that was written in DER is checked against the digest for its type. -/
theorem checkSignature_der {signature : Signature} (hr : signature.r < 1 <<< 256)
    (hs : signature.s < 1 <<< 256) (tx : Transaction) (index : Nat) (input : TxIn) (script : Bytes)
    (valueSat : UInt64) (key : Bytes) (hashType : UInt8) :
    tx.checkSignature index input script valueSat key (signature.der ++ [hashType]) =
      some ((PublicKey.ofBytes? key).any fun key =>
        Signature.verify key (tx.signatureHash index input script valueSat hashType)
          signature) := by
  rw [checkSignature, List.getLast?_concat, List.dropLast_concat, Signature.ofDer?_der hr hs]
  rfl

/-- An input whose witness ends with a script that accepts the rest spends the output with its
hash. -/
theorem spends_of_accepts {tx : Transaction} {index : Nat} {input : TxIn} {elements : List Bytes}
    {script : Bytes} {valueSat : UInt64} (hinput : tx.inputs[index]? = some input)
    (hscript : input.signatureScript = []) (hwitness : input.witness = elements ++ [script])
    (haccepts : ScriptState.accepts (tx.spendContext index input script valueSat) script elements) :
    tx.spends index ⟨valueSat, witnessScriptOutput script⟩ = true := by
  rw [spends, hinput, Option.any_some, hwitness, List.getLast?_concat, Option.any_some,
    List.dropLast_concat, haccepts]
  simp [hscript]

end Transaction

end LiquidityClient
