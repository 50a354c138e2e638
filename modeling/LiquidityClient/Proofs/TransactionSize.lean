import LiquidityClient.Proofs.Script.WitnessSpend

/-!
# Sizes of transactions

The weight of a transaction (BIP 141) counts the bytes without witnesses four times, and the mark
and the witnesses once (`Transaction.weight_eq`). Witnesses do not enter the bytes without witnesses
(`Transaction.encodeBase_congr`), whose number is a sum over inputs and outputs
(`Transaction.length_encodeBase`).
-/

namespace LiquidityClient

theorem length_compactSize_of_lt {n : Nat} (h : n < 0xfd) : (compactSize n).length = 1 := by
  simp [compactSize, h]

theorem length_sized (bytes : Bytes) :
    (sized bytes).length = (compactSize bytes.length).length + bytes.length := by
  simp [sized]

theorem length_sized_of_lt {bytes : Bytes} (h : bytes.length < 0xfd) :
    (sized bytes).length = 1 + bytes.length := by
  rw [length_sized, length_compactSize_of_lt h]

/-- The text of a transaction id spells 32 bytes. -/
theorem length_of_parseTxid? {text : String} {txid : Bytes} (h : parseTxid? text = some txid) :
    txid.length = 32 := by
  unfold parseTxid? at h
  split at h
  · obtain ⟨hlength, hreverse⟩ := Option.ite_none_right_eq_some.1 h
    cases hreverse
    rw [List.length_reverse, hlength]
  · cases h

namespace TxIn

theorem length_encode (input : TxIn) :
    input.encode.length = input.previous.txid.length + 8 +
      (sized input.signatureScript).length := by
  simp [encode, OutPoint.encode, Bytes.length_ofNatLE]
  omega

@[simp] theorem encode_unsigned (input : TxIn) : input.unsigned.encode = input.encode := rfl

/-- A witness of three short elements takes a byte for their number and one for the length of
each. -/
theorem length_encodeWitness {input : TxIn} {first second third : Bytes}
    (hwitness : input.witness = [first, second, third]) (hfirst : first.length < 0xfd)
    (hsecond : second.length < 0xfd) (hthird : third.length < 0xfd) :
    input.encodeWitness.length = 4 + first.length + second.length + third.length := by
  have hcount : (compactSize 3).length = 1 := length_compactSize_of_lt (by decide)
  simp [encodeWitness, hwitness, length_sized_of_lt hfirst, length_sized_of_lt hsecond,
    length_sized_of_lt hthird, hcount]
  omega

end TxIn

theorem TxOut.length_encode (output : TxOut) :
    output.encode.length = 8 + (sized output.script).length := by
  simp [encode, Bytes.length_ofNatLE]

namespace Transaction

theorem length_encodeBody (tx : Transaction) :
    tx.encodeBody.length =
      (compactSize tx.inputs.length).length + (tx.inputs.map fun i => i.encode.length).sum +
        (compactSize tx.outputs.length).length + (tx.outputs.map fun o => o.encode.length).sum := by
  simp [encodeBody, List.length_flatMap, Nat.add_assoc]

theorem length_encodeBase (tx : Transaction) : tx.encodeBase.length = 8 + tx.encodeBody.length := by
  simp [encodeBase, encodeVersion, Bytes.length_ofNatLE]
  omega

/-- Witnesses do not enter the bytes without witnesses. -/
theorem encodeBase_congr {tx : Transaction} {signed : List TxIn}
    (hsigned : signed.map TxIn.unsigned = tx.inputs.map TxIn.unsigned) :
    { tx with inputs := signed }.encodeBase = tx.encodeBase := by
  have hcount := congrArg List.length hsigned
  have hflat := congrArg (List.flatMap TxIn.encode) hsigned
  simp only [List.length_map, List.flatMap_map, TxIn.encode_unsigned] at hcount hflat
  simp only [encodeBase, encodeVersion, encodeBody, hcount]
  rw [hflat]

/-- The weight of BIP 141 : three times the bytes without witnesses, and all bytes. -/
def weight (tx : Transaction) : Nat :=
  3 * tx.encodeBase.length + tx.encode.length

/-- With witnesses, a mark of two bytes and the witnesses count once. -/
theorem weight_eq {tx : Transaction} (h : tx.hasWitness = true) :
    tx.weight =
      4 * tx.encodeBase.length + 2 + (tx.inputs.map fun i => i.encodeWitness.length).sum := by
  simp [weight, encode, h, length_encodeBase, encodeVersion, Bytes.length_ofNatLE,
    List.length_flatMap]
  omega

end Transaction

end LiquidityClient
