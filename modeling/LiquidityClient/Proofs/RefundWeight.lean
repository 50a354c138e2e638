import LiquidityClient.Proofs.RefundAccounts
import LiquidityClient.Proofs.RefundSpendable
import LiquidityClient.Proofs.ScriptParameters

/-!
# The weight that a refund pays for

The fee of a refund is taken from an estimate of its weight, in which a signature counts with 73
bytes and its push. With its type byte it has at most 72 (`Signature.length_der_sign_le`), and the
byte that is left over makes up for the number of witness elements, which the estimate leaves out.
Nothing makes up for the mark of the form with witnesses, so that the estimate falls short of the
weight (BIP 141) by two units, less the bytes that the signatures spare (`weight_add_spareBytes`).
Where no word overflows, the fee reaches the requested rate exactly where that is made up for or
lost in rounding (`fee_covers_weight_iff`).
-/

namespace LiquidityClient.Refund

variable {inputs : List RefundInput} {destination : Bytes} {csvHeight : UInt32}
  {ratePerKw : UInt64} {tx : Transaction}

/-! ## Witnesses -/

/-- How many bytes the signature of an input, with its type byte, is short of 72. -/
def spareOf (txIn : TxIn) : Nat :=
  72 - (txIn.witness.headD []).length

/-- How many bytes the signatures of a transaction spare. -/
def spareBytes (tx : Transaction) : Nat :=
  (tx.inputs.map spareOf).sum

/-- The witness of an input and what its signature spares make up the estimate. -/
theorem SweepsAt.length_encodeWitness {index : Nat} {input : RefundInput} {txIn : TxIn}
    {key : SecretKey} (h : SweepsAt tx csvHeight index input txIn key)
    (hscript : input.script.length < 0xfd) :
    txIn.encodeWitness.length + spareOf txIn = 76 + input.script.length := by
  have hder := Signature.length_der_sign_le key
    (tx.signatureHash index txIn input.script input.amountSat 1)
  have hwitness := h.witness_eq
  generalize (Signature.sign key _).der = signature at hder hwitness
  have hlength : (signature ++ [1]).length ≤ 72 := by
    rw [List.length_append]
    exact Nat.succ_le_succ hder
  rw [TxIn.length_encodeWitness hwitness (by omega) (by simp) hscript, spareOf, hwitness,
    List.headD_cons, List.length_nil]
  omega

/-- What is built has an input for each output, whose witness and what its signature spares make up
the estimate. -/
theorem forall₂_encodeWitness
    (hscripts : ∀ input ∈ inputs, ∃ p : SwapParameters, p.redeemScript = .ok input.script)
    (h : build inputs destination csvHeight ratePerKw = .ok tx) :
    List.Forall₂ (fun input txIn => txIn.encodeWitness.length + spareOf txIn =
      76 + input.script.length) inputs tx.inputs := by
  obtain ⟨hlength, hinputs⟩ := sweepsAt_of_build h
  refine List.forall₂_iff_get.2 ⟨hlength.symm, fun i hi hi' => ?_⟩
  obtain ⟨txIn, key, hsweeps⟩ := hinputs i inputs[i] (List.getElem?_eq_getElem hi)
  have htxIn : tx.inputs[i] = txIn :=
    Option.some.inj ((List.getElem?_eq_getElem hi').symm.trans hsweeps.txIn_eq)
  change tx.inputs[i].encodeWitness.length + spareOf tx.inputs[i] = _
  rw [htxIn]
  obtain ⟨p, hscript⟩ := hscripts _ (List.getElem_mem hi)
  exact hsweeps.length_encodeWitness (SwapParameters.length_redeemScript_lt hscript)

theorem sum_encodeWitness {txIns : List TxIn}
    (h : List.Forall₂ (fun input txIn => txIn.encodeWitness.length + spareOf txIn =
      76 + input.script.length) inputs txIns) :
    (txIns.map fun txIn => txIn.encodeWitness.length).sum + (txIns.map spareOf).sum =
      (inputs.map fun input => 76 + input.script.length).sum := by
  induction h with
  | nil => rfl
  | cons hinput _ ih =>
    simp only [List.map_cons, List.sum_cons]
    omega

theorem hasWitness_of_build (h : build inputs destination csvHeight ratePerKw = .ok tx) :
    tx.hasWitness = true := by
  obtain ⟨hne, -⟩ := build_eq_ok_iff.1 h
  obtain ⟨input, rest, rfl⟩ := List.exists_cons_of_ne_nil hne
  obtain ⟨txIn, key, hsweeps⟩ := (sweepsAt_of_build h).2 0 input rfl
  have hmem := List.mem_of_getElem? hsweeps.txIn_eq
  have hany : (tx.inputs.any fun input => !input.witness.isEmpty) = true :=
    List.any_eq_true.2 ⟨txIn, hmem, by simp [hsweeps.witness_eq]⟩
  rw [Transaction.hasWitness, hany, Bool.or_true]

/-- The weight from which the fee is taken, by the size of the transaction that is built. -/
theorem weight_of_build (h : build inputs destination csvHeight ratePerKw = .ok tx) :
    weight inputs tx = estimatedWeight inputs destination := by
  obtain ⟨-, -, hsize, -⟩ := exists_output_of_build h
  rw [weight_eq, hsize]
  rfl

/-- The weight of a refund and what its signatures spare make up the estimate and the two units of
the mark. -/
theorem weight_add_spareBytes
    (hscripts : ∀ input ∈ inputs, ∃ p : SwapParameters, p.redeemScript = .ok input.script)
    (h : build inputs destination csvHeight ratePerKw = .ok tx) :
    tx.weight + spareBytes tx = weight inputs tx + 2 := by
  have hsum := sum_encodeWitness (forall₂_encodeWitness hscripts h)
  rw [Transaction.weight_eq (hasWitness_of_build h), weight_eq, spareBytes]
  change _ = _ + (inputs.map fun input => 76 + input.script.length).sum + 2
  omega

/-! ## The fee -/

theorem wholeSat_mono {weight weight' : Nat} (h : weight ≤ weight') (ratePerKw : UInt64) :
    wholeSat weight ratePerKw ≤ wholeSat weight' ratePerKw :=
  Nat.div_le_div_right (Nat.mul_le_mul_right _ h)

/-- A fee at the full rate for an estimate is at the full rate for a weight of two units more
exactly if rounding takes what they cost. -/
theorem wholeSat_le_iff_of_add_two {weight estimate spare : Nat}
    (h : weight + spare = estimate + 2) (ratePerKw : UInt64) :
    wholeSat weight ratePerKw ≤ wholeSat estimate ratePerKw ↔
      2 ≤ spare ∨ wholeSat weight ratePerKw = wholeSat estimate ratePerKw := by
  constructor
  · intro hle
    by_cases hspare : 2 ≤ spare
    · exact Or.inl hspare
    · exact Or.inr (Nat.le_antisymm hle (wholeSat_mono (by omega) ratePerKw))
  · rintro (hspare | hround)
    · exact wholeSat_mono (by omega) ratePerKw
    · exact Nat.le_of_eq hround

/-- The weight from which the fee of a refund of swaps is taken is two units less than its weight,
and more by the bytes that its signatures spare. What is paid is the fee for that weight, in words.
As long as these hold the weight and its product with the rate, what is paid is at the requested
rate for all but two units of the weight; and it is for all of them exactly if the signatures spare
two bytes, or rounding takes what is missing. -/
theorem fee_covers_weight_iff
    (hscripts : ∀ input ∈ inputs, ∃ p : SwapParameters, p.redeemScript = .ok input.script)
    (h : build inputs destination csvHeight ratePerKw = .ok tx) :
    tx.weight + spareBytes tx = weight inputs tx + 2 ∧
      (tx.weight ≤ weight inputs tx ↔ 2 ≤ spareBytes tx) ∧
      ∃ value, tx.outputs = [⟨value, destination⟩] ∧
        value.toNat + (feeSat (weight inputs tx) ratePerKw).toNat = totalSat inputs ∧
        (WithinWords inputs destination ratePerKw →
          let paid := totalSat inputs - value.toNat
          paid = wholeSat (weight inputs tx) ratePerKw ∧
          wholeSat (tx.weight - 2) ratePerKw ≤ paid ∧
          (wholeSat tx.weight ratePerKw ≤ paid ↔ 2 ≤ spareBytes tx ∨
            wholeSat tx.weight ratePerKw = wholeSat (weight inputs tx) ratePerKw)) := by
  have hweight := weight_add_spareBytes hscripts h
  have hestimate := weight_of_build h
  obtain ⟨-, -, -, value, houtput, hpaid⟩ := exists_output_of_build h
  rw [← hestimate] at hpaid
  refine ⟨hweight, by omega, value, houtput, hpaid, fun hwords => ?_⟩
  have hproduct := hwords.product_lt
  rw [← hestimate] at hproduct
  rw [toNat_feeSat_of_lt hproduct] at hpaid
  have hfee : totalSat inputs - value.toNat = wholeSat (weight inputs tx) ratePerKw := by omega
  dsimp only
  rw [hfee]
  exact ⟨rfl, wholeSat_mono (by omega) ratePerKw, wholeSat_le_iff_of_add_two hweight ratePerKw⟩

theorem exists_redeemScript_default (key : SecretKey) :
    ∃ p : SwapParameters, p.redeemScript = .ok (defaultInput key).script :=
  ⟨defaultSwap key, (sweeps_default key).script_eq⟩

set_option maxRecDepth 100000 in
theorem estimatedWeight_default :
    estimatedWeight defaultInputs (0 :: 20 :: Bytes.repeated 20 5) = 868 := by
  decide +kernel

/-- A refund of two swaps, whose fee and weight are small. -/
theorem fee_covers_weight_two :
    (∀ input ∈ defaultInputs, ∃ p : SwapParameters, p.redeemScript = .ok input.script) ∧
      WithinWords defaultInputs (0 :: 20 :: Bytes.repeated 20 5) 300 ∧
      ∃ tx, defaultRefund = .ok tx ∧ tx.weight + spareBytes tx = weight defaultInputs tx + 2 ∧
        ∃ value, tx.outputs = [⟨value, 0 :: 20 :: Bytes.repeated 20 5⟩] ∧
          wholeSat (tx.weight - 2) 300 ≤ totalSat defaultInputs - value.toNat := by
  have hscripts :
      ∀ input ∈ defaultInputs, ∃ p : SwapParameters, p.redeemScript = .ok input.script := by
    intro input hinput
    obtain rfl | rfl : input = defaultInput _ ∨ input = defaultInput _ := by
      simpa [defaultInputs] using hinput
    · exact exists_redeemScript_default _
    · exact exists_redeemScript_default _
  have hwords : WithinWords defaultInputs (0 :: 20 :: Bytes.repeated 20 5) 300 := by
    constructor
    · rw [estimatedWeight_default]
      decide
    · rw [estimatedWeight_default]
      decide
  obtain ⟨tx, htx, -⟩ := (Option.any_eq_true _ _).1 signsFor_default
  have hbuild : defaultRefund = .ok tx := eq_ok_of_toOption htx
  obtain ⟨hweight, -, value, houtput, -, hrate⟩ := fee_covers_weight_iff hscripts hbuild
  exact ⟨hscripts, hwords, tx, hbuild, hweight, value, houtput, (hrate hwords).2.1⟩

/-! ## A refund that pays less -/

theorem two_lt_order : 2 < Secp256k1.order := by
  decide

/-- A swap whose refund key is 2. -/
def lightInput : RefundInput :=
  defaultInput ⟨2, Nat.two_pos, two_lt_order⟩

/-- The destination of its refund, a witness program of 20 bytes. -/
def lightDestination : Bytes :=
  0 :: 20 :: Bytes.repeated 20 5

set_option maxRecDepth 100000 in
theorem estimatedWeight_light : estimatedWeight [lightInput] lightDestination = 516 := by
  decide +kernel

set_option maxRecDepth 100000 in
/-- Its refund is built, with a signature that spares nothing. -/
theorem spareBytes_light :
    (build [lightInput] lightDestination 144 300).toOption.map spareBytes = some 0 := by
  decide +kernel

set_option maxRecDepth 100000 in
/-- At a rate of `2 ^ 62`, whose product with the estimate is a multiple of the words, the fee is
nothing, and the refund is built too. -/
theorem exists_build_light :
    ∃ tx, build [lightInput] lightDestination 144 4611686018427387904 = .ok tx := by
  have htxids : ∀ input ∈ [lightInput], ∃ txid, parseTxid? input.txid = some txid :=
    List.forall_mem_singleton.2 (Option.isSome_iff_exists.1 (by decide +kernel))
  have hkeys : ∀ input ∈ [lightInput], ∃ key, SecretKey.ofBytes? input.refundKey = some key :=
    List.forall_mem_singleton.2 ⟨_, SecretKey.ofBytes?_toBytes _⟩
  obtain ⟨points, hnames⟩ := exists_names_iff.2 htxids
  obtain ⟨signed, hsigned⟩ := (exists_signInputs_iff (length_inputs_unsignedRefund hnames)).2 hkeys
  refine ⟨_, build_eq_ok_iff.2
    ⟨List.cons_ne_nil _ _, points, signed, hnames, by decide, ?_, hsigned,
    rfl⟩⟩
  rw [feeOf_eq hnames, estimatedWeight_light]
  decide

/-- Its weight is 518. At the default rate 154 satoshis are paid and not 155, since the estimate is
516; and at a rate of `2 ^ 62` nothing is paid. -/
theorem not_fee_covers_weight :
    (∃ p : SwapParameters, p.redeemScript = .ok lightInput.script) ∧
    (∃ tx, build [lightInput] lightDestination 144 300 = .ok tx ∧
      ¬tx.weight ≤ weight [lightInput] tx ∧
      ∃ value, tx.outputs = [⟨value, lightDestination⟩] ∧
        ¬wholeSat tx.weight 300 ≤ totalSat [lightInput] - value.toNat) ∧
    ∃ tx, build [lightInput] lightDestination 144 4611686018427387904 = .ok tx ∧
      ∃ value, tx.outputs = [⟨value, lightDestination⟩] ∧
        ¬wholeSat tx.weight 4611686018427387904 ≤ totalSat [lightInput] - value.toNat := by
  have hscript : ∃ p : SwapParameters, p.redeemScript = .ok lightInput.script :=
    exists_redeemScript_default _
  have hscripts : ∀ input ∈ [lightInput], ∃ p : SwapParameters, p.redeemScript = .ok input.script :=
    List.forall_mem_singleton.2 hscript
  have htotal : totalSat [lightInput] = 100000 := rfl
  refine ⟨hscript, ?_, ?_⟩
  · obtain ⟨tx, htx, hspare⟩ := Option.map_eq_some_iff.1 spareBytes_light
    have hbuild := eq_ok_of_toOption htx
    have hweight := weight_add_spareBytes hscripts hbuild
    have hestimate : weight [lightInput] tx = 516 :=
      (weight_of_build hbuild).trans estimatedWeight_light
    have hactual : tx.weight = 518 := by omega
    obtain ⟨-, -, -, value, houtput, hpaid⟩ := exists_output_of_build hbuild
    have hfee : (feeSat 516 300).toNat = 154 := by decide
    have hneeded : wholeSat 518 300 = 155 := by decide
    rw [estimatedWeight_light, hfee] at hpaid
    refine ⟨tx, hbuild, by omega, value, houtput, ?_⟩
    rw [hactual, hneeded]
    omega
  · obtain ⟨tx, hbuild⟩ := exists_build_light
    obtain ⟨-, -, -, value, houtput, hpaid⟩ := exists_output_of_build hbuild
    have hfree : (feeSat 516 4611686018427387904).toNat = 0 := by decide
    rw [estimatedWeight_light, hfree, htotal] at hpaid
    have hweight : 2 ≤ tx.weight := by
      rw [Transaction.weight_eq (hasWitness_of_build hbuild)]
      omega
    have hneeded : 0 < wholeSat 2 4611686018427387904 := by decide
    have hmono := wholeSat_mono hweight 4611686018427387904
    refine ⟨tx, hbuild, value, houtput, ?_⟩
    rw [htotal]
    omega

end LiquidityClient.Refund
