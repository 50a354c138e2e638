import LiquidityClient.Proofs.RefundBuild
import LiquidityClient.Proofs.TransactionSize

/-!
# What a refund pays

The amounts of the swept outputs go to the one output and to the fee, and nowhere else
(`build_accounts`). Amounts are summed as numbers without a bound; that the sum fits 64 bits is one
of the conditions under which a refund is built. The fee is a function of the inputs and the
destination, since the size of the transaction without witnesses depends on their number and on the
length of the destination only (`length_encodeBase_skeleton`). It is taken in words
(`toNat_feeSat`), and is the whole satoshis of the weight at the rate (`fee`) as long as these hold
the weight and the product (`WithinWords`); then the least sum that is enough does not saturate
either (`leastTotalSat_eq`).
-/

namespace LiquidityClient.Refund

/-- The bytes without witnesses of a refund with `count` inputs. An input takes 41 bytes : its out
point, an empty signature script and a sequence. -/
def baseSize (count : Nat) (destination : Bytes) : Nat :=
  4 + ((compactSize count).length + 41 * count) + (1 + (8 + (sized destination).length)) + 4

/-- The weight from which the fee of a refund is taken. -/
def estimatedWeight (inputs : List RefundInput) (destination : Bytes) : Nat :=
  4 * baseSize inputs.length destination + (inputs.map fun input => 76 + input.script.length).sum

/-- The whole satoshis that a weight costs at a rate in satoshis for 1000 units. -/
def wholeSat (weight : Nat) (ratePerKw : UInt64) : Nat :=
  weight * ratePerKw.toNat / 1000

/-- The fee of a refund, as a number without a bound. -/
def fee (inputs : List RefundInput) (destination : Bytes) (ratePerKw : UInt64) : Nat :=
  wholeSat (estimatedWeight inputs destination) ratePerKw

/-- The weight of a refund and its product with the rate are words. -/
structure WithinWords (inputs : List RefundInput) (destination : Bytes) (ratePerKw : UInt64) :
    Prop where
  weight_lt : estimatedWeight inputs destination < UInt64.size
  product_lt : estimatedWeight inputs destination * ratePerKw.toNat < UInt64.size

variable {inputs : List RefundInput} {points : List OutPoint} {destination : Bytes}
  {csvHeight : UInt32} {ratePerKw : UInt64} {tx : Transaction}

/-! ## Size -/

theorem length_encodeBase_skeleton (hpoints : ∀ point ∈ points, point.txid.length = 32)
    (csvHeight : UInt32) (output : TxOut) :
    (skeleton points csvHeight output).encodeBase.length =
      baseSize points.length output.script := by
  have hone : (compactSize 1).length = 1 := length_compactSize_of_lt (by decide)
  have hempty : (sized []).length = 1 := length_sized_of_lt (by decide)
  have hsizes : points.map (fun point => point.txid.length + 8 + (sized []).length) =
      points.map fun _ => 41 := by
    refine List.map_congr_left fun point hpoint => ?_
    rw [hpoints point hpoint, hempty]
  simp [Transaction.length_encodeBase, Transaction.length_encodeBody, skeleton, baseSize,
    TxIn.length_encode, TxOut.length_encode, Function.comp_def, hsizes, hone]
  omega

theorem weight_eq (inputs : List RefundInput) (tx : Transaction) :
    weight inputs tx =
      4 * tx.encodeBase.length + (inputs.map fun input => witnessSize input.script).sum := by
  unfold weight
  generalize 4 * tx.encodeBase.length = start
  induction inputs generalizing start with
  | nil => rfl
  | cons input inputs ih =>
    rw [List.foldl_cons, ih, List.map_cons, List.sum_cons, Nat.add_assoc]

theorem length_txid_of_names (hnames : List.Forall₂ Names inputs points) :
    ∀ point ∈ points, point.txid.length = 32 := by
  induction hnames with
  | nil => exact nofun
  | cons hname _ ih => exact List.forall_mem_cons.2 ⟨length_of_parseTxid? hname.txid_eq, ih⟩

/-- The fee is taken from the estimated weight. -/
theorem feeOf_eq (hnames : List.Forall₂ Names inputs points) :
    feeOf inputs points destination csvHeight ratePerKw =
      feeSat (estimatedWeight inputs destination) ratePerKw := by
  unfold feeOf estimatedWeight
  rw [weight_eq, length_encodeBase_skeleton (length_txid_of_names hnames), hnames.length_eq]
  rfl

/-! ## The fee in words -/

/-- The product of a weight and a rate wraps around before it is divided. -/
theorem toNat_feeSat (weight : Nat) (ratePerKw : UInt64) :
    (feeSat weight ratePerKw).toNat = weight * ratePerKw.toNat % UInt64.size / 1000 := by
  rw [feeSat, UInt64.toNat_div, UInt64.toNat_mul, UInt64.toNat_ofNat', Nat.mod_mul_mod]
  rfl

/-- So a rate of `2 ^ 62` costs nothing at a weight that is a multiple of 4. -/
example : feeSat 516 4611686018427387904 = 0 := by decide

theorem toNat_feeSat_of_lt {weight : Nat} (h : weight * ratePerKw.toNat < UInt64.size) :
    (feeSat weight ratePerKw).toNat = wholeSat weight ratePerKw := by
  rw [toNat_feeSat, Nat.mod_eq_of_lt h, wholeSat]

/-- The fee is at most the sum of amounts that pays it, so that taking it from these does not
wrap. -/
theorem toNat_le_leastTotalSat (fee : UInt64) (destination : Bytes) :
    fee.toNat ≤ leastTotalSat fee destination := by
  have hfee := fee.toNat_lt_size
  unfold leastTotalSat
  omega

/-- A destination whose output is in a weight that is a word asks for a fourth of the words at most,
and some. -/
theorem minimalNonDust_lt (h : estimatedWeight inputs destination < UInt64.size) :
    TxOut.minimalNonDust destination < 3 * (UInt64.size / 4) + 500 := by
  have hsized : 4 * (sized destination).length < UInt64.size := by
    unfold estimatedWeight baseSize at h
    omega
  have hrate : TxOut.dustRelayFee = 3000 := rfl
  unfold TxOut.minimalNonDust
  simp only [hrate]
  split_ifs <;> omega

/-- Where the weight and the product are words, neither the fee nor the least sum is cut off. -/
theorem WithinWords.leastTotalSat_eq (h : WithinWords inputs destination ratePerKw) :
    leastTotalSat (feeSat (estimatedWeight inputs destination) ratePerKw) destination =
      fee inputs destination ratePerKw + TxOut.minimalNonDust destination := by
  have hdust := minimalNonDust_lt h.weight_lt
  have hfee : fee inputs destination ratePerKw ≤ UInt64.size / 1000 :=
    Nat.div_le_div_right h.product_lt.le
  have hsize : UInt64.size = 2 ^ 64 := rfl
  rw [leastTotalSat, toNat_feeSat_of_lt h.product_lt, ← fee]
  omega

/-! ## Conditions -/

/-- Out points can be found exactly if every transaction id can be read. -/
theorem exists_names_iff :
    (∃ points, List.Forall₂ Names inputs points) ↔
      ∀ input ∈ inputs, ∃ txid, parseTxid? input.txid = some txid := by
  induction inputs with
  | nil => exact ⟨fun _ => nofun, fun _ => ⟨[], .nil⟩⟩
  | cons input inputs ih =>
    rw [List.forall_mem_cons, ← ih]
    constructor
    · rintro ⟨_, _ | ⟨hname, hnames⟩⟩
      exact ⟨⟨_, hname.txid_eq⟩, _, hnames⟩
    · rintro ⟨⟨txid, htxid⟩, points, hnames⟩
      exact ⟨⟨txid, input.index⟩ :: points, .cons ⟨htxid, rfl⟩ hnames⟩

/-- The conditions under which a refund is built. -/
structure Buildable (inputs : List RefundInput) (destination : Bytes) (ratePerKw : UInt64) :
    Prop where
  ne_nil : inputs ≠ []
  txids : ∀ input ∈ inputs, ∃ txid, parseTxid? input.txid = some txid
  total_lt : totalSat inputs < UInt64.size
  keys : ∀ input ∈ inputs, ∃ key, SecretKey.ofBytes? input.refundKey = some key
  pays : fee inputs destination ratePerKw + TxOut.minimalNonDust destination ≤ totalSat inputs

theorem exists_build_iff (hwords : WithinWords inputs destination ratePerKw) (csvHeight : UInt32) :
    (∃ tx, build inputs destination csvHeight ratePerKw = .ok tx) ↔
      Buildable inputs destination ratePerKw := by
  have hleast {points : List OutPoint} (hnames : List.Forall₂ Names inputs points) :
      leastTotalSat (feeOf inputs points destination csvHeight ratePerKw) destination =
        fee inputs destination ratePerKw + TxOut.minimalNonDust destination := by
    rw [feeOf_eq hnames, hwords.leastTotalSat_eq]
  constructor
  · rintro ⟨tx, h⟩
    obtain ⟨hne, points, signed, hnames, hlt, hpays, hsigned, -⟩ := build_eq_ok_iff.1 h
    exact ⟨hne, exists_names_iff.1 ⟨points, hnames⟩, hlt,
      (exists_signInputs_iff (length_inputs_unsignedRefund hnames)).1 ⟨signed, hsigned⟩,
      hleast hnames ▸ hpays⟩
  · rintro ⟨hne, htxids, hlt, hkeys, hpays⟩
    obtain ⟨points, hnames⟩ := exists_names_iff.2 htxids
    obtain ⟨signed, hsigned⟩ :=
      (exists_signInputs_iff (length_inputs_unsignedRefund hnames)).2 hkeys
    exact ⟨_, build_eq_ok_iff.2
      ⟨hne, points, signed, hnames, hlt, (hleast hnames).symm ▸ hpays, hsigned, rfl⟩⟩

/-! ## Accounts -/

/-- The output of a refund takes what the fee leaves of the amounts. -/
theorem exists_output_of_build (h : build inputs destination csvHeight ratePerKw = .ok tx) :
    tx.version = 2 ∧ tx.lockTime = 0 ∧
      tx.encodeBase.length = baseSize inputs.length destination ∧
      ∃ value, tx.outputs = [⟨value, destination⟩] ∧
        value.toNat + (feeSat (estimatedWeight inputs destination) ratePerKw).toNat =
          totalSat inputs := by
  obtain ⟨-, points, signed, hnames, hlt, hpays, hsigned, rfl⟩ := build_eq_ok_iff.1 h
  have hsame := (signInputs_spec (length_inputs_unsignedRefund hnames) hsigned).1
  have hcovers := (toNat_le_leastTotalSat _ _).trans hpays
  refine ⟨rfl, rfl, ?_, _, rfl, ?_⟩
  · rw [Transaction.encodeBase_congr hsame, hnames.length_eq]
    exact length_encodeBase_skeleton (length_txid_of_names hnames) _ _
  · rw [UInt64.toNat_ofNat_of_lt' (by omega), ← feeOf_eq hnames, Nat.sub_add_cancel hcovers]

/-- Let the weight of a refund and its product with the rate be words. A refund is built exactly if
there are inputs, all transaction ids and keys can be read, the sum of the amounts fits 64 bits, and
it pays the fee and an output that is not dust. Otherwise there is no transaction at all. What is
built is of version 2 and without a lock time; it has one input for each output that it sweeps, in
their order, and one output to the destination, whose value and the fee are the sum of the
amounts. -/
theorem build_accounts (hwords : WithinWords inputs destination ratePerKw) (csvHeight : UInt32) :
    ((∃ tx, build inputs destination csvHeight ratePerKw = .ok tx) ↔
      Buildable inputs destination ratePerKw) ∧
    ∀ tx, build inputs destination csvHeight ratePerKw = .ok tx →
      tx.version = 2 ∧ tx.lockTime = 0 ∧
        fee inputs destination ratePerKw =
          (4 * tx.encodeBase.length + (inputs.map fun input => 76 + input.script.length).sum)
            * ratePerKw.toNat / 1000 ∧
        tx.inputs.length = inputs.length ∧
        (∀ (i : Nat) (input : RefundInput), inputs[i]? = some input →
          ∃ txIn key, SweepsAt tx csvHeight i input txIn key) ∧
        ∃ value, tx.outputs = [⟨value, destination⟩] ∧
          value.toNat + fee inputs destination ratePerKw = totalSat inputs ∧
          TxOut.minimalNonDust destination ≤ value.toNat := by
  refine ⟨exists_build_iff hwords csvHeight, fun tx h => ?_⟩
  obtain ⟨hversion, hlock, hsize, value, houtput, hpaid⟩ := exists_output_of_build h
  obtain ⟨hlength, hinputs⟩ := sweepsAt_of_build h
  have hpays := ((exists_build_iff hwords csvHeight).1 ⟨tx, h⟩).pays
  rw [toNat_feeSat_of_lt hwords.product_lt, ← fee] at hpaid
  refine ⟨hversion, hlock, ?_, hlength, hinputs, value, houtput, hpaid, by omega⟩
  rw [hsize]
  rfl

/-- An output of `amountSat` whose refund is paid to a witness program of 20 bytes. Its weight is
404, so that the fee is 121 at a rate of 300, and its destination takes no less than 294. -/
def bareInput (amountSat : UInt64) : RefundInput where
  script := []
  txid := Hex.encode (Bytes.repeated 32 9)
  index := 1
  amountSat
  refundKey := SecretKey.toBytes ⟨11, by decide, by decide⟩

set_option maxRecDepth 100000 in
theorem bareInput_costs :
    estimatedWeight [bareInput 415] (0 :: 20 :: Bytes.repeated 20 5) = 404 ∧
      TxOut.minimalNonDust (0 :: 20 :: Bytes.repeated 20 5) = 294 := by
  decide +kernel

set_option maxRecDepth 100000 in
/-- The refund of 415 satoshis is built, and pays just what its destination takes. -/
theorem build_accounts_least :
    WithinWords [bareInput 415] (0 :: 20 :: Bytes.repeated 20 5) 300 ∧
      ∃ tx, build [bareInput 415] (0 :: 20 :: Bytes.repeated 20 5) 144 300 = .ok tx ∧
        tx.outputs = [⟨294, 0 :: 20 :: Bytes.repeated 20 5⟩] := by
  obtain ⟨hweight, hdust⟩ := bareInput_costs
  have hwords : WithinWords [bareInput 415] (0 :: 20 :: Bytes.repeated 20 5) 300 := by
    constructor
    · rw [hweight]
      decide
    · rw [hweight]
      decide
  have hfee : fee [bareInput 415] (0 :: 20 :: Bytes.repeated 20 5) 300 = 121 := by
    rw [fee, hweight]
    decide
  have hbuildable : Buildable [bareInput 415] (0 :: 20 :: Bytes.repeated 20 5) 300 := by
    refine ⟨List.cons_ne_nil _ _, List.forall_mem_singleton.2 ?_, by decide,
      List.forall_mem_singleton.2 ⟨_, SecretKey.ofBytes?_toBytes _⟩, ?_⟩
    · exact Option.isSome_iff_exists.1 (by decide +kernel)
    · rw [hfee, hdust]
      decide
  obtain ⟨hbuilt, haccounts⟩ := build_accounts hwords 144
  obtain ⟨tx, hbuild⟩ := hbuilt.2 hbuildable
  obtain ⟨-, -, -, -, -, value, houtput, hsum, -⟩ := haccounts tx hbuild
  have htotal : totalSat [bareInput 415] = 415 := rfl
  rw [hfee, htotal] at hsum
  have hvalue : value.toNat = 294 := by omega
  obtain rfl : value = 294 := UInt64.toNat.inj hvalue
  exact ⟨hwords, tx, hbuild, houtput⟩

end LiquidityClient.Refund
