import LiquidityClient.Proofs.RefundBuild
import LiquidityClient.Proofs.SpendingConditions

/-!
# Refunds can be spent

A refund that is built spends each of the swap outputs it sweeps, through the branch of the refund
key (`build_spends`) : its witness satisfies the conditions of the swap (`satisfies_of_signsFor`),
since the input is locked for as long as the script asks (`locksFor_of_sequence`). Of the curve only
this is assumed, that the signatures in question hold under the keys that the scripts name.
-/

namespace LiquidityClient

open ScriptItem ScriptState Secp256k1

namespace Refund

/-! ## What is built -/

/-- The inputs of what is built, each with the signature of the digest of the finished
transaction. -/
theorem exists_input_of_build {inputs : List RefundInput} {destination : Bytes}
    {csvHeight : UInt32} {ratePerKw : UInt64} {tx : Transaction}
    (h : build inputs destination csvHeight ratePerKw = .ok tx) :
    tx.version = version ∧ tx.inputs.length = inputs.length ∧
      ∀ (i : Nat) (input : RefundInput), inputs[i]? = some input →
        ∃ txIn key, tx.inputs[i]? = some txIn ∧
          SecretKey.ofBytes? input.refundKey = some key ∧ txIn.signatureScript = [] ∧
          txIn.sequence = csvHeight ∧ txIn.witness =
            [(Signature.sign key
              (tx.signatureHash i txIn input.script input.amountSat 1)).der ++ [1], [],
              input.script] := by
  obtain ⟨hlength, hinputs⟩ := sweepsAt_of_build h
  refine ⟨?_, hlength, fun i input hinput => ?_⟩
  · obtain ⟨-, points, signed, -, -, -, -, rfl⟩ := build_eq_ok_iff.1 h
    rfl
  · obtain ⟨txIn, key, hsweeps⟩ := hinputs i input hinput
    exact ⟨txIn, key, hsweeps.txIn_eq, hsweeps.key_eq, hsweeps.signatureScript_eq,
      hsweeps.sequence_eq, hsweeps.witness_eq⟩

/-! ## What it spends -/

/-- The input sweeps the swap with these parameters, whose refund key has this secret key, and which
no one can claim with the empty string. -/
structure Sweeps (csvHeight : UInt32) (input : RefundInput) (p : SwapParameters)
    (key : SecretKey) : Prop where
  csvHeight_eq : p.csvHeight = csvHeight
  length_paymentHash : p.paymentHash.length = 32
  paymentHash_ne : p.paymentHash ≠ Sha256.hash []
  key_eq : SecretKey.ofBytes? input.refundKey = some key
  refundKey_eq : p.refundKey = key.publicKey
  script_eq : p.redeemScript = .ok input.script

/-- The signature that a key makes of a digest holds under its public key, as scripts spell it. -/
def SignsFor (key : SecretKey) (digest : Bytes) : Prop :=
  (PublicKey.ofBytes? key.publicKey.compressed).any
    (fun k => Signature.verify k digest (Signature.sign key digest)) = true

instance (key : SecretKey) (digest : Bytes) : Decidable (SignsFor key digest) :=
  inferInstanceAs (Decidable (_ = true))

/-- An input of a transaction of version 2 whose sequence is the lock height is locked for as
long. -/
theorem locksFor_of_sequence {context : SpendContext} {csvHeight : UInt32}
    (hversion : context.version = version) (hsequence : context.sequence = csvHeight)
    (hheight : csvHeight.toNat ≤ maxLockHeight) :
    RelativeLock.LocksFor context csvHeight.toNat := by
  unfold maxLockHeight at hheight
  refine ⟨?_, ?_, ?_, ?_⟩
  · rw [hversion]
    decide
  · rw [hsequence]
    exact Nat.testBit_lt_two_pow (by omega)
  · rw [hsequence]
    exact Nat.testBit_lt_two_pow (by omega)
  · rw [hsequence]
    exact Nat.le_of_eq (Nat.mod_eq_of_lt (by omega)).symm

/-- The elements of a refund witness satisfy the conditions of the swap. -/
theorem satisfies_of_signsFor {csvHeight : UInt32} {input : RefundInput} {p : SwapParameters}
    {key : SecretKey} (hsweeps : Sweeps csvHeight input p key)
    (hheight : csvHeight.toNat ≤ maxLockHeight) {tx : Transaction} {i : Nat} {txIn : TxIn}
    (hversion : tx.version = version) (hsequence : txIn.sequence = csvHeight)
    (hsigns : SignsFor key (tx.signatureHash i txIn input.script input.amountSat 1)) :
    p.Satisfies (tx.spendContext i txIn input.script input.amountSat)
      ((Signature.sign key (tx.signatureHash i txIn input.script input.amountSat 1)).der ++ [1])
      [] := by
  obtain ⟨hr, hs⟩ :=
    Signature.sign_lt key (tx.signatureHash i txIn input.script input.amountSat 1)
  refine Or.inr ⟨hsweeps.paymentHash_ne.symm, ?_, ?_⟩
  · rw [hsweeps.refundKey_eq, Transaction.checkSignature_spendContext,
      Transaction.checkSignature_der hr hs]
    exact congrArg some hsigns
  · rw [hsweeps.csvHeight_eq]
    exact locksFor_of_sequence hversion hsequence hheight

/-- The witness of a refund : a signature with its type byte, nothing, and the script. -/
theorem length_refund_element_le (key : SecretKey) (digest : Bytes) :
    ∀ e ∈ [(Signature.sign key digest).der ++ [1], []], e.length ≤ maxElementLength := by
  obtain ⟨hr, hs⟩ := Signature.sign_lt key digest
  have hlength := Signature.length_der_le hr hs
  simp only [List.forall_mem_cons, List.length_append, List.length_singleton, maxElementLength]
  exact ⟨by omega, by simp, by simp⟩

/-- A refund that is built, with a lock height that is not a bare byte, of outputs of swaps with
this lock, has one input for each of them. Each input has the witness of the refund branch, with a
signature of the digest of the finished transaction by the refund key; the fourth instruction of its
script opens the branch that is not the claim's; and it is locked for as long as the script asks. If
the signature holds, as one made with a key does under its public key, then the input spends its
output. -/
theorem build_spends {inputs : List RefundInput} {destination : Bytes} {csvHeight : UInt32}
    {ratePerKw : UInt64} {tx : Transaction}
    (hheight : 2 ≤ csvHeight.toNat ∧ csvHeight.toNat ≤ 16 ∨
      0x4c ≤ csvHeight.toNat ∧ csvHeight.toNat ≤ 0x7fff)
    (hsweeps : ∀ input ∈ inputs, ∃ p key, Sweeps csvHeight input p key)
    (hbuild : build inputs destination csvHeight ratePerKw = .ok tx) :
    tx.inputs.length = inputs.length ∧
      ∀ (i : Nat) (input : RefundInput), inputs[i]? = some input →
        ∃ txIn key, tx.inputs[i]? = some txIn ∧ SecretKey.ofBytes? input.refundKey = some key ∧
          let digest := tx.signatureHash i txIn input.script input.amountSat 1
          let signature := (Signature.sign key digest).der ++ [1]
          let context := tx.spendContext i txIn input.script input.amountSat
          txIn.witness = [signature, [], input.script] ∧
          branchesAfter? context 4 input.script [signature, []] = some [false] ∧
          RelativeLock.LocksFor context csvHeight.toNat ∧
          (SignsFor key digest →
            tx.spends i ⟨input.amountSat, witnessScriptOutput input.script⟩ = true) := by
  obtain ⟨hversion, hlength, hinputs⟩ := exists_input_of_build hbuild
  refine ⟨hlength, fun i input hinput => ?_⟩
  obtain ⟨txIn, key, htxIn, hkey, hscript, hsequence, hwitness⟩ := hinputs i input hinput
  obtain ⟨p, key', hswap⟩ := hsweeps input (List.mem_of_getElem? hinput)
  obtain rfl : key = key' := Option.some.inj (hkey.symm.trans hswap.key_eq)
  have hmax : csvHeight.toNat ≤ maxLockHeight := by
    unfold maxLockHeight
    omega
  have hbare : ¬BareHeight p.csvHeight.toNat := by
    rw [hswap.csvHeight_eq]
    unfold BareHeight
    omega
  refine ⟨txIn, key, htxIn, hkey, hwitness, ?_,
    locksFor_of_sequence hversion hsequence hmax, fun hsigns => ?_⟩
  · rw [SwapParameters.branchesAfter?_hashCheck hswap.length_paymentHash hswap.script_eq hbare,
      decide_eq_false hswap.paymentHash_ne]
  · have hsatisfies := satisfies_of_signsFor hswap hmax hversion hsequence hsigns
    have haccepts := (SwapParameters.accepts_iff_satisfies hswap.length_paymentHash
      hswap.script_eq hbare (length_refund_element_le key _)).2 ⟨_, _, rfl, hsatisfies⟩
    exact Transaction.spends_of_accepts htxIn hscript hwitness haccepts

/-- A swap with the default lock of 144 blocks. -/
def defaultSwap (key : SecretKey) : SwapParameters :=
  ⟨Bytes.repeated 32 7, ⟨generator⟩, key.publicKey, 144⟩

/-- An input that sweeps it. -/
def defaultInput (key : SecretKey) : RefundInput where
  script := (defaultSwap key).redeemScript.toOption.getD []
  txid := Hex.encode (Bytes.repeated 32 9)
  index := 1
  amountSat := 100000
  refundKey := key.toBytes

set_option maxRecDepth 100000 in
theorem sweeps_default (key : SecretKey) :
    Sweeps 144 (defaultInput key) (defaultSwap key) key := by
  have hhash : (defaultSwap key).paymentHash.length = 32 := List.length_replicate
  have hempty : Bytes.repeated 32 7 ≠ Sha256.hash [] := by decide +kernel
  have hheight : minLockHeight ≤ (144 : UInt32).toNat ∧ (144 : UInt32).toNat ≤ maxLockHeight := by
    decide
  obtain ⟨script, hscript⟩ :=
    SwapParameters.exists_redeemScript (p := defaultSwap key) hhash hheight
  refine ⟨rfl, hhash, hempty, key.ofBytes?_toBytes, rfl, ?_⟩
  rw [defaultInput, hscript]
  rfl

/-- Two swaps whose refund keys are 2 and 3. -/
def defaultInputs : List RefundInput :=
  [defaultInput ⟨2, by decide, by decide⟩, defaultInput ⟨3, by decide, by decide⟩]

/-- A refund of both. -/
def defaultRefund : Except SwapError Transaction :=
  build defaultInputs (0 :: 20 :: Bytes.repeated 20 5) 144 300

set_option maxRecDepth 100000 in
/-- It is built, and the signature of its second input holds. -/
theorem signsFor_default :
    defaultRefund.toOption.any (fun tx => tx.inputs[1]?.any fun txIn =>
      defaultInputs[1]?.any fun input => (SecretKey.ofBytes? input.refundKey).any fun key =>
        SignsFor key (tx.signatureHash 1 txIn input.script input.amountSat 1)) = true := by
  decide +kernel

/-- A refund of two swaps spends the second. -/
theorem build_spends_two :
    ∃ tx, defaultRefund = .ok tx ∧ tx.inputs.length = 2 ∧ ∃ input, defaultInputs[1]? = some input ∧
      tx.spends 1 ⟨input.amountSat, witnessScriptOutput input.script⟩ = true := by
  have hsweeps : ∀ input ∈ defaultInputs, ∃ p key, Sweeps 144 input p key := by
    intro input hinput
    obtain rfl | rfl : input = defaultInput _ ∨ input = defaultInput _ := by
      simpa [defaultInputs] using hinput
    · exact ⟨_, _, sweeps_default _⟩
    · exact ⟨_, _, sweeps_default _⟩
  obtain ⟨tx, htx, hsigns⟩ := (Option.any_eq_true _ _).1 signsFor_default
  have hbuild : defaultRefund = .ok tx := eq_ok_of_toOption htx
  obtain ⟨txIn, htxIn, hsigns⟩ := (Option.any_eq_true _ _).1 hsigns
  obtain ⟨input, hinput, hsigns⟩ := (Option.any_eq_true _ _).1 hsigns
  obtain ⟨key, hkey, hsigns⟩ := (Option.any_eq_true _ _).1 hsigns
  obtain ⟨hlength, hinputs⟩ := build_spends (by decide) hsweeps hbuild
  obtain ⟨txIn', key', htxIn', hkey', -, -, -, hspends⟩ := hinputs 1 input hinput
  obtain rfl := Option.some.inj (htxIn.symm.trans htxIn')
  obtain rfl := Option.some.inj (hkey.symm.trans hkey')
  exact ⟨tx, hbuild, hlength, input, hinput, hspends (of_decide_eq_true hsigns)⟩

end Refund

end LiquidityClient
