import LiquidityClient.Proofs.CompressedKey
import LiquidityClient.Proofs.RedeemScript

/-!
# What a redeem script tells

No two lock heights have the same bytes (`ScriptItem.lockHeightBytes_inj`), and each other item says
how long it is or is as long in every script. So a redeem script tells the payment hash, the
compressed keys and the lock height (`SwapParameters.redeemScript_inj`), and with them the keys
(`SwapParameters.eq_of_redeemScript_eq`). Among well-formed parameters, each with its own script,
the lock height decides whether there is a script at all (`SwapParameters.redeemScript_determines`).
-/

namespace LiquidityClient

open Opcode

namespace ScriptItem

/-- The forms of lock heights differ in length or in the first byte. -/
theorem lockHeightBytes_inj {height height' : ℕ}
    (h : minLockHeight ≤ height ∧ height ≤ maxLockHeight)
    (h' : minLockHeight ≤ height' ∧ height' ≤ maxLockHeight)
    (heq : lockHeightBytes height = lockHeightBytes height') : height = height' := by
  unfold minLockHeight maxLockHeight at h h'
  unfold lockHeightBytes at heq
  split_ifs at heq <;>
    simp only [List.cons.injEq, and_true, true_and, reduceCtorEq, and_false,
      ← UInt8.toNat_inj, UInt8.toNat_ofNat'] at heq <;> omega

end ScriptItem

namespace SwapParameters

open ScriptItem

variable {p q : SwapParameters} {script : Bytes}

/-- The bytes in front of the lock height. -/
def frontBytes (p : SwapParameters) : Bytes :=
  opSha256 :: UInt8.ofNat p.paymentHash.length :: (p.paymentHash ++
    opEqual :: opIf :: 33 :: (p.htlcKey.compressed ++ [opElse]))

/-- The bytes behind the lock height. -/
def backBytes (p : SwapParameters) : Bytes :=
  opCheckSequenceVerify :: opDrop :: 33 :: (p.refundKey.compressed ++ [opEndIf, opCheckSig])

theorem assemble_front_eq_ok {bytes : Bytes} :
    assemble p.front = .ok bytes ↔ p.paymentHash.length ≤ maxPush ∧ p.frontBytes = bytes := by
  have hkey : p.htlcKey.compressed.length = 33 := p.htlcKey.length_compressed
  by_cases hhash : p.paymentHash.length ≤ 75 <;>
    simp [front, frontBytes, assemble, encode, hkey, hhash, bind, Except.bind, pure, Except.pure,
      maxPush]

theorem assemble_back (p : SwapParameters) : assemble p.back = .ok p.backBytes := by
  have hkey : p.refundKey.compressed.length = 33 := p.refundKey.length_compressed
  simp [back, backBytes, assemble, encode, hkey, bind, Except.bind, pure, Except.pure, maxPush]

theorem frontBytes_append_inj {rest rest' : Bytes} (hp : p.paymentHash.length ≤ maxPush)
    (hq : q.paymentHash.length ≤ maxPush) (h : p.frontBytes ++ rest = q.frontBytes ++ rest') :
    p.paymentHash = q.paymentHash ∧ p.htlcKey.compressed = q.htlcKey.compressed ∧ rest = rest' := by
  unfold maxPush at hp hq
  simp only [frontBytes, List.cons_append, List.append_assoc, List.cons.injEq, true_and,
    List.nil_append] at h
  obtain ⟨hlength, h⟩ := h
  have hlength : p.paymentHash.length = q.paymentHash.length := by
    rw [← UInt8.toNat_inj, UInt8.toNat_ofNat', UInt8.toNat_ofNat'] at hlength
    omega
  obtain ⟨hhash, h⟩ := List.append_inj h hlength
  simp only [List.cons.injEq, true_and] at h
  obtain ⟨hkey, h⟩ := List.append_inj h
    (p.htlcKey.length_compressed.trans q.htlcKey.length_compressed.symm)
  exact ⟨hhash, hkey, (List.cons.inj h).2⟩

theorem backBytes_inj (h : p.backBytes = q.backBytes) :
    p.refundKey.compressed = q.refundKey.compressed := by
  simpa [backBytes] using h

/-- A redeem script tells what was written into it. -/
theorem redeemScript_inj (hp : p.redeemScript = .ok script) (hq : q.redeemScript = .ok script) :
    p.paymentHash = q.paymentHash ∧ p.htlcKey.compressed = q.htlcKey.compressed ∧
      p.csvHeight = q.csvHeight ∧ p.refundKey.compressed = q.refundKey.compressed := by
  obtain ⟨front, lock, back, hfront, hlock, hback, rfl⟩ := redeemScript_eq_ok.1 hp
  obtain ⟨front', lock', back', hfront', hlock', hback', heq⟩ := redeemScript_eq_ok.1 hq
  obtain ⟨hlength, rfl⟩ := assemble_front_eq_ok.1 hfront
  obtain ⟨hlength', rfl⟩ := assemble_front_eq_ok.1 hfront'
  obtain ⟨hheight, rfl⟩ := encode_lockHeight_eq_ok.1 hlock
  obtain ⟨hheight', rfl⟩ := encode_lockHeight_eq_ok.1 hlock'
  obtain rfl := Except.ok.inj (p.assemble_back.symm.trans hback)
  obtain rfl := Except.ok.inj (q.assemble_back.symm.trans hback')
  obtain ⟨hhash, hkey, hrest⟩ := frontBytes_append_inj hlength hlength' heq
  obtain ⟨hlocks, hbacks⟩ :=
    List.append_inj' hrest (by simp [backBytes, PublicKey.length_compressed])
  exact ⟨hhash, hkey, UInt32.toNat_inj.1 (lockHeightBytes_inj hheight hheight' hlocks),
    backBytes_inj hbacks⟩

/-- A redeem script is short enough for a length prefix of one byte. -/
theorem length_redeemScript_lt (h : p.redeemScript = .ok script) : script.length < 0xfd := by
  obtain ⟨front, lock, back, hfront, hlock, hback, rfl⟩ := redeemScript_eq_ok.1 h
  obtain ⟨hhash, rfl⟩ := assemble_front_eq_ok.1 hfront
  obtain ⟨-, rfl⟩ := encode_lockHeight_eq_ok.1 hlock
  obtain rfl := Except.ok.inj (p.assemble_back.symm.trans hback)
  have hlock : (lockHeightBytes p.csvHeight.toNat).length ≤ 3 := by
    unfold lockHeightBytes
    split_ifs <;> simp
  unfold maxPush at hhash
  simp [frontBytes, backBytes, PublicKey.length_compressed]
  omega

/-- With keys that can be read, a redeem script tells all its parameters. -/
theorem eq_of_redeemScript_eq (hp : p.redeemScript = .ok script) (hq : q.redeemScript = .ok script)
    (hpHtlc : p.htlcKey.Valid) (hqHtlc : q.htlcKey.Valid) (hpRefund : p.refundKey.Valid)
    (hqRefund : q.refundKey.Valid) : p = q := by
  obtain ⟨hhash, hhtlc, hheight, hrefund⟩ := redeemScript_inj hp hq
  rw [PublicKey.compressed_inj hpHtlc hqHtlc] at hhtlc
  rw [PublicKey.compressed_inj hpRefund hqRefund] at hrefund
  cases p
  cases q
  simp_all

/-- Parameters as they are written into a script : the payment hash has 32 bytes, and the keys are
points of the curve. -/
structure WellFormed (p : SwapParameters) : Prop where
  length_paymentHash : p.paymentHash.length = 32
  htlcKey : p.htlcKey.Valid
  refundKey : p.refundKey.Valid

theorem exists_redeemScript_iff (hhash : p.paymentHash.length = 32) :
    (∃ script, p.redeemScript = .ok script) ↔
      minLockHeight ≤ p.csvHeight.toNat ∧ p.csvHeight.toNat ≤ maxLockHeight := by
  refine ⟨fun ⟨script, hscript⟩ => ?_, exists_redeemScript hhash⟩
  by_contra hheight
  cases hscript.symm.trans (redeemScript_eq_error hhash hheight)

/-- There is a redeem script for each lock height from 2 to `0x7fff` and for no other, and it is the
redeem script of no other parameters. -/
theorem redeemScript_determines (hp : p.WellFormed) (hq : q.WellFormed) :
    ((∃ script, p.redeemScript = .ok script) ↔
      2 ≤ p.csvHeight.toNat ∧ p.csvHeight.toNat ≤ 0x7fff) ∧
    ∀ script, p.redeemScript = .ok script →
      (q.redeemScript = .ok script ↔
        q.paymentHash = p.paymentHash ∧ q.htlcKey = p.htlcKey ∧ q.refundKey = p.refundKey ∧
          q.csvHeight = p.csvHeight) := by
  refine ⟨exists_redeemScript_iff hp.length_paymentHash,
    fun script hscript => ⟨fun hsame => ?_, ?_⟩⟩
  · obtain rfl :=
      eq_of_redeemScript_eq hscript hsame hp.htlcKey hq.htlcKey hp.refundKey hq.refundKey
    exact ⟨rfl, rfl, rfl, rfl⟩
  · rintro ⟨hhash, hhtlc, hrefund, hheight⟩
    cases p
    cases q
    simp_all

/-- The greatest height that is written as its bare byte and the least one that is pushed have
different scripts. -/
theorem redeemScript_determines_bareHeight :
    let p : SwapParameters :=
      ⟨Bytes.repeated 32 7, ⟨Secp256k1.generator⟩, ⟨Secp256k1.generator⟩, 0x4b⟩
    let q : SwapParameters := { p with csvHeight := 0x4c }
    p.WellFormed ∧ q.WellFormed ∧
      ∃ script, p.redeemScript = .ok script ∧ q.redeemScript ≠ .ok script := by
  intro p q
  have hp : p.WellFormed := ⟨by decide, Secp256k1.valid_generator, Secp256k1.valid_generator⟩
  have hq : q.WellFormed := ⟨by decide, Secp256k1.valid_generator, Secp256k1.valid_generator⟩
  obtain ⟨hexists, hsame⟩ := redeemScript_determines hp hq
  obtain ⟨script, hscript⟩ := hexists.2 (by decide)
  refine ⟨hp, hq, script, hscript, fun heq => ?_⟩
  obtain ⟨-, -, -, hheight⟩ := (hsame script hscript).1 heq
  exact absurd hheight (by decide)

end SwapParameters

end LiquidityClient
