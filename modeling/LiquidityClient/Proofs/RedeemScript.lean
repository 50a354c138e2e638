import LiquidityClient.Proofs.Script.Instruction
import LiquidityClient.Swap.RedeemScript

/-!
# How redeem scripts are read

A redeem script should be read as `SwapParameters.template` with the lock height as the operand of
the lock. Heights up to 16 and from `0x4c` on are written as a push of the height, so that they are
(`split?_redeemScript`). A height between is written as its bare byte, which is itself a direct
push : it takes as many of the following bytes as it says, the lock among them, and the script is
read otherwise or not at all (`split?_redeemScript_bare`). `split?_redeemScript_eq_template_iff`
says both of every height.
-/

namespace LiquidityClient

open Instruction Opcode Secp256k1

/-! ## Lock heights -/

namespace ScriptItem

/-- Is the height written as its bare byte? -/
def BareHeight (height : Nat) : Prop :=
  16 < height ∧ height ≤ 0x4b

instance (height : Nat) : Decidable (BareHeight height) :=
  inferInstanceAs (Decidable (_ ∧ _))

/-- The operand that spells a lock height. -/
def lockOperand (height : Nat) : Bytes :=
  if height ≤ 0x7f then [UInt8.ofNat height]
  else [UInt8.ofNat (height % 256), UInt8.ofNat (height / 256)]

theorem encode_lockHeight_eq_ok {height : UInt32} {bytes : Bytes} :
    (lockHeight height).encode = .ok bytes ↔
      (minLockHeight ≤ height.toNat ∧ height.toNat ≤ maxLockHeight) ∧
        lockHeightBytes height.toNat = bytes := by
  rw [encode]
  split_ifs with h <;> simp [h]

/-- The operand spells the height. -/
theorem ofBytes?_lockOperand {height : Nat} (h : height ≤ maxLockHeight) :
    ScriptNumber.ofBytes? 5 (lockOperand height) = some (height : Int) := by
  unfold maxLockHeight at h
  unfold lockOperand
  split_ifs with hshort
  · have htop : (UInt8.ofNat height).toNat = height :=
      UInt8.toNat_ofNat_of_lt (Nat.lt_of_le_of_lt hshort (by decide))
    have hlength : ([] : Bytes).length < 5 := by decide
    have hvalue : Bytes.toNatLE [UInt8.ofNat height] = height := by
      rw [Bytes.toNatLE, Bytes.toNatLE, htop]
      rfl
    have hnumber := ScriptNumber.ofBytes?_concat (htop.trans_lt (Nat.lt_succ_of_le hshort)) hlength
    rwa [List.nil_append, hvalue] at hnumber
  · have hlow : (UInt8.ofNat (height % 256)).toNat = height % 256 :=
      UInt8.toNat_ofNat_of_lt (Nat.mod_lt _ (by decide))
    have hhigh : (UInt8.ofNat (height / 256)).toNat = height / 256 :=
      UInt8.toNat_ofNat_of_lt (by omega : height / 256 < 256)
    have hlength : [UInt8.ofNat (height % 256)].length < 5 := by simp
    have hvalue :
        Bytes.toNatLE [UInt8.ofNat (height % 256), UInt8.ofNat (height / 256)] = height := by
      rw [Bytes.toNatLE, Bytes.toNatLE, Bytes.toNatLE, hlow, hhigh]
      omega
    have hnumber := ScriptNumber.ofBytes?_concat (hhigh.trans_lt (by omega)) hlength
    rwa [List.singleton_append, hvalue] at hnumber

/-- A height that is not written as its bare byte is read as the push of its operand. -/
theorem readAs_lockHeight {height : UInt32} (h : ¬BareHeight height.toNat) :
    (lockHeight height).ReadAs (.push (lockOperand height.toNat)) := by
  intro bytes hbytes rest
  obtain ⟨⟨hmin, hmax⟩, rfl⟩ := encode_lockHeight_eq_ok.1 hbytes
  generalize height.toNat = n at *
  unfold BareHeight at h
  by_cases hsmall : n ≤ 16
  · rw [lockHeightBytes, if_pos hsmall, lockOperand, if_pos (by omega)]
    exact split?_small (by unfold minLockHeight at hmin; omega) hsmall rest
  rw [lockHeightBytes, if_neg hsmall, if_neg (by omega), lockOperand]
  split_ifs
  · have hlength : [UInt8.ofNat n].length ≤ 75 := by simp
    exact split?_push hlength rest
  · have hlength : [UInt8.ofNat (n % 256), UInt8.ofNat (n / 256)].length ≤ 75 := by simp
    exact split?_push hlength rest

/-- A bare height is read as the push of as many of the bytes that follow it. -/
theorem split?_bareHeight {height : Nat} (h : BareHeight height) (rest : Bytes) :
    split? (lockHeightBytes height ++ rest) =
      (take? height rest).bind fun (instruction, rest) => (split? rest).map (instruction :: ·) := by
  obtain ⟨hlow, hhigh⟩ := h
  have hcode : (UInt8.ofNat height).toNat = height :=
    UInt8.toNat_ofNat_of_lt (Nat.lt_of_le_of_lt hhigh (by decide))
  rw [lockHeightBytes, if_neg (Nat.not_le_of_lt hlow), if_pos hhigh, List.singleton_append,
    split?_cons, next?, hcode, if_pos hhigh]

end ScriptItem

/-! ## Redeem scripts -/

namespace SwapParameters

open ScriptItem

/-- The instructions before the branches : they compare the hash of the top element, and branch. -/
def hashCheck (p : SwapParameters) : List Instruction :=
  [.op opSha256, .push p.paymentHash, .op opEqual, .op opIf]

/-- The instructions after the operand of the lock. -/
def lockCheck (p : SwapParameters) : List Instruction :=
  [.op opCheckSequenceVerify, .op opDrop, .push p.refundKey.compressed, .op opEndIf, .op opCheckSig]

/-- The instructions of a redeem script with this operand of the lock. -/
def template (p : SwapParameters) (operand : Bytes) : List Instruction :=
  p.hashCheck ++ [.push p.htlcKey.compressed, .op opElse, .push operand] ++ p.lockCheck

/-- The items in front of the lock height. -/
def front (p : SwapParameters) : List ScriptItem :=
  [.op opSha256, .push p.paymentHash, .op opEqual, .op opIf, .push p.htlcKey.compressed, .op opElse]

/-- The items behind the lock height. -/
def back (p : SwapParameters) : List ScriptItem :=
  [.op opCheckSequenceVerify, .op opDrop, .push p.refundKey.compressed, .op opEndIf, .op opCheckSig]

variable {p : SwapParameters} {script : Bytes}

theorem readAs_front (p : SwapParameters) :
    List.Forall₂ ReadAs p.front (p.hashCheck ++ [.push p.htlcKey.compressed, .op opElse]) :=
  .cons (readAs_op (by decide)) <| .cons (readAs_push _) <| .cons (readAs_op (by decide)) <|
    .cons (readAs_op (by decide)) <| .cons (readAs_push _) <| .cons (readAs_op (by decide)) .nil

theorem readAs_back (p : SwapParameters) : List.Forall₂ ReadAs p.back p.lockCheck :=
  .cons (readAs_op (by decide)) <| .cons (readAs_op (by decide)) <| .cons (readAs_push _) <|
    .cons (readAs_op (by decide)) <| .cons (readAs_op (by decide)) .nil

theorem redeemScript_eq_ok :
    p.redeemScript = .ok script ↔ ∃ front lock back, assemble p.front = .ok front ∧
      (lockHeight p.csvHeight).encode = .ok lock ∧ assemble p.back = .ok back ∧
      script = front ++ (lock ++ back) := by
  change assemble (p.front ++ .lockHeight p.csvHeight :: p.back) = .ok script ↔ _
  rw [assemble_append_eq_ok]
  constructor
  · rintro ⟨front, _, hfront, hrest, rfl⟩
    obtain ⟨lock, back, hlock, hback, rfl⟩ := assemble_cons_eq_ok.1 hrest
    exact ⟨front, lock, back, hfront, hlock, hback, rfl⟩
  · rintro ⟨front, lock, back, hfront, hlock, hback, rfl⟩
    exact ⟨front, _, hfront, assemble_cons_eq_ok.2 ⟨lock, back, hlock, hback, rfl⟩, rfl⟩

theorem encode_of_mem_front (hhash : p.paymentHash.length = 32) :
    ∀ item ∈ p.front, ∃ bytes, item.encode = .ok bytes := by
  have hpush : p.paymentHash.length ≤ maxPush := by rw [hhash]; decide
  have hkey : p.htlcKey.compressed.length ≤ maxPush := by rw [p.htlcKey.length_compressed]; decide
  simp [front, exists_encode_op, exists_encode_push hpush, exists_encode_push hkey]

theorem encode_of_mem_back (p : SwapParameters) :
    ∀ item ∈ p.back, ∃ bytes, item.encode = .ok bytes := by
  have hkey : p.refundKey.compressed.length ≤ maxPush := by
    rw [p.refundKey.length_compressed]; decide
  simp [back, exists_encode_op, exists_encode_push hkey]

/-- There is a script for every height in range. -/
theorem exists_redeemScript (hhash : p.paymentHash.length = 32)
    (hheight : minLockHeight ≤ p.csvHeight.toNat ∧ p.csvHeight.toNat ≤ maxLockHeight) :
    ∃ script, p.redeemScript = .ok script := by
  obtain ⟨front, hfront⟩ := exists_assemble_eq_ok (encode_of_mem_front hhash)
  obtain ⟨back, hback⟩ := exists_assemble_eq_ok p.encode_of_mem_back
  exact ⟨_, redeemScript_eq_ok.2
    ⟨front, _, back, hfront, encode_lockHeight_eq_ok.2 ⟨hheight, rfl⟩, hback, rfl⟩⟩

/-- There is none for a height out of range. -/
theorem redeemScript_eq_error (hhash : p.paymentHash.length = 32)
    (hheight : ¬(minLockHeight ≤ p.csvHeight.toNat ∧ p.csvHeight.toNat ≤ maxLockHeight)) :
    p.redeemScript = .error (.invalidCsvHeight p.csvHeight) := by
  change assemble (p.front ++ .lockHeight p.csvHeight :: p.back) = _
  exact assemble_append_cons_error (encode_of_mem_front hhash) (if_neg hheight)

/-- A script whose height is not a bare byte is read as the template with the height as operand. -/
theorem split?_redeemScript (h : p.redeemScript = .ok script)
    (hheight : ¬BareHeight p.csvHeight.toNat) :
    split? script = some (p.template (lockOperand p.csvHeight.toNat)) := by
  obtain ⟨front, lock, back, hfront, hlock, hback, rfl⟩ := redeemScript_eq_ok.1 h
  have hend : split? back = some p.lockCheck := by
    have hread := split?_assemble p.readAs_back hback []
    rwa [List.append_nil, split?, Option.map_some, List.append_nil] at hread
  rw [split?_assemble p.readAs_front hfront, readAs_lockHeight hheight lock hlock, hend]
  simp [template]

/-- A script whose height is a bare byte is read with a push of what follows the byte. -/
theorem split?_redeemScript_bare (h : p.redeemScript = .ok script)
    (hheight : BareHeight p.csvHeight.toNat) :
    ∃ back, assemble p.back = .ok back ∧ split? script =
      ((take? p.csvHeight.toNat back).bind fun (instruction, rest) =>
        (split? rest).map (instruction :: ·)).map
          (p.hashCheck ++ [.push p.htlcKey.compressed, .op opElse] ++ ·) := by
  obtain ⟨front, lock, back, hfront, hlock, hback, rfl⟩ := redeemScript_eq_ok.1 h
  obtain ⟨-, rfl⟩ := encode_lockHeight_eq_ok.1 hlock
  refine ⟨back, hback, ?_⟩
  rw [split?_assemble p.readAs_front hfront, split?_bareHeight hheight]

/-- The template is not read in a script whose height is a bare byte, unless with a longer operand
than any number has. -/
theorem length_operand_of_bare (h : p.redeemScript = .ok script)
    (hheight : BareHeight p.csvHeight.toNat) {operand : Bytes}
    (hread : split? script = some (p.template operand)) : 16 < operand.length := by
  obtain ⟨back, -, hsplit⟩ := split?_redeemScript_bare h hheight
  rw [hread] at hsplit
  obtain ⟨_, hrest, htemplate⟩ := Option.map_eq_some_iff.1 hsplit.symm
  obtain ⟨⟨instruction, rest⟩, htake, hmap⟩ := Option.bind_eq_some_iff.1 hrest
  obtain ⟨instructions, -, rfl⟩ := Option.map_eq_some_iff.1 hmap
  obtain ⟨rfl, -⟩ : instruction = .push operand ∧ instructions = p.lockCheck := by
    simpa [template, hashCheck] using htemplate
  obtain ⟨hlength, heq⟩ := Option.ite_none_right_eq_some.1 htake
  obtain ⟨rfl, -⟩ : back.take p.csvHeight.toNat = operand ∧ _ := by simpa using heq
  rw [List.length_take_of_le hlength]
  exact hheight.1

/-- A redeem script is read as the template, with an operand that spells the lock height, exactly
for the heights that are not written as their bare byte; and there is a script for every height in
range. -/
theorem split?_redeemScript_eq_template_iff (p : SwapParameters)
    (hhash : p.paymentHash.length = 32) :
    if minLockHeight ≤ p.csvHeight.toNat ∧ p.csvHeight.toNat ≤ maxLockHeight then
      ∃ script, p.redeemScript = .ok script ∧
        ((∃ operand, ScriptNumber.ofBytes? 5 operand = some (p.csvHeight.toNat : Int) ∧
            split? script = some (p.template operand)) ↔
          ¬(17 ≤ p.csvHeight.toNat ∧ p.csvHeight.toNat ≤ 0x4b))
    else p.redeemScript = .error (.invalidCsvHeight p.csvHeight) := by
  split_ifs with hheight
  · obtain ⟨script, hscript⟩ := exists_redeemScript hhash hheight
    refine ⟨script, hscript, fun ⟨operand, hnumber, hread⟩ hbare => ?_, fun hbare => ?_⟩
    · have hlong := length_operand_of_bare hscript hbare hread
      have hshort := (Option.ite_none_right_eq_some.1 hnumber).1
      omega
    · exact ⟨_, ofBytes?_lockOperand hheight.2, split?_redeemScript hscript hbare⟩
  · exact redeemScript_eq_error hhash hheight

/-- The default lock of 144 blocks is read as it should. -/
theorem split?_redeemScript_default :
    let p : SwapParameters := ⟨Bytes.repeated 32 7, ⟨generator⟩, ⟨generator⟩, 144⟩
    p.paymentHash.length = 32 ∧ ∃ script, p.redeemScript = .ok script ∧
      ∃ operand, ScriptNumber.ofBytes? 5 operand = some 144 ∧
        split? script = some (p.template operand) := by
  intro p
  have hhash : p.paymentHash.length = 32 := by decide
  have hread := split?_redeemScript_eq_template_iff p hhash
  rw [if_pos (by decide)] at hread
  obtain ⟨script, hscript, hiff⟩ := hread
  exact ⟨hhash, script, hscript, hiff.2 (by decide)⟩

/-- A lock of 17 blocks is not. -/
theorem not_split?_redeemScript_seventeen :
    let p : SwapParameters := ⟨Bytes.repeated 32 7, ⟨generator⟩, ⟨generator⟩, 17⟩
    ∃ script, p.redeemScript = .ok script ∧
      ¬∃ operand, ScriptNumber.ofBytes? 5 operand = some 17 ∧
        split? script = some (p.template operand) := by
  intro p
  have hhash : p.paymentHash.length = 32 := by decide
  obtain ⟨script, hscript⟩ := exists_redeemScript hhash (by decide)
  refine ⟨script, hscript, fun ⟨operand, hnumber, hread⟩ => ?_⟩
  have hlong := length_operand_of_bare hscript (by decide) hread
  have hshort := (Option.ite_none_right_eq_some.1 hnumber).1
  omega

end SwapParameters

end LiquidityClient
