import LiquidityClient.Proofs.RedeemScript
import LiquidityClient.Proofs.Script.Evaluation

/-!
# Who can spend a swap

A redeem script accepts two elements only, a signature and the one that selects the branch : a
preimage of the payment hash asks for a signature with the claim key, anything else for one with the
refund key and for a lock that has passed. Each part of the script is followed over every stack
(`run?_hashCheck_eq_some`, `run?_claim_eq_some`, `run?_refund_eq_some`), so that
`redeemScript_accepts_iff` speaks of every witness and of every transaction.
-/

namespace LiquidityClient

open Instruction Opcode ScriptItem ScriptState Secp256k1

/-! ## The lock -/

namespace RelativeLock

/-- The sequence locks an input for at least this many blocks, and locks count in the
transaction. -/
structure LocksFor (context : SpendContext) (blocks : Nat) : Prop where
  version_le : 2 ≤ context.version.toNat
  enabled : isDisabled context.sequence.toNat = false
  blockBased : isTimeBased context.sequence.toNat = false
  blocks_le : blocks ≤ length context.sequence.toNat

/-- The check of a lock height passes exactly if the sequence locks the input for as many blocks. -/
theorem passes_lockOperand_iff {context : SpendContext} {height : Nat}
    (h : height ≤ maxLockHeight) :
    passes context (lockOperand height) = true ↔ LocksFor context height := by
  have hnumber := ofBytes?_lockOperand h
  unfold maxLockHeight at h
  have hdisabled : isDisabled height = false := Nat.testBit_lt_two_pow (by omega)
  have hblocks : isTimeBased height = false := Nat.testBit_lt_two_pow (by omega)
  have hlength : length height = height := Nat.mod_eq_of_lt (by omega)
  rw [passes, hnumber]
  simp only [Int.toNat_natCast, hdisabled, implies, hblocks, hlength]
  constructor
  · intro hpasses
    simp only [Bool.and_eq_true, Bool.or_eq_true, decide_eq_true_eq, beq_iff_eq,
      Bool.not_eq_true'] at hpasses
    obtain ⟨-, hfalse | ⟨⟨⟨hversion, henabled⟩, hbased⟩, hle⟩⟩ := hpasses
    · cases hfalse
    · exact ⟨hversion, henabled, hbased.symm, hle⟩
  · rintro ⟨hversion, henabled, hbased, hle⟩
    simp [hversion, henabled, hbased, hle]

end RelativeLock

/-! ## The parts of a redeem script -/

namespace SwapParameters

variable {p : SwapParameters} {context : SpendContext} {stack : List Bytes} {final : ScriptState}
  {rest : List Instruction}

/-- The hash check takes the top element, and opens the branch that its hash selects. -/
theorem run?_hashCheck_eq_some (hhash : p.paymentHash.length = 32) {element : Bytes} :
    run? context (p.hashCheck ++ rest) ⟨element :: stack, [], 0⟩ = some final ↔
      stack.length + 2 ≤ maxStackLength ∧
        run? context rest ⟨stack, [p.paymentHash = Sha256.hash element], 3⟩ = some final := by
  have hpush : p.paymentHash.length ≤ maxElementLength := by rw [hhash]; decide
  simp only [hashCheck, List.cons_append, List.nil_append]
  rw [run?_step (advance?_sha256 (by decide) rfl), run?_step (advance?_push hpush rfl),
    run?_step (advance?_equal (by decide) rfl), run?_step (advance?_if (by decide) rfl),
    isTrue_ofBool]
  simp only [List.length_cons]
  constructor
  · rintro ⟨-, hstack, -, -, hrun⟩
    exact ⟨hstack, hrun⟩
  · rintro ⟨hstack, hrun⟩
    exact ⟨by omega, hstack, by omega, by omega, hrun⟩

theorem length_compressed_le (key : PublicKey) : key.compressed.length ≤ maxElementLength := by
  rw [key.length_compressed]
  decide

/-- The branch with the preimage puts the claim key on top. -/
theorem run?_claim_eq_some {operand : Bytes} (hoperand : operand.length ≤ maxElementLength) :
    run? context ([.push p.htlcKey.compressed, .op opElse, .push operand] ++ p.lockCheck)
        ⟨stack, [true], 3⟩ = some final ↔
      stack.length + 1 ≤ maxStackLength ∧
        run? context [.op opCheckSig] ⟨p.htlcKey.compressed :: stack, [], 7⟩ = some final := by
  have hskip : (opCheckSequenceVerify ∈ stackOperations) ∧ opDrop ∈ stackOperations := by decide
  simp only [lockCheck, List.cons_append, List.nil_append]
  rw [run?_step (advance?_push (length_compressed_le _) rfl), run?_step (advance?_else (by decide)),
    run?_step (advance?_push_skip hoperand rfl),
    run?_step (advance?_execute_skip (by decide) hskip.1 rfl),
    run?_step (advance?_execute_skip (by decide) hskip.2 rfl),
    run?_step (advance?_push_skip (length_compressed_le _) rfl),
    run?_step (advance?_endIf (by decide))]
  simp only [List.length_cons, and_self_left]

/-- The other branch checks the lock, and puts the refund key on top. -/
theorem run?_refund_eq_some {operand : Bytes} (hoperand : operand.length ≤ maxElementLength) :
    run? context ([.push p.htlcKey.compressed, .op opElse, .push operand] ++ p.lockCheck)
        ⟨stack, [false], 3⟩ = some final ↔
      RelativeLock.passes context operand = true ∧ stack.length + 1 ≤ maxStackLength ∧
        run? context [.op opCheckSig] ⟨p.refundKey.compressed :: stack, [], 7⟩ = some final := by
  simp only [lockCheck, List.cons_append, List.nil_append]
  rw [run?_step (advance?_push_skip (length_compressed_le _) rfl),
    run?_step (advance?_else (by decide)), run?_step (advance?_push hoperand rfl),
    run?_cons_eq_some, advance?_checkSequenceVerify (by decide) rfl]
  constructor
  · rintro ⟨-, -, hstack, next, hlock, -, hrun⟩
    obtain ⟨hpasses, hnext⟩ := Option.ite_none_right_eq_some.1 hlock
    obtain rfl := Option.some.inj hnext
    rw [run?_step (advance?_drop (by decide) rfl),
      run?_step (advance?_push (length_compressed_le _) rfl),
      run?_step (advance?_endIf (by decide))] at hrun
    exact ⟨hpasses, hstack, hrun.2.2.2⟩
  · rintro ⟨hpasses, hstack, hrun⟩
    refine ⟨Nat.le_of_succ_le hstack, Nat.le_of_succ_le hstack, hstack, _, if_pos hpasses, hstack,
      ?_⟩
    rw [run?_step (advance?_drop (by decide) rfl),
      run?_step (advance?_push (length_compressed_le _) rfl),
      run?_step (advance?_endIf (by decide))]
    exact ⟨Nat.le_of_succ_le hstack, hstack, hstack, hrun⟩

/-- Either branch leaves its key on top, the one without the preimage only if the lock has
passed. -/
theorem run?_branch_eq_some {operand : Bytes} (hoperand : operand.length ≤ maxElementLength)
    {claims : Bool} :
    run? context ([.push p.htlcKey.compressed, .op opElse, .push operand] ++ p.lockCheck)
        ⟨stack, [claims], 3⟩ = some final ↔
      (claims ∨ RelativeLock.passes context operand) ∧ stack.length + 1 ≤ maxStackLength ∧
        run? context [.op opCheckSig]
          ⟨(if claims then p.htlcKey else p.refundKey).compressed :: stack, [], 7⟩ =
            some final := by
  cases claims with
  | true =>
    rw [run?_claim_eq_some hoperand]
    simp
  | false =>
    rw [run?_refund_eq_some hoperand]
    simp

/-- A check of a signature under a key leaves one true element exactly if there is nothing but a
signature, and it holds. -/
theorem exists_run?_checkSig_iff {key : Bytes} {n : Nat} (hn : n < maxOperations) :
    (∃ final, run? context [.op opCheckSig] ⟨key :: stack, [], n⟩ = some final ∧
        isAccepting final = true) ↔
      ∃ signature, stack = [signature] ∧ context.checkSignature key signature = some true := by
  constructor
  · rintro ⟨final, hrun, haccepting⟩
    obtain ⟨next, hnext, -, hend⟩ := run?_cons_eq_some.1 hrun
    obtain rfl := run?_nil_eq_some.1 hend
    rcases stack with _ | ⟨signature, stack⟩
    · rw [advance?_execute hn (by decide) rfl] at hnext
      cases hnext
    -- What is left under the signature stays on the stack, which accepts one element only.
    · rw [advance?_checkSig hn rfl] at hnext
      obtain ⟨holds, hcheck, rfl⟩ := Option.map_eq_some_iff.1 hnext
      rcases stack with _ | ⟨_, _⟩
      · refine ⟨signature, rfl, ?_⟩
        rw [isAccepting, isTrue_ofBool] at haccepting
        rw [hcheck, haccepting]
      · cases haccepting
  · rintro ⟨signature, rfl, hcheck⟩
    refine ⟨⟨[ofBool true], [], n + 1⟩, ?_, rfl⟩
    rw [run?_cons_eq_some, advance?_checkSig hn rfl, hcheck]
    exact ⟨_, rfl, by simp [maxStackLength], rfl⟩

/-! ## Every witness -/

theorem length_redeemScript_le {script : Bytes} (h : p.redeemScript = .ok script) :
    script.length ≤ maxScriptLength :=
  (length_assemble_le h).trans (by simp [items, maxPush, maxScriptLength])

theorem length_lockOperand_le (height : Nat) : (lockOperand height).length ≤ maxElementLength := by
  unfold lockOperand
  split_ifs <;> simp [maxElementLength]

/-- A signature and the element that selects the branch satisfy the spending conditions of a
swap. -/
def Satisfies (p : SwapParameters) (context : SpendContext) (signature element : Bytes) : Prop :=
  Sha256.hash element = p.paymentHash ∧
      context.checkSignature p.htlcKey.compressed signature = some true ∨
    Sha256.hash element ≠ p.paymentHash ∧
      context.checkSignature p.refundKey.compressed signature = some true ∧
      RelativeLock.LocksFor context p.csvHeight.toNat

theorem satisfies_iff {signature element : Bytes} {claims : Bool}
    (hclaims : decide (p.paymentHash = Sha256.hash element) = claims) :
    p.Satisfies context signature element ↔
      (claims ∨ RelativeLock.LocksFor context p.csvHeight.toNat) ∧
        context.checkSignature (if claims then p.htlcKey else p.refundKey).compressed signature =
          some true := by
  subst hclaims
  unfold Satisfies
  by_cases hhash : p.paymentHash = Sha256.hash element
  · simp [hhash]
  · simp [hhash, Ne.symm hhash, and_comm]

/-- The instructions of a redeem script accept a stack of two elements that satisfies the
conditions, and no other. -/
theorem exists_run?_template_iff (hhash : p.paymentHash.length = 32)
    (hheight : p.csvHeight.toNat ≤ maxLockHeight) :
    (∃ final, run? context (p.template (lockOperand p.csvHeight.toNat))
      ⟨stack, [], 0⟩ = some final ∧
        isAccepting final = true) ↔
      ∃ element signature, stack = [element, signature] ∧
        p.Satisfies context signature element := by
  rw [template, List.append_assoc]
  constructor
  · rintro ⟨final, hrun, haccepting⟩
    rcases stack with _ | ⟨element, stack⟩
    · obtain ⟨next, hnext, -⟩ := run?_cons_eq_some.1 hrun
      rw [advance?_execute (by decide) (by decide) rfl] at hnext
      cases hnext
    · obtain ⟨-, hbranch⟩ := (run?_hashCheck_eq_some hhash).1 hrun
      obtain ⟨hlock, -, hsign⟩ := (run?_branch_eq_some (length_lockOperand_le _)).1 hbranch
      obtain ⟨signature, rfl, hcheck⟩ :=
        (exists_run?_checkSig_iff (by decide)).1 ⟨final, hsign, haccepting⟩
      rw [RelativeLock.passes_lockOperand_iff hheight] at hlock
      exact ⟨element, signature, rfl, (satisfies_iff rfl).2 ⟨hlock, hcheck⟩⟩
  · rintro ⟨element, signature, rfl, hsatisfies⟩
    obtain ⟨hlock, hcheck⟩ := (satisfies_iff rfl).1 hsatisfies
    obtain ⟨final, hsign, haccepting⟩ :=
      (exists_run?_checkSig_iff (n := 7) (by decide)).2 ⟨signature, rfl, hcheck⟩
    rw [← RelativeLock.passes_lockOperand_iff hheight] at hlock
    refine ⟨final, (run?_hashCheck_eq_some hhash).2 ⟨by simp [maxStackLength], ?_⟩, haccepting⟩
    exact (run?_branch_eq_some (length_lockOperand_le _)).2 ⟨hlock, by simp [maxStackLength], hsign⟩

/-- A redeem script accepts the elements that satisfy the conditions, and no others. -/
theorem accepts_iff_satisfies (hhash : p.paymentHash.length = 32) {script : Bytes}
    (hscript : p.redeemScript = .ok script) (hheight : ¬BareHeight p.csvHeight.toNat)
    {elements : List Bytes} (helements : ∀ e ∈ elements, e.length ≤ maxElementLength) :
    accepts context script elements = true ↔
      ∃ signature element, elements = [signature, element] ∧
        p.Satisfies context signature element := by
  obtain ⟨_, lock, _, -, hlock, -, -⟩ := redeemScript_eq_ok.1 hscript
  have hmax := (encode_lockHeight_eq_ok.1 hlock).1.2
  rw [accepts_iff (split?_redeemScript hscript hheight), exists_run?_template_iff hhash hmax]
  constructor
  · rintro ⟨-, -, element, signature, hstack, hsatisfies⟩
    exact ⟨signature, element, List.reverse_eq_iff.1 hstack, hsatisfies⟩
  · rintro ⟨signature, element, rfl, hsatisfies⟩
    exact ⟨length_redeemScript_le hscript, helements, element, signature, rfl, hsatisfies⟩

/-- The fourth instruction opens the branch that the hash selects. -/
theorem branchesAfter?_hashCheck (hhash : p.paymentHash.length = 32) {script : Bytes}
    (hscript : p.redeemScript = .ok script) (hheight : ¬BareHeight p.csvHeight.toNat)
    (signature element : Bytes) :
    branchesAfter? context 4 script [signature, element] =
      some [decide (p.paymentHash = Sha256.hash element)] := by
  have hrun : run? context (p.hashCheck ++ []) ⟨[element, signature], [], 0⟩ =
      some ⟨[signature], [p.paymentHash = Sha256.hash element], 3⟩ :=
    (run?_hashCheck_eq_some hhash).2 ⟨by simp [maxStackLength], rfl⟩
  rw [branchesAfter?, split?_redeemScript hscript hheight, Option.bind_some]
  change Option.map branches (run? context p.hashCheck ⟨[element, signature], [], 0⟩) = _
  rw [List.append_nil] at hrun
  rw [hrun]
  rfl

/-- For every lock height in range that is not a bare byte there is a redeem script, and of the
witnesses in whatever transaction it accepts exactly a signature with an element that is either a
preimage of the hash, the signature holding under the claim key, or is none, the signature holding
under the refund key and the input being locked for as many blocks. -/
theorem redeemScript_accepts_iff (p : SwapParameters) (hhash : p.paymentHash.length = 32)
    (hheight : 2 ≤ p.csvHeight.toNat ∧ p.csvHeight.toNat ≤ 16 ∨
      0x4c ≤ p.csvHeight.toNat ∧ p.csvHeight.toNat ≤ 0x7fff) :
    ∃ script, p.redeemScript = .ok script ∧
      ∀ (context : SpendContext) (elements : List Bytes), (∀ e ∈ elements, e.length ≤ 520) →
        (accepts context script elements = true ↔
          ∃ signature element, elements = [signature, element] ∧
            (Sha256.hash element = p.paymentHash ∧
                context.checkSignature p.htlcKey.compressed signature = some true ∨
              Sha256.hash element ≠ p.paymentHash ∧
                context.checkSignature p.refundKey.compressed signature = some true ∧
                RelativeLock.LocksFor context p.csvHeight.toNat)) := by
  have hrange : minLockHeight ≤ p.csvHeight.toNat ∧ p.csvHeight.toNat ≤ maxLockHeight := by
    unfold minLockHeight maxLockHeight
    omega
  have hbare : ¬BareHeight p.csvHeight.toNat := by
    unfold BareHeight
    omega
  obtain ⟨script, hscript⟩ := exists_redeemScript hhash hrange
  exact ⟨script, hscript, fun context elements helements =>
    accepts_iff_satisfies hhash hscript hbare helements⟩

set_option maxRecDepth 100000 in
/-- A signature with nothing else spends a swap after its lock of 144 blocks. -/
theorem redeemScript_accepts_default :
    let p : SwapParameters := ⟨Bytes.repeated 32 7, ⟨generator⟩, ⟨generator⟩, 144⟩
    let context : SpendContext := ⟨2, 144, fun _ signature => some (signature = [9])⟩
    p.paymentHash.length = 32 ∧ ∃ script, p.redeemScript = .ok script ∧
      accepts context script [[9], []] = true := by
  intro p context
  have hhash : p.paymentHash.length = 32 := by decide
  have hempty : Sha256.hash [] ≠ p.paymentHash := by decide +kernel
  have hlock : RelativeLock.LocksFor context p.csvHeight.toNat :=
    ⟨by decide, by decide, by decide, by decide⟩
  obtain ⟨script, hscript, haccepts⟩ := redeemScript_accepts_iff p hhash (by decide)
  refine ⟨hhash, script, hscript, (haccepts context _ (by decide)).2 ⟨[9], [], rfl, ?_⟩⟩
  exact Or.inr ⟨hempty, rfl, hlock⟩

end SwapParameters

end LiquidityClient
