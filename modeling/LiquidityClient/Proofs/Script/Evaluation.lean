import LiquidityClient.Hash.Sha256
import LiquidityClient.Proofs.Script.Instruction

/-!
# Evaluation of witness scripts

A witness script is evaluated by the consensus rules for version 0 : instruction by instruction on a
stack, with a list of the branches that are open, and within the limits on pushes, operations, the
stack and the script. It accepts if no instruction fails, no branch is left open, and the one
element left is true. Relative locks follow BIP 112. How a signature is checked is part of the
context, so that nothing here depends on it.

Of the operations only those are evaluated that redeem scripts use; every other one fails.
-/

namespace LiquidityClient

open Opcode

/-- What evaluation reads of the input whose witness it is, and of its transaction. -/
structure SpendContext where
  /-- The version of the transaction. -/
  version : UInt32
  /-- The sequence of the input. -/
  sequence : UInt32
  /-- Does a signature hold under a key, both as they are spelled, the key first? Evaluation fails
  if there is no answer, which is so for a signature that is not well-formed. -/
  checkSignature : Bytes → Bytes → Option Bool

/-! ## Relative locks -/

namespace RelativeLock

/-- Is there no lock, by bit 31? -/
def isDisabled (sequence : Nat) : Bool :=
  sequence.testBit 31

/-- Is the lock counted in units of time, by bit 22? -/
def isTimeBased (sequence : Nat) : Bool :=
  sequence.testBit 22

/-- The length of the lock, in the low 16 bits. -/
def length (sequence : Nat) : Nat :=
  sequence % 0x10000

/-- Does the lock of an input, of a transaction with this version, imply the lock of an operand? -/
def implies (context : SpendContext) (operand : Nat) : Bool :=
  2 ≤ context.version.toNat && !isDisabled context.sequence.toNat
    && isTimeBased operand == isTimeBased context.sequence.toNat
    && length operand ≤ length context.sequence.toNat

/-- Does the check of an operand pass? -/
def passes (context : SpendContext) (operand : Bytes) : Bool :=
  match ScriptNumber.ofBytes? 5 operand with
  | none => false
  | some number => 0 ≤ number && (isDisabled number.toNat || implies context number.toNat)

end RelativeLock

/-! ## The state -/

/-- The state of an evaluation. -/
structure ScriptState where
  /-- The elements, top first. -/
  stack : List Bytes
  /-- The open branches, innermost first : is it the one the condition takes? -/
  branches : List Bool
  /-- The number of operations so far. -/
  operations : Nat
  deriving DecidableEq, Repr

namespace ScriptState

/-- Are the instructions of the innermost branch executed? -/
def isTaken (state : ScriptState) : Bool :=
  state.branches.all id

/-- The element that stands for a truth value. -/
def ofBool (b : Bool) : Bytes :=
  if b then [1] else []

/-- Opens a branch, taken if the top element is true; what is opened in a branch that is not taken
is not taken either, and reads no condition. -/
def openBranch? (state : ScriptState) : Option ScriptState :=
  if state.isTaken then
    match state.stack with
    | [] => none
    | condition :: rest =>
      some { state with stack := rest, branches := ScriptNumber.isTrue condition :: state.branches }
  else some { state with branches := false :: state.branches }

/-- Goes on with the other branch. -/
def switchBranch? (state : ScriptState) : Option ScriptState :=
  match state.branches with
  | [] => none
  | taken :: outer => some { state with branches := (!taken) :: outer }

/-- Ends a branch. -/
def closeBranch? (state : ScriptState) : Option ScriptState :=
  match state.branches with
  | [] => none
  | _ :: outer => some { state with branches := outer }

/-- The stack after an operation that is executed. -/
def execute? (context : SpendContext) (code : UInt8) (stack : List Bytes) : Option (List Bytes) :=
  if code = opDrop then
    match stack with
    | _ :: rest => some rest
    | _ => none
  else if code = opEqual then
    match stack with
    | a :: b :: rest => some (ofBool (a = b) :: rest)
    | _ => none
  else if code = opSha256 then
    match stack with
    | element :: rest => some (Sha256.hash element :: rest)
    | _ => none
  else if code = opCheckSig then
    match stack with
    | key :: signature :: rest =>
      (context.checkSignature key signature).map fun holds => ofBool holds :: rest
    | _ => none
  else if code = opCheckSequenceVerify then
    match stack with
    | operand :: rest =>
      if RelativeLock.passes context operand then some (operand :: rest) else none
    | _ => none
  else none

/-- The operations on the stack. -/
def stackOperations : List UInt8 :=
  [opDrop, opEqual, opSha256, opCheckSig, opCheckSequenceVerify]

/-- The longest element of the stack. -/
def maxElementLength : Nat := 520

/-- The most operations of a script. -/
def maxOperations : Nat := 201

/-- The most elements on the stack. -/
def maxStackLength : Nat := 1000

/-- The longest script. -/
def maxScriptLength : Nat := 10000

/-- The state after an operation, which counts also in a branch that is not taken. -/
def operate? (context : SpendContext) (code : UInt8) (state : ScriptState) : Option ScriptState :=
  if code = opIf then state.openBranch?
  else if code = opElse then state.switchBranch?
  else if code = opEndIf then state.closeBranch?
  else if state.isTaken then
    (execute? context code state.stack).map fun stack => { state with stack }
  else if code ∈ stackOperations then some state
  else none

/-- The state after an instruction, whatever the length of the stack. -/
def advance? (context : SpendContext) (state : ScriptState) : Instruction → Option ScriptState
  | .push data =>
    if maxElementLength < data.length then none
    else if state.isTaken then some { state with stack := data :: state.stack }
    else some state
  | .op code =>
    if maxOperations ≤ state.operations then none
    else operate? context code { state with operations := state.operations + 1 }

/-- The state after an instruction. -/
def step? (context : SpendContext) (state : ScriptState) (instruction : Instruction) :
    Option ScriptState :=
  (advance? context state instruction).filter fun next => next.stack.length ≤ maxStackLength

/-- The state after some instructions. -/
def run? (context : SpendContext) (instructions : List Instruction) (state : ScriptState) :
    Option ScriptState :=
  instructions.foldlM (step? context) state

/-- Is there one element, which is true, and no open branch? -/
def isAccepting : ScriptState → Bool
  | ⟨[element], [], _⟩ => ScriptNumber.isTrue element
  | _ => false

/-- Is a witness script satisfied by the elements in front of it in the witness, of which the last
one is the top of the stack? -/
def accepts (context : SpendContext) (script : Bytes) (elements : List Bytes) : Bool :=
  script.length ≤ maxScriptLength && elements.all (fun e => e.length ≤ maxElementLength)
    && (((Instruction.split? script).bind fun instructions =>
      run? context instructions ⟨elements.reverse, [], 0⟩).any isAccepting)

/-- The branches that are open after the first `count` instructions of a script. -/
def branchesAfter? (context : SpendContext) (count : Nat) (script : Bytes) (elements : List Bytes) :
    Option (List Bool) :=
  (Instruction.split? script).bind fun instructions =>
    (run? context (instructions.take count) ⟨elements.reverse, [], 0⟩).map branches

/-- Acceptance of a script whose instructions are known. -/
theorem accepts_iff {context : SpendContext} {script : Bytes} {instructions : List Instruction}
    (hread : Instruction.split? script = some instructions) {elements : List Bytes} :
    accepts context script elements = true ↔
      script.length ≤ maxScriptLength ∧ (∀ e ∈ elements, e.length ≤ maxElementLength) ∧
        ∃ final, run? context instructions ⟨elements.reverse, [], 0⟩ = some final ∧
          isAccepting final = true := by
  rw [accepts, hread]
  simp [Option.any_eq_true, and_assoc]

/-! ## Single steps -/

section Steps

variable {context : SpendContext} {stack rest : List Bytes} {branches : List Bool} {n : Nat}
  {state final : ScriptState} {instruction : Instruction} {instructions : List Instruction}

/-- A run ends in a state exactly if its first step leads, within the limit on the stack, to a state
from which the others end there. -/
theorem run?_cons_eq_some :
    run? context (instruction :: instructions) state = some final ↔
      ∃ next, advance? context state instruction = some next ∧
        next.stack.length ≤ maxStackLength ∧ run? context instructions next = some final := by
  unfold run? step?
  rw [List.foldlM_cons]
  change (Option.filter _ _).bind _ = _ ↔ _
  simp [Option.bind_eq_some_iff, Option.filter_eq_some_iff, and_assoc]

/-- A run whose first step is known. -/
theorem run?_step {next : ScriptState} (h : advance? context state instruction = some next) :
    run? context (instruction :: instructions) state = some final ↔
      next.stack.length ≤ maxStackLength ∧ run? context instructions next = some final := by
  rw [run?_cons_eq_some, h]
  simp

theorem run?_nil_eq_some : run? context [] state = some final ↔ state = final :=
  Option.some_inj

theorem advance?_op {code : UInt8} (hn : n < maxOperations) :
    advance? context ⟨stack, branches, n⟩ (.op code) =
      operate? context code ⟨stack, branches, n + 1⟩ :=
  if_neg (Nat.not_le_of_lt hn)

/-- A push in a branch that is taken. -/
theorem advance?_push {data : Bytes} (hdata : data.length ≤ maxElementLength)
    (htaken : branches.all id = true) :
    advance? context ⟨stack, branches, n⟩ (.push data) = some ⟨data :: stack, branches, n⟩ := by
  rw [advance?, if_neg (Nat.not_lt_of_le hdata)]
  exact if_pos htaken

/-- A push in a branch that is not taken. -/
theorem advance?_push_skip {data : Bytes} (hdata : data.length ≤ maxElementLength)
    (htaken : branches.all id = false) :
    advance? context ⟨stack, branches, n⟩ (.push data) = some ⟨stack, branches, n⟩ := by
  rw [advance?, if_neg (Nat.not_lt_of_le hdata)]
  exact if_neg (by simp [isTaken, htaken])

/-- The operations on the stack do not open, switch or close branches. -/
theorem ne_branch_of_mem {code : UInt8} (hcode : code ∈ stackOperations) :
    code ≠ opIf ∧ code ≠ opElse ∧ code ≠ opEndIf := by
  have hall : stackOperations.all
      fun code => decide (code ≠ opIf ∧ code ≠ opElse ∧ code ≠ opEndIf) := by decide
  exact of_decide_eq_true (List.all_eq_true.1 hall code hcode)

/-- An operation on the stack in a branch that is taken. -/
theorem advance?_execute {code : UInt8} (hn : n < maxOperations) (hcode : code ∈ stackOperations)
    (htaken : branches.all id = true) :
    advance? context ⟨stack, branches, n⟩ (.op code) =
      (execute? context code stack).map fun stack => ⟨stack, branches, n + 1⟩ := by
  obtain ⟨hif, helse, hendIf⟩ := ne_branch_of_mem hcode
  rw [advance?_op hn, operate?, if_neg hif, if_neg helse, if_neg hendIf]
  exact if_pos htaken

/-- An operation on the stack in a branch that is not taken. -/
theorem advance?_execute_skip {code : UInt8} (hn : n < maxOperations)
    (hcode : code ∈ stackOperations) (htaken : branches.all id = false) :
    advance? context ⟨stack, branches, n⟩ (.op code) = some ⟨stack, branches, n + 1⟩ := by
  obtain ⟨hif, helse, hendIf⟩ := ne_branch_of_mem hcode
  rw [advance?_op hn, operate?, if_neg hif, if_neg helse, if_neg hendIf,
    if_neg (by simp [isTaken, htaken]), if_pos hcode]

theorem advance?_sha256 {element : Bytes} (hn : n < maxOperations)
    (htaken : branches.all id = true) :
    advance? context ⟨element :: rest, branches, n⟩ (.op opSha256) =
      some ⟨Sha256.hash element :: rest, branches, n + 1⟩ :=
  advance?_execute hn (by decide) htaken

theorem advance?_equal {a b : Bytes} (hn : n < maxOperations) (htaken : branches.all id = true) :
    advance? context ⟨a :: b :: rest, branches, n⟩ (.op opEqual) =
      some ⟨ofBool (a = b) :: rest, branches, n + 1⟩ :=
  advance?_execute hn (by decide) htaken

theorem advance?_drop {element : Bytes} (hn : n < maxOperations) (htaken : branches.all id = true) :
    advance? context ⟨element :: rest, branches, n⟩ (.op opDrop) = some ⟨rest, branches, n + 1⟩ :=
  advance?_execute hn (by decide) htaken

theorem advance?_checkSequenceVerify {operand : Bytes} (hn : n < maxOperations)
    (htaken : branches.all id = true) :
    advance? context ⟨operand :: rest, branches, n⟩ (.op opCheckSequenceVerify) =
      if RelativeLock.passes context operand then some ⟨operand :: rest, branches, n + 1⟩
      else none := by
  have hexecute : execute? context opCheckSequenceVerify (operand :: rest) =
      if RelativeLock.passes context operand then some (operand :: rest) else none := rfl
  rw [advance?_execute hn (by decide) htaken, hexecute]
  split <;> rfl

theorem advance?_checkSig {key signature : Bytes} (hn : n < maxOperations)
    (htaken : branches.all id = true) :
    advance? context ⟨key :: signature :: rest, branches, n⟩ (.op opCheckSig) =
      (context.checkSignature key signature).map fun holds =>
        ⟨ofBool holds :: rest, branches, n + 1⟩ := by
  rw [advance?_execute hn (by decide) htaken]
  exact Option.map_map _ _ _

theorem advance?_if {condition : Bytes} (hn : n < maxOperations) (htaken : branches.all id = true) :
    advance? context ⟨condition :: rest, branches, n⟩ (.op opIf) =
      some ⟨rest, ScriptNumber.isTrue condition :: branches, n + 1⟩ := by
  rw [advance?_op hn, operate?, if_pos rfl]
  exact if_pos htaken

theorem advance?_else {taken : Bool} (hn : n < maxOperations) :
    advance? context ⟨stack, taken :: branches, n⟩ (.op opElse) =
      some ⟨stack, (!taken) :: branches, n + 1⟩ :=
  advance?_op hn

theorem advance?_endIf {taken : Bool} (hn : n < maxOperations) :
    advance? context ⟨stack, taken :: branches, n⟩ (.op opEndIf) =
      some ⟨stack, branches, n + 1⟩ :=
  advance?_op hn

theorem isTrue_ofBool (b : Bool) : ScriptNumber.isTrue (ofBool b) = b := by
  cases b <;> rfl

end Steps

end ScriptState

end LiquidityClient
