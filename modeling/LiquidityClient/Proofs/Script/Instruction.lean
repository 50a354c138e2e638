import LiquidityClient.Bitcoin.Script
import Mathlib.Data.List.Forall2
import Mathlib.Tactic.IntervalCases
import Mathlib.Tactic.SplitIfs

/-!
# Instructions of a script

The bytes of a script are read instruction by instruction : a byte up to `0x4b` pushes as many bytes
as it says, three operations push as many as a length behind them says, some push a small number,
and every other byte is an operation. `split?` reads a whole script, if no push reaches past its
end. A direct push and an operation are read back as they were written (`split?_push`, `split?_op`).

Script numbers are byte strings with the least significant byte first, the top bit of the last byte
being the sign.
-/

namespace LiquidityClient

/-- An instruction of a script. -/
inductive Instruction where
  | push (data : Bytes)
  | op (code : UInt8)
  deriving DecidableEq, Repr

/-! ## Script numbers -/

namespace ScriptNumber

/-- The number that a byte string spells. -/
def value (bytes : Bytes) : Int :=
  match bytes.getLast? with
  | none => 0
  | some top =>
    if top.toNat < 0x80 then Bytes.toNatLE bytes
    else -(Bytes.toNatLE bytes - 0x80 <<< (8 * (bytes.length - 1)) : Nat)

/-- The number of a byte string that is short enough for an operand. -/
def ofBytes? (maxLength : Nat) (bytes : Bytes) : Option Int :=
  if bytes.length ≤ maxLength then some (value bytes) else none

/-- A short byte string whose sign bit is clear spells its digits. -/
theorem ofBytes?_concat {maxLength : Nat} {bytes : Bytes} {top : UInt8} (htop : top.toNat < 0x80)
    (hlength : bytes.length < maxLength) :
    ofBytes? maxLength (bytes ++ [top]) = some (Bytes.toNatLE (bytes ++ [top]) : Int) := by
  rw [ofBytes?, if_pos (by rw [List.length_append]; exact hlength), value, List.getLast?_concat]
  exact congrArg some (if_pos htop)

/-- Is a byte string true : is some byte not zero, the sign of a zero aside? -/
def isTrue : Bytes → Bool
  | [] => false
  | [top] => top ≠ 0 && top ≠ 0x80
  | byte :: rest => byte ≠ 0 || isTrue rest

end ScriptNumber

/-! ## Reading instructions -/

namespace Instruction

/-- A push of the next bytes, and what follows them. -/
def take? (count : Nat) (bytes : Bytes) : Option (Instruction × Bytes) :=
  if count ≤ bytes.length then some (.push (bytes.take count), bytes.drop count) else none

/-- A push of as many bytes as the length of `width` bytes in front of them says. -/
def takeSized? (width : Nat) (bytes : Bytes) : Option (Instruction × Bytes) :=
  if width ≤ bytes.length then take? (Bytes.toNatLE (bytes.take width)) (bytes.drop width) else none

/-- The instruction that starts with a byte, and what follows it. -/
def next? (code : UInt8) (rest : Bytes) : Option (Instruction × Bytes) :=
  if code.toNat ≤ 0x4b then take? code.toNat rest
  else if code = 0x4c then takeSized? 1 rest
  else if code = 0x4d then takeSized? 2 rest
  else if code = 0x4e then takeSized? 4 rest
  else if code = 0x4f then some (.push [0x81], rest)
  else if 0x51 ≤ code.toNat ∧ code.toNat ≤ 0x60 then some (.push [code - 0x50], rest)
  else some (.op code, rest)

theorem length_of_take? {count : Nat} {bytes rest : Bytes} {instruction : Instruction}
    (h : take? count bytes = some (instruction, rest)) : rest.length ≤ bytes.length := by
  unfold take? at h
  split at h
  · cases h
    simp
  · cases h

theorem length_of_takeSized? {width : Nat} {bytes rest : Bytes} {instruction : Instruction}
    (h : takeSized? width bytes = some (instruction, rest)) : rest.length ≤ bytes.length := by
  unfold takeSized? at h
  split at h
  · exact Nat.le_trans (length_of_take? h) (by simp)
  · cases h

theorem length_of_next? {code : UInt8} {bytes rest : Bytes} {instruction : Instruction}
    (h : next? code bytes = some (instruction, rest)) : rest.length ≤ bytes.length := by
  unfold next? at h
  split_ifs at h
  · exact length_of_take? h
  · exact length_of_takeSized? h
  · exact length_of_takeSized? h
  · exact length_of_takeSized? h
  all_goals
    cases h
    exact Nat.le_refl _

/-- The instructions of a script. -/
def split? : Bytes → Option (List Instruction)
  | [] => some []
  | code :: bytes =>
    match _h : next? code bytes with
    | none => none
    | some (instruction, rest) => (split? rest).map (instruction :: ·)
  termination_by bytes => bytes.length
  decreasing_by exact Nat.lt_succ_of_le (length_of_next? _h)

theorem split?_cons (code : UInt8) (bytes : Bytes) :
    split? (code :: bytes) =
      (next? code bytes).bind fun (instruction, rest) => (split? rest).map (instruction :: ·) := by
  rw [split?]
  cases next? code bytes <;> rfl

/-- A direct push is read as it was written. -/
theorem split?_push {data : Bytes} (h : data.length ≤ 75) (rest : Bytes) :
    split? (UInt8.ofNat data.length :: (data ++ rest)) = (split? rest).map (.push data :: ·) := by
  have hcode : (UInt8.ofNat data.length).toNat = data.length :=
    UInt8.toNat_ofNat_of_lt (Nat.lt_of_le_of_lt h (by decide))
  rw [split?_cons, next?, hcode, if_pos h, take?, if_pos (by simp)]
  simp

/-- An operation is read as it was written. -/
theorem split?_op {code : UInt8} (h : 0x60 < code.toNat) (rest : Bytes) :
    split? (code :: rest) = (split? rest).map (.op code :: ·) := by
  have hnext : next? code rest = some (.op code, rest) := by
    unfold next?
    split_ifs with _ hsized hsized hsized hminus
    · omega
    all_goals first | omega | rfl | (subst code; exact absurd h (by decide))
  rw [split?_cons, hnext]
  rfl

/-- A small number is read as the push of one byte. -/
theorem split?_small {n : Nat} (hpos : 1 ≤ n) (h : n ≤ 16) (rest : Bytes) :
    split? (UInt8.ofNat (0x50 + n) :: rest) = (split? rest).map (.push [UInt8.ofNat n] :: ·) := by
  have hnext : next? (UInt8.ofNat (0x50 + n)) rest = some (.push [UInt8.ofNat n], rest) := by
    interval_cases n <;> rfl
  rw [split?_cons, hnext]
  rfl

end Instruction

/-! ## Reading the items of a script -/

namespace ScriptItem

open Instruction

/-- Are the bytes of the item read as this instruction, whatever follows them? -/
def ReadAs (item : ScriptItem) (instruction : Instruction) : Prop :=
  ∀ bytes, item.encode = .ok bytes → ∀ rest,
    split? (bytes ++ rest) = (split? rest).map (instruction :: ·)

theorem readAs_op {code : UInt8} (h : 0x60 < code.toNat) : (op code).ReadAs (.op code) := by
  rintro bytes ⟨⟩ rest
  exact split?_op h rest

theorem readAs_push (data : Bytes) : (push data).ReadAs (.push data) := by
  intro bytes hbytes rest
  rw [encode] at hbytes
  split_ifs at hbytes with hlength
  cases hbytes
  exact split?_push hlength rest

theorem assemble_cons_eq_ok {item : ScriptItem} {items : List ScriptItem} {script : Bytes} :
    assemble (item :: items) = .ok script ↔
      ∃ front rest, item.encode = .ok front ∧ assemble items = .ok rest ∧
        script = front ++ rest := by
  rw [assemble]
  cases item.encode <;> cases assemble items <;>
    simp [bind, Except.bind, pure, Except.pure, eq_comm]

theorem assemble_append_eq_ok {items items' : List ScriptItem} {script : Bytes} :
    assemble (items ++ items') = .ok script ↔
      ∃ front rest, assemble items = .ok front ∧ assemble items' = .ok rest ∧
        script = front ++ rest := by
  induction items generalizing script with
  | nil => simp [assemble]
  | cons item items ih =>
    rw [List.cons_append, assemble_cons_eq_ok]
    simp only [ih, assemble_cons_eq_ok]
    constructor
    · rintro ⟨front, _, hfront, ⟨middle, rest, hmiddle, hrest, rfl⟩, rfl⟩
      exact ⟨front ++ middle, rest, ⟨front, middle, hfront, hmiddle, rfl⟩, hrest, by simp⟩
    · rintro ⟨_, rest, ⟨front, middle, hfront, hmiddle, rfl⟩, hrest, rfl⟩
      exact ⟨front, _, hfront, ⟨middle, rest, hmiddle, hrest, rfl⟩, by simp⟩

/-- Items of which each can be written make a script. -/
theorem exists_assemble_eq_ok {items : List ScriptItem}
    (h : ∀ item ∈ items, ∃ bytes, item.encode = .ok bytes) :
    ∃ script, assemble items = .ok script := by
  induction items with
  | nil => exact ⟨[], rfl⟩
  | cons item items ih =>
    obtain ⟨front, hfront⟩ := h item List.mem_cons_self
    obtain ⟨rest, hrest⟩ := ih fun item hitem => h item (List.mem_cons_of_mem _ hitem)
    exact ⟨front ++ rest, assemble_cons_eq_ok.2 ⟨front, rest, hfront, hrest, rfl⟩⟩

/-- The first item that cannot be written gives the error. -/
theorem assemble_append_cons_error {items items' : List ScriptItem} {item : ScriptItem}
    {error : SwapError} (hitems : ∀ item ∈ items, ∃ bytes, item.encode = .ok bytes)
    (herror : item.encode = .error error) :
    assemble (items ++ item :: items') = .error error := by
  induction items with
  | nil =>
    rw [List.nil_append, assemble, herror]
    rfl
  | cons first items ih =>
    obtain ⟨front, hfront⟩ := hitems first List.mem_cons_self
    rw [List.cons_append, assemble, hfront, ih fun item hitem =>
      hitems item (List.mem_cons_of_mem _ hitem)]
    rfl

theorem length_encode_le {item : ScriptItem} {bytes : Bytes} (h : item.encode = .ok bytes) :
    bytes.length ≤ maxPush + 1 := by
  unfold encode at h
  split at h
  · cases h
    simp
  · split_ifs at h with hlength
    cases h
    exact Nat.succ_le_succ hlength
  · split_ifs at h
    cases h
    unfold lockHeightBytes
    split_ifs <;> simp [maxPush]

/-- A script is not longer than its items can be. -/
theorem length_assemble_le {items : List ScriptItem} {script : Bytes}
    (h : assemble items = .ok script) : script.length ≤ (maxPush + 1) * items.length := by
  induction items generalizing script with
  | nil =>
    cases h
    simp
  | cons item items ih =>
    obtain ⟨front, rest, hfront, hrest, rfl⟩ := assemble_cons_eq_ok.1 h
    have hlength := Nat.add_le_add (length_encode_le hfront) (ih hrest)
    rw [List.length_append, List.length_cons, Nat.mul_succ]
    omega

theorem exists_encode_op (code : UInt8) : ∃ bytes, (op code).encode = .ok bytes :=
  ⟨_, rfl⟩

theorem exists_encode_push {data : Bytes} (h : data.length ≤ maxPush) :
    ∃ bytes, (push data).encode = .ok bytes :=
  ⟨_, if_pos h⟩

/-- Items that are read as instructions make a script that is read as these instructions. -/
theorem split?_assemble {items : List ScriptItem} {instructions : List Instruction}
    (h : List.Forall₂ ReadAs items instructions) {script : Bytes}
    (hscript : assemble items = .ok script) (rest : Bytes) :
    split? (script ++ rest) = (split? rest).map (instructions ++ ·) := by
  induction h generalizing script with
  | nil =>
    cases hscript
    simp
  | cons hread _ ih =>
    obtain ⟨front, tail, hfront, htail, rfl⟩ := assemble_cons_eq_ok.1 hscript
    rw [List.append_assoc, hread front hfront, ih htail, Option.map_map]
    rfl

end ScriptItem

end LiquidityClient
