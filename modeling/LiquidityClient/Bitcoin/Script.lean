import LiquidityClient.Bytes
import LiquidityClient.Error

/-!
# Scripts

A script is written item by item : an operation, a direct push of up to 75 bytes, or a relative lock
height in the form from which the provider derives its addresses. `assemble` joins items and gives
the first error among them.
-/

namespace LiquidityClient

/-- One item of a script as it is written. -/
inductive ScriptItem where
  | op (code : UInt8)
  | push (data : Bytes)
  /-- A relative lock of this many blocks. -/
  | lockHeight (height : UInt32)
  deriving DecidableEq, Repr

namespace Opcode

/-- Takes the top element as the condition of a branch. -/
def opIf : UInt8 := 0x63

/-- Starts the other branch. -/
def opElse : UInt8 := 0x67

/-- Ends a branch. -/
def opEndIf : UInt8 := 0x68

/-- Drops the top element. -/
def opDrop : UInt8 := 0x75

/-- Compares the two top elements. -/
def opEqual : UInt8 := 0x87

/-- Hashes the top element. -/
def opSha256 : UInt8 := 0xa8

/-- Checks a signature. -/
def opCheckSig : UInt8 := 0xac

/-- Checks the input's sequence against the top element. -/
def opCheckSequenceVerify : UInt8 := 0xb2

end Opcode

namespace ScriptItem

/-- The longest direct push. -/
def maxPush : Nat := 75

/-- The least lock height. -/
def minLockHeight : Nat := 2

/-- The greatest lock height. -/
def maxLockHeight : Nat := 0x7fff

/-- The bytes of a lock height : up to 16 a small-number operation, up to 75 the bare byte, up to
127 a push of one byte, above that a push of two bytes, low byte first. -/
def lockHeightBytes (height : Nat) : Bytes :=
  if height ≤ 16 then [UInt8.ofNat (0x50 + height)]
  else if height ≤ 0x4b then [UInt8.ofNat height]
  else if height ≤ 0x7f then [1, UInt8.ofNat height]
  else [2, UInt8.ofNat (height % 256), UInt8.ofNat (height / 256)]

/-- The bytes of an item. -/
def encode : ScriptItem → Except SwapError Bytes
  | .op code => .ok [code]
  | .push data =>
    if data.length ≤ maxPush then .ok (UInt8.ofNat data.length :: data)
    else .error (.pushTooLarge data.length)
  | .lockHeight height =>
    if minLockHeight ≤ height.toNat ∧ height.toNat ≤ maxLockHeight then
      .ok (lockHeightBytes height.toNat)
    else .error (.invalidCsvHeight height)

/-- The bytes of items, one behind the other. -/
def assemble : List ScriptItem → Except SwapError Bytes
  | [] => .ok []
  | item :: rest => do
    let front ← item.encode
    let tail ← assemble rest
    return front ++ tail

end ScriptItem

end LiquidityClient
