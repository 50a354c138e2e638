/-!
# Byte strings

A byte string is a list of bytes. `toNatLE` and `toNatBE` read it as a number, `ofNatLE` and
`ofNatBE` write a number in a fixed count of bytes; a number that fits reads back as itself
(`toNatLE_ofNatLE`, `toNatBE_ofNatBE`), and so do the bytes (`ofNatLE_toNatLE`, `ofNatBE_toNatBE`).
-/

namespace LiquidityClient

/-- A string of bytes. -/
abbrev Bytes := List UInt8

namespace Bytes

/-- The number whose base-256 digits are the bytes, least significant first. -/
def toNatLE : Bytes → Nat
  | [] => 0
  | byte :: rest => byte.toNat + 256 * toNatLE rest

/-- The number whose base-256 digits are the bytes, most significant first. -/
def toNatBE (bytes : Bytes) : Nat :=
  toNatLE bytes.reverse

/-- The low `count` base-256 digits of a number, least significant first. -/
def ofNatLE : Nat → Nat → Bytes
  | 0, _ => []
  | count + 1, n => UInt8.ofNat n :: ofNatLE count (n / 256)

/-- The low `count` base-256 digits of a number, most significant first. -/
def ofNatBE (count n : Nat) : Bytes :=
  (ofNatLE count n).reverse

theorem length_ofNatLE (count n : Nat) : (ofNatLE count n).length = count := by
  induction count generalizing n with
  | zero => rfl
  | succ count ih => simp [ofNatLE, ih]

theorem length_ofNatBE (count n : Nat) : (ofNatBE count n).length = count := by
  simp [ofNatBE, length_ofNatLE]

theorem toNatLE_ofNatLE {count n : Nat} (h : n < 1 <<< (8 * count)) :
    toNatLE (ofNatLE count n) = n := by
  induction count generalizing n with
  | zero =>
    obtain rfl := Nat.lt_one_iff.mp h
    rfl
  | succ count ih =>
    have hsmall : n / 256 < 1 <<< (8 * count) := by
      rw [Nat.shiftLeft_eq, Nat.one_mul] at h ⊢
      rw [Nat.mul_succ, Nat.pow_add] at h
      exact (Nat.div_lt_iff_lt_mul (by decide)).mpr h
    simp only [ofNatLE, toNatLE, ih hsmall, UInt8.toNat_ofNat']
    omega

theorem toNatBE_ofNatBE {count n : Nat} (h : n < 1 <<< (8 * count)) :
    toNatBE (ofNatBE count n) = n := by
  simp [toNatBE, ofNatBE, toNatLE_ofNatLE h]

/-- Bytes are written as they were read. -/
theorem ofNatLE_toNatLE (bytes : Bytes) : ofNatLE bytes.length (toNatLE bytes) = bytes := by
  induction bytes with
  | nil => rfl
  | cons byte rest ih =>
    have hlt := byte.toNat_lt
    have hrest : (byte.toNat + 256 * toNatLE rest) / 256 = toNatLE rest := by omega
    have hbyte : UInt8.ofNat (byte.toNat + 256 * toNatLE rest) = byte := by
      rw [← UInt8.toNat_inj, UInt8.toNat_ofNat']
      omega
    rw [List.length_cons, toNatLE, ofNatLE, hrest, hbyte, ih]

theorem toNatLE_lt (bytes : Bytes) : toNatLE bytes < 1 <<< (8 * bytes.length) := by
  induction bytes with
  | nil => exact Nat.one_pos
  | cons byte rest ih =>
    have hlt := byte.toNat_lt
    rw [Nat.shiftLeft_eq, Nat.one_mul] at ih ⊢
    rw [toNatLE, List.length_cons, Nat.mul_succ, Nat.pow_add]
    omega

theorem ofNatBE_toNatBE (bytes : Bytes) : ofNatBE bytes.length (toNatBE bytes) = bytes := by
  have hreverse := ofNatLE_toNatLE bytes.reverse
  rw [List.length_reverse] at hreverse
  rw [ofNatBE, toNatBE, hreverse, List.reverse_reverse]

theorem toNatLE_append (front rest : Bytes) :
    toNatLE (front ++ rest) = toNatLE front + toNatLE rest <<< (8 * front.length) := by
  induction front with
  | nil => simp [toNatLE]
  | cons byte front ih =>
    rw [List.cons_append, toNatLE, toNatLE, ih, List.length_cons, Nat.mul_succ, Nat.shiftLeft_add]
    generalize toNatLE rest <<< (8 * front.length) = high
    rw [Nat.shiftLeft_eq]
    omega

theorem toNatBE_cons (byte : UInt8) (rest : Bytes) :
    toNatBE (byte :: rest) = toNatBE rest + byte.toNat <<< (8 * rest.length) := by
  rw [toNatBE, List.reverse_cons, toNatLE_append, List.length_reverse]
  rfl

theorem toNatBE_zero_cons (rest : Bytes) : toNatBE (0 :: rest) = toNatBE rest := by
  rw [toNatBE_cons, UInt8.toNat_zero, Nat.zero_shiftLeft, Nat.add_zero]

/-- Zeros in front do not count. -/
theorem toNatBE_dropWhile_zero (bytes : Bytes) :
    toNatBE (bytes.dropWhile (· = 0)) = toNatBE bytes := by
  induction bytes with
  | nil => rfl
  | cons byte rest ih =>
    rw [List.dropWhile_cons]
    split
    · next h =>
      obtain rfl : byte = 0 := by simpa using h
      rw [ih, toNatBE_zero_cons]
    · rfl

theorem ofNatLE_succ_eq_append (count n : Nat) :
    ofNatLE (count + 1) n = ofNatLE count n ++ [UInt8.ofNat (n >>> (8 * count))] := by
  induction count generalizing n with
  | zero => simp [ofNatLE]
  | succ count ih =>
    have hshift : n / 256 = n >>> 8 := (Nat.shiftRight_eq_div_pow n 8).symm
    rw [ofNatLE, ih, ofNatLE, hshift, ← Nat.shiftRight_add, Nat.mul_succ, Nat.add_comm 8]
    rfl

theorem ofNatBE_succ (count n : Nat) :
    ofNatBE (count + 1) n = UInt8.ofNat (n >>> (8 * count)) :: ofNatBE count n := by
  rw [ofNatBE, ofNatLE_succ_eq_append, List.reverse_append]
  rfl

/-- The consecutive pieces of `size` bytes, of which the last may be shorter, up to `fuel` of
them. -/
def chunksUpTo (size : Nat) : Nat → Bytes → List Bytes
  | 0, _ => []
  | _, [] => []
  | fuel + 1, byte :: rest =>
    (byte :: rest).take size :: chunksUpTo size fuel ((byte :: rest).drop size)

/-- The consecutive pieces of `size` bytes, of which the last may be shorter. -/
def chunks (size : Nat) (bytes : Bytes) : List Bytes :=
  chunksUpTo size bytes.length bytes

/-- `count` copies of one byte. -/
def repeated (count : Nat) (byte : UInt8) : Bytes :=
  List.replicate count byte

end Bytes

end LiquidityClient
