import LiquidityClient.Secp256k1.Signature
import Mathlib.Tactic.SplitIfs

/-!
# Signatures in DER

`Signature.ofDer?` reads signatures by the strict rules of consensus (BIP 66) : two non-negative
integers in their shortest form, and nothing else. It reads back what `Signature.der` writes of
numbers below `1 <<< 256` (`ofDer?_der`), among them all signatures that are made (`sign_lt`). Since
of two signatures the one with the smaller second number is made, it takes at most 71 bytes
(`length_der_sign_le`).
-/

namespace LiquidityClient

open Secp256k1

namespace Signature

/-- Is a byte string the shortest form of a non-negative integer : is its sign bit clear, and the
first byte zero only in front of a set top bit? -/
def isShortest : Bytes → Bool
  | [] => false
  | [top] => top.toNat < 0x80
  | top :: next :: _ => top.toNat < 0x80 && (top ≠ 0 || 0x80 ≤ next.toNat)

/-- The non-negative integer at the front, and what follows it. -/
def readInteger? : Bytes → Option (Nat × Bytes)
  | tag :: length :: rest =>
    if tag = 2 ∧ length.toNat ≤ rest.length ∧ isShortest (rest.take length.toNat) then
      some (Bytes.toNatBE (rest.take length.toNat), rest.drop length.toNat)
    else none
  | _ => none

/-- The signature that a byte string spells in DER. -/
def ofDer? : Bytes → Option Signature
  | tag :: length :: body =>
    if tag = 0x30 ∧ length.toNat = body.length ∧ body.length ≤ 70 then
      match readInteger? body with
      | some (r, rest) =>
        match readInteger? rest with
        | some (s, []) => some ⟨r, s⟩
        | _ => none
      | none => none
    else none
  | _ => none

/-- The bytes of an integer behind its tag and length. -/
def integerBody (n : Nat) : Bytes :=
  match (Bytes.ofNatBE 33 n).dropWhile (· = 0) with
  | [] => [0]
  | top :: rest => if 128 ≤ top.toNat then 0 :: top :: rest else top :: rest

theorem derInteger_eq (n : Nat) :
    derInteger n = 2 :: UInt8.ofNat (integerBody n).length :: integerBody n := by
  unfold derInteger integerBody
  cases (Bytes.ofNatBE 33 n).dropWhile (· = 0) <;> rfl

/-- The digits of a number without zeros in front. -/
theorem digits_cases {n : Nat} (h : n < 1 <<< 256) :
    let digits := (Bytes.ofNatBE 33 n).dropWhile (· = 0)
    Bytes.toNatBE digits = n ∧ digits.length ≤ 32 ∧ ∀ top, digits.head? = some top → top ≠ 0 := by
  intro digits
  have hfits : n < 1 <<< (8 * 33) := Nat.lt_trans h (by decide)
  refine ⟨?_, ?_, fun top htop => ?_⟩
  · rw [Bytes.toNatBE_dropWhile_zero, Bytes.toNatBE_ofNatBE hfits]
  · have htop : n >>> (8 * 32) = 0 := by
      rw [Nat.shiftRight_eq_div_pow]
      exact Nat.div_eq_of_lt (Nat.lt_of_lt_of_le h (by decide))
    have hdigits : digits = (Bytes.ofNatBE 32 n).dropWhile (· = 0) := by
      change (Bytes.ofNatBE (32 + 1) n).dropWhile (· = 0) = _
      rw [Bytes.ofNatBE_succ, htop]
      rfl
    rw [hdigits, ← Bytes.length_ofNatBE 32 n]
    exact (List.dropWhile_sublist _).length_le
  · have hnot := List.head?_dropWhile_not (· = 0) (Bytes.ofNatBE 33 n)
    rw [htop] at hnot
    simpa using hnot

/-- The body is the shortest form of its number, of at most 33 bytes. -/
theorem integerBody_spec {n : Nat} (h : n < 1 <<< 256) :
    Bytes.toNatBE (integerBody n) = n ∧ isShortest (integerBody n) = true ∧
      (integerBody n).length ≤ 33 := by
  obtain ⟨hvalue, hlength, htop⟩ := digits_cases h
  unfold integerBody
  cases hdigits : (Bytes.ofNatBE 33 n).dropWhile (· = 0) with
  | nil =>
    rw [hdigits] at hvalue
    exact ⟨hvalue, rfl, by simp⟩
  | cons top rest =>
    rw [hdigits] at hvalue hlength htop
    have hne : top ≠ 0 := htop top rfl
    dsimp only
    split_ifs with hsign
    · refine ⟨?_, ?_, Nat.succ_le_succ hlength⟩
      · rw [Bytes.toNatBE_zero_cons, hvalue]
      · simp [isShortest, hsign]
    · refine ⟨hvalue, ?_, Nat.le_succ_of_le hlength⟩
      rcases rest with _ | ⟨next, rest⟩
      · simpa [isShortest] using hsign
      · simpa [isShortest, hne] using hsign

theorem length_derInteger_le {n : Nat} (h : n < 1 <<< 256) : (derInteger n).length ≤ 35 := by
  rw [derInteger_eq]
  exact Nat.add_le_add_right (integerBody_spec h).2.2 2

/-- An integer is read back as it was written, whatever follows it. -/
theorem readInteger?_derInteger {n : Nat} (h : n < 1 <<< 256) (rest : Bytes) :
    readInteger? (derInteger n ++ rest) = some (n, rest) := by
  obtain ⟨hvalue, hshortest, hlength⟩ := integerBody_spec h
  have hbyte : (UInt8.ofNat (integerBody n).length).toNat = (integerBody n).length :=
    UInt8.toNat_ofNat_of_lt (Nat.lt_of_le_of_lt hlength (by decide))
  rw [derInteger_eq, List.cons_append, List.cons_append, readInteger?, hbyte, List.take_left,
    List.drop_left, hvalue, if_pos ⟨rfl, by simp, hshortest⟩]

/-- The DER form has at most 72 bytes. -/
theorem length_der_le {signature : Signature} (hr : signature.r < 1 <<< 256)
    (hs : signature.s < 1 <<< 256) : signature.der.length ≤ 72 := by
  have hlr := length_derInteger_le hr
  have hls := length_derInteger_le hs
  unfold der
  rw [List.length_cons, List.length_cons, List.length_append]
  omega

/-- A number whose top bit is clear takes no zero in front. -/
theorem length_derInteger_le_of_lt {n : Nat} (h : n < 1 <<< 255) : (derInteger n).length ≤ 34 := by
  obtain ⟨hvalue, hlength, -⟩ := digits_cases (Nat.lt_trans h (by decide))
  rw [derInteger_eq]
  refine Nat.add_le_add_right ?_ 2
  unfold integerBody
  cases hdigits : (Bytes.ofNatBE 33 n).dropWhile (· = 0) with
  | nil => simp
  | cons top rest =>
    rw [hdigits, List.length_cons] at hlength
    dsimp only
    split_ifs with hsign
    · -- A set top bit in the last of 32 bytes would make the number too large.
      have hrest : rest.length ≠ 31 := fun hrest => by
        rw [hdigits, Bytes.toNatBE_cons, hrest, Nat.shiftLeft_eq] at hvalue
        rw [Nat.shiftLeft_eq] at h
        omega
      rw [List.length_cons, List.length_cons]
      omega
    · exact hlength

/-- With a second number of at most 255 bits, the DER form has at most 71 bytes. -/
theorem length_der_le_of_lt {signature : Signature} (hr : signature.r < 1 <<< 256)
    (hs : signature.s < 1 <<< 255) : signature.der.length ≤ 71 := by
  have hlr := length_derInteger_le hr
  have hls := length_derInteger_le_of_lt hs
  unfold der
  rw [List.length_cons, List.length_cons, List.length_append]
  omega

/-- A signature is read back as it was written. -/
theorem ofDer?_der {signature : Signature} (hr : signature.r < 1 <<< 256)
    (hs : signature.s < 1 <<< 256) : ofDer? signature.der = some signature := by
  have hlength : (derInteger signature.r ++ derInteger signature.s).length ≤ 70 := by
    have hlr := length_derInteger_le hr
    have hls := length_derInteger_le hs
    rw [List.length_append]
    omega
  have hbyte := UInt8.toNat_ofNat_of_lt (Nat.lt_of_le_of_lt hlength (by decide : 70 < UInt8.size))
  have hsecond : readInteger? (derInteger signature.s) = some (signature.s, []) := by
    simpa using readInteger?_derInteger hs []
  unfold der
  rw [ofDer?, if_pos ⟨rfl, hbyte, hlength⟩, readInteger?_derInteger hr]
  simp only [hsecond]

/-! ## Signatures that are made -/

theorem withNonce_lt (key : SecretKey) (digest : Bytes) (nonce : Nat) :
    (withNonce key digest nonce).r < 1 <<< 256 ∧ (withNonce key digest nonce).s < 1 <<< 256 := by
  have horder : order < 1 <<< 256 := by decide
  have hpos : 0 < order := by decide
  unfold withNonce
  dsimp only
  constructor
  · split
    · exact Nat.lt_trans (Nat.mod_lt _ hpos) horder
    · exact Nat.lt_trans hpos horder
  · split_ifs with hlow
    · exact Nat.lt_of_le_of_lt (Nat.le_trans hlow (Nat.div_le_self _ _)) horder
    · exact Nat.lt_of_le_of_lt (Nat.sub_le _ _) horder

/-- The second number is the smaller one of two. -/
theorem withNonce_s_le (key : SecretKey) (digest : Bytes) (nonce : Nat) :
    (withNonce key digest nonce).s ≤ order / 2 := by
  have hodd : order % 2 = 1 := by decide
  unfold withNonce
  dsimp only
  split_ifs with hlow
  · exact hlow
  · omega

theorem exists_search_eq (key : SecretKey) (digest : Bytes) (fuel : Nat) (state : NonceState) :
    ∃ nonce, search key digest fuel state = withNonce key digest nonce := by
  induction fuel generalizing state with
  | zero => exact ⟨_, rfl⟩
  | succ fuel ih =>
    unfold search
    dsimp only
    split_ifs
    · exact ⟨_, rfl⟩
    · exact ih state.retry

/-- A signature that is made is the one with some nonce. -/
theorem exists_sign_eq (key : SecretKey) (digest : Bytes) :
    ∃ nonce, sign key digest = withNonce key digest nonce :=
  exists_search_eq key digest 32 _

/-- The numbers of a signature that is made fit 256 bits. -/
theorem sign_lt (key : SecretKey) (digest : Bytes) :
    (sign key digest).r < 1 <<< 256 ∧ (sign key digest).s < 1 <<< 256 := by
  obtain ⟨nonce, hsign⟩ := exists_sign_eq key digest
  rw [hsign]
  exact withNonce_lt key digest nonce

/-- A signature that is made takes at most 71 bytes. -/
theorem length_der_sign_le (key : SecretKey) (digest : Bytes) :
    (sign key digest).der.length ≤ 71 := by
  obtain ⟨nonce, hsign⟩ := exists_sign_eq key digest
  have hlow := withNonce_s_le key digest nonce
  rw [hsign]
  exact length_der_le_of_lt (withNonce_lt key digest nonce).1 (Nat.lt_of_le_of_lt hlow (by decide))

end Signature

end LiquidityClient
