import LiquidityClient.Secp256k1.Key
import Mathlib.FieldTheory.Finite.Basic
import Mathlib.RingTheory.Coprime.Lemmas
import Mathlib.Tactic.NormNum.Prime

/-!
# The field of the coordinates

`powMod_eq` says what the powers by repeated squaring are. By Pocklington's criterion
(`prime_of_prime_factors`) a number is prime if its predecessor has prime factors with a large
product and a few powers are as they should; so `fieldPrime` is prime (`prime_fieldPrime`).
-/

namespace LiquidityClient.Secp256k1

variable {n : ℕ}

/-- Repeated squaring gives the power, if the exponent has no more bits than are looked at. -/
theorem powMod_eq (hn : 1 < n) (a : ℕ) {bits e : ℕ} (he : e < 2 ^ bits) :
    powMod n a e bits = a ^ e % n := by
  induction bits generalizing e with
  | zero =>
    obtain rfl : e = 0 := by simpa using he
    rw [powMod, pow_zero, Nat.mod_eq_of_lt hn]
  | succ bits ih =>
    have hhalf : e / 2 < 2 ^ bits := by rw [pow_succ] at he; omega
    have hsquare : a ^ (e / 2) % n * (a ^ (e / 2) % n) % n = a ^ (2 * (e / 2)) % n := by
      rw [← Nat.mul_mod, ← pow_add, two_mul]
    rw [powMod, ih hhalf, hsquare]
    split_ifs with hodd
    · have hsplit : a ^ e = a ^ (2 * (e / 2)) * a := by
        rw [← pow_succ]
        congr 1
        omega
      rw [hsplit, Nat.mod_mul_mod]
    · rw [show 2 * (e / 2) = e by omega]

/-- A prime that divides an exponent for which a power is one, but not the exponent without it,
divides the order. -/
theorem dvd_orderOf {M : Type*} [Monoid M] {x : M} {q e : ℕ} (hq : q.Prime) (hdvd : q ∣ e)
    (hone : x ^ e = 1) (hne : x ^ (e / q) ≠ 1) : q ∣ orderOf x := by
  by_contra hnot
  have hcoprime : (orderOf x).Coprime q := ((Nat.Prime.coprime_iff_not_dvd hq).2 hnot).symm
  have hmul : orderOf x ∣ q * (e / q) := by
    rw [Nat.mul_div_cancel' hdvd]
    exact orderOf_dvd_of_pow_eq_one hone
  exact hne (orderOf_dvd_iff_pow_eq_one.1 (hcoprime.dvd_of_dvd_mul_left hmul))

/-- Pocklington's criterion : every prime factor of the number is one more than a multiple of each
of the `qs`. -/
theorem prime_of_prime_factors (a : ℕ) (qs : Finset ℕ) {bits : ℕ} (hn : 1 < n)
    (hbits : n < 2 ^ bits) (hprime : ∀ q ∈ qs, q.Prime) (hdvd : ∀ q ∈ qs, q ∣ n - 1)
    (hlarge : n < (∏ q ∈ qs, q) ^ 2) (hone : powMod n a (n - 1) bits = 1)
    (hcoprime : ∀ q ∈ qs, (powMod n a ((n - 1) / q) bits + (n - 1)).Coprime n) : n.Prime := by
  by_contra hnot
  have hr : n.minFac.Prime := Nat.minFac_prime (by omega)
  have hrn : n.minFac ∣ n := Nat.minFac_dvd n
  have hsquare : n.minFac ^ 2 ≤ n := Nat.minFac_sq_le_self (by omega) hnot
  generalize n.minFac = r at hr hrn hsquare
  have : Fact r.Prime := ⟨hr⟩
  have hcast (m : ℕ) : ((m % n : ℕ) : ZMod r) = m :=
    (ZMod.natCast_eq_natCast_iff _ _ _).2 ((Nat.mod_modEq m n).of_dvd hrn)
  have hpow : (a : ZMod r) ^ (n - 1) = 1 := by
    rw [powMod_eq hn a (by omega)] at hone
    rw [← Nat.cast_pow, ← hcast, hone, Nat.cast_one]
  have hne (q : ℕ) (hq : q ∈ qs) : (a : ZMod r) ^ ((n - 1) / q) ≠ 1 := by
    intro heq
    have hlt : (n - 1) / q < 2 ^ bits := (Nat.div_le_self _ _).trans_lt (by omega)
    have hzero : ((powMod n a ((n - 1) / q) bits + (n - 1) : ℕ) : ZMod r) = 0 := by
      rw [powMod_eq hn a hlt, Nat.cast_add, hcast, Nat.cast_pow, heq, ← Nat.cast_one,
        ← Nat.cast_add, Nat.add_sub_cancel' hn.le]
      exact (ZMod.natCast_eq_zero_iff _ _).2 hrn
    exact Nat.not_coprime_of_dvd_of_dvd hr.one_lt ((ZMod.natCast_eq_zero_iff _ _).1 hzero) hrn
      (hcoprime q hq)
  have hfactors (q : ℕ) (hq : q ∈ qs) : q ∣ r - 1 := by
    have hunit : (a : ZMod r) ≠ 0 := by
      intro hzero
      rw [hzero, zero_pow (by omega)] at hpow
      exact zero_ne_one hpow
    exact (dvd_orderOf (hprime q hq) (hdvd q hq) hpow (hne q hq)).trans
      (ZMod.orderOf_dvd_card_sub_one hunit)
  have hproduct : (∏ q ∈ qs, q) ∣ r - 1 :=
    Finset.prod_primes_dvd _ (fun q hq => (hprime q hq).prime) hfactors
  have hle : ∏ q ∈ qs, q ≤ r := by
    have hsub := Nat.le_of_dvd (Nat.sub_pos_of_lt hr.one_lt) hproduct
    omega
  have := Nat.pow_le_pow_left hle 2
  omega

/-- A prime of 128 bits. -/
theorem prime_middleFactor : Nat.Prime 255515944373312847190720520512484175977 := by
  refine @prime_of_prime_factors _ 2 {96557, 7240687, 107590001} 128 (by decide) (by decide) ?_
    (by decide +kernel) (by decide +kernel) (by decide +kernel) (by decide +kernel)
  simp only [Finset.mem_insert, Finset.mem_singleton, forall_eq_or_imp, forall_eq]
  norm_num

/-- The largest prime factor of the number before `fieldPrime`. -/
theorem prime_largestFactor :
    Nat.Prime 205115282021455665897114700593932402728804164701536103180137503955397371 := by
  refine @prime_of_prime_factors _ 2 {255515944373312847190720520512484175977} 237 (by decide)
    (by decide) ?_ (by decide +kernel) (by decide +kernel) (by decide +kernel) (by decide +kernel)
  exact fun q hq => Finset.mem_singleton.1 hq ▸ prime_middleFactor

theorem prime_fieldPrime : fieldPrime.Prime := by
  refine @prime_of_prime_factors _ 2
    {205115282021455665897114700593932402728804164701536103180137503955397371} 256 (by decide)
    (by decide) ?_ (by decide +kernel) (by decide +kernel) (by decide +kernel) (by decide +kernel)
  exact fun q hq => Finset.mem_singleton.1 hq ▸ prime_largestFactor

instance : Fact fieldPrime.Prime := ⟨prime_fieldPrime⟩

end LiquidityClient.Secp256k1
