import LiquidityClient.Proofs.CompressedKey
import LiquidityClient.Proofs.CurveGroup

/-!
# Keys and the secret they share

The base point has the prime order `order` (`addOrderOf_basePoint`), so that the public key of a
secret one is the multiple of the base point by its scalar (`SecretKey.represents_publicKey`) and a
valid key (`SecretKey.valid_publicKey`). The product of two scalars gives the point that two key
pairs have in common : both compute the same secret (`sharedSecret_comm`).
-/

namespace LiquidityClient

open Secp256k1

namespace Secp256k1

/-! ## The order of the group -/

/-- A prime factor of the number before `order`. -/
theorem prime_orderFactor : Nat.Prime 174723607534414371449 := by
  refine @prime_of_prime_factors _ 2 {120233, 44706919} 68 (by decide) (by decide) ?_
    (by decide +kernel) (by decide +kernel) (by decide +kernel) (by decide +kernel)
  simp only [Finset.mem_insert, Finset.mem_singleton, forall_eq_or_imp, forall_eq]
  norm_num

/-- Another one. -/
theorem prime_orderFactor' : Nat.Prime 107361793816595537 := by
  refine @prime_of_prime_factors _ 2 {85831, 4681609} 57 (by decide) (by decide) ?_
    (by decide +kernel) (by decide +kernel) (by decide +kernel) (by decide +kernel)
  simp only [Finset.mem_insert, Finset.mem_singleton, forall_eq_or_imp, forall_eq]
  norm_num

theorem prime_order : order.Prime := by
  refine @prime_of_prime_factors _ 2 {174723607534414371449, 107361793816595537, 631, 149} 256
    (by decide) (by decide) ?_ (by decide +kernel) (by decide +kernel) (by decide +kernel)
    (by decide +kernel)
  simp only [Finset.mem_insert, Finset.mem_singleton, forall_eq_or_imp, forall_eq]
  exact ⟨prime_orderFactor, prime_orderFactor', by norm_num, by norm_num⟩

instance : Fact order.Prime := ⟨prime_order⟩

/-! ## Points and keys -/

/-- The discriminant does not vanish. -/
theorem curve_Δ_ne_zero : curve.toAffine.Δ ≠ 0 := by
  have hΔ : curve.toAffine.Δ = -((21168 : ℕ) : ZMod fieldPrime) := by
    simp only [WeierstrassCurve.Δ, WeierstrassCurve.b₂, WeierstrassCurve.b₄,
      WeierstrassCurve.b₆, WeierstrassCurve.b₈, curve]
    push_cast
    ring
  rw [hΔ, neg_ne_zero, Ne, BaseField.cast_eq_zero_iff (by decide)]
  decide

end Secp256k1

namespace PublicKey

open BaseField

variable {key : PublicKey}

/-- The coordinates of a valid key satisfy the equation of the curve. -/
theorem Valid.nonsingular (h : key.Valid) :
    curve.toAffine.Nonsingular (key.point.x : ZMod fieldPrime) key.point.y := by
  have hcurve := congrArg (Nat.cast (R := ZMod fieldPrime)) h.onCurve
  rw [curveRight, cast_square, cast_add, cast_mul, cast_square, Nat.cast_ofNat] at hcurve
  have hequation : curve.toAffine.Equation (key.point.x : ZMod fieldPrime) key.point.y := by
    rw [WeierstrassCurve.Affine.equation_iff]
    simp only [curve]
    linear_combination hcurve
  exact (WeierstrassCurve.Affine.equation_iff_nonsingular_of_Δ_ne_zero curve_Δ_ne_zero).1
    hequation

/-- The point of a valid key. -/
noncomputable def Valid.toPoint (h : key.Valid) : CurvePoint :=
  .some _ _ h.nonsingular

theorem Valid.represents (h : key.Valid) : key.point.Represents h.toPoint :=
  ⟨h.x_lt, h.y_lt, h.nonsingular, rfl⟩

/-- The coordinates of a point are those of a valid key. -/
theorem valid_of_represents {P : CurvePoint} (h : key.point.Represents P) : key.Valid := by
  obtain ⟨hpoint, -⟩ := h.exists_eq
  have hequation := (WeierstrassCurve.Affine.equation_iff _ _).1 hpoint.1
  simp only [curve] at hequation
  have hright : curveRight key.point.x < fieldPrime := Nat.mod_lt _ (by decide)
  refine ⟨h.x_lt, h.y_lt, ?_⟩
  rw [← cast_inj (square_lt _) hright, curveRight, cast_square, cast_add, cast_mul, cast_square,
    Nat.cast_ofNat]
  linear_combination hequation

/-- No point of the curve has the second coordinate zero : minus seven is no cube. -/
theorem Valid.y_ne_zero (h : key.Valid) : key.point.y ≠ 0 := by
  intro hy
  have hequation := (WeierstrassCurve.Affine.equation_iff _ _).1 h.nonsingular.1
  simp only [curve, hy, Nat.cast_zero] at hequation
  have hcube : (key.point.x : ZMod fieldPrime) ^ 3 = ((fieldPrime - 7 : ℕ) : ZMod fieldPrime) := by
    rw [Nat.cast_sub (by decide), ZMod.natCast_self, Nat.cast_ofNat]
    linear_combination -hequation
  have hx : (key.point.x : ZMod fieldPrime) ≠ 0 := by
    intro hzero
    rw [hzero, zero_pow (by decide), eq_comm, cast_eq_zero_iff (by decide)] at hcube
    exact absurd hcube (by decide)
  have hthird : fieldPrime - 1 = 3 * ((fieldPrime - 1) / 3) := by decide
  have hfermat := ZMod.pow_card_sub_one_eq_one hx
  rw [hthird, pow_mul, hcube] at hfermat
  have hpower : powMod fieldPrime (fieldPrime - 7) ((fieldPrime - 1) / 3) 256 = 1 := by
    have hlt : (fieldPrime - 7) ^ ((fieldPrime - 1) / 3) % fieldPrime < fieldPrime :=
      Nat.mod_lt _ (by decide)
    rw [powMod_eq (by decide) _ (by decide +kernel), ← cast_inj hlt (by decide), ZMod.natCast_mod,
      Nat.cast_pow, hfermat, Nat.cast_one]
  exact absurd hpower (by decide +kernel)

/-- The key that is read from a coordinate and a parity has both. -/
theorem coordinates_of_decompress? {odd : Bool} {x : ℕ} (h : decompress? odd x = some key) :
    key.point.x = x ∧ decide (key.point.y % 2 = 1) = odd := by
  have hy := (valid_of_decompress? h).y_ne_zero
  obtain ⟨-, h⟩ := Option.ite_none_right_eq_some.1 h
  split at h
  · next root hroot =>
    have hlt := (sqrt?_eq_some hroot).1
    cases h
    refine ⟨rfl, ?_⟩
    dsimp only at hy ⊢
    split at hy
    · next hparity => rw [if_pos hparity, hparity]
    · next hparity =>
      -- The negative of a root other than zero has the other parity, as the prime is odd.
      have hodd : fieldPrime % 2 = 1 := by decide
      have hpos : 0 < root := by
        refine Nat.pos_of_ne_zero fun hzero => hy ?_
        rw [hzero, sub, Nat.zero_add, Nat.sub_zero, Nat.mod_self]
      have hsub : sub 0 root = fieldPrime - root := by
        rw [sub, Nat.zero_add, Nat.mod_eq_of_lt (by omega)]
      have hflip : (fieldPrime - root) % 2 = 1 ↔ ¬ root % 2 = 1 := by omega
      rw [if_neg hparity, hsub, decide_eq_decide.2 hflip, decide_not]
      exact (Bool.eq_not_of_ne (Ne.symm hparity)).symm
  · cases h

/-- A key that is read from 33 bytes is written as these. -/
theorem compressed_of_ofBytes? {bytes : Bytes} (hlength : bytes.length = 33)
    (h : ofBytes? bytes = some key) : key.compressed = bytes := by
  obtain _ | ⟨form, rest⟩ := bytes
  · cases h
  · have hrest : rest.length = 32 := Nat.succ.inj hlength
    have hwrite : Bytes.ofNatBE 32 (Bytes.toNatBE rest) = rest := hrest ▸ Bytes.ofNatBE_toNatBE rest
    rw [ofBytes?, if_pos hrest] at h
    split_ifs at h with heven hodd
    · obtain ⟨hx, hy⟩ := coordinates_of_decompress? h
      rw [compressed, hx, hwrite, heven, if_neg (of_decide_eq_false hy)]
    · obtain ⟨hx, hy⟩ := coordinates_of_decompress? h
      rw [compressed, hx, hwrite, hodd, if_pos (of_decide_eq_true hy)]

end PublicKey

namespace Secp256k1

/-! ## The base point -/

/-- The base point. -/
noncomputable def basePoint : CurvePoint :=
  valid_generator.toPoint

theorem represents_basePoint : generator.Represents basePoint :=
  valid_generator.represents

theorem order_nsmul_basePoint : order • basePoint = 0 := by
  have hz : ((Jacobian.ofAffine generator).scale order 256).z = 0 := by decide +kernel
  have hbits : order < 2 ^ 256 := by decide
  have hvalid := represents_basePoint.valid
  rw [← represents_basePoint.toPoint, ← Jacobian.toPoint_scale hvalid hbits]
  exact WeierstrassCurve.Jacobian.Point.toAffine_of_Z_eq_zero
    ((hvalid.scale order 256).coords_z_eq_zero_iff.2 hz)

theorem addOrderOf_basePoint : addOrderOf basePoint = order :=
  addOrderOf_eq_prime order_nsmul_basePoint represents_basePoint.ne_zero

/-- No multiple of the base point by a scalar below its order is at infinity. -/
theorem nsmul_basePoint_ne_zero {n : ℕ} (hpos : 0 < n) (hlt : n < order) : n • basePoint ≠ 0 := by
  rw [Ne, ← addOrderOf_dvd_iff_nsmul_eq_zero, addOrderOf_basePoint]
  exact Nat.not_dvd_of_pos_of_lt hpos hlt

end Secp256k1

/-! ## Key pairs -/

namespace SecretKey

variable (key other : SecretKey)

theorem scalar_lt : key.scalar < 2 ^ 256 :=
  key.lt_order.trans (by decide)

/-- The public key is the multiple of the base point by the secret scalar. -/
theorem represents_publicKey : key.publicKey.point.Represents (key.scalar • basePoint) := by
  have hne := nsmul_basePoint_ne_zero key.pos key.lt_order
  obtain ⟨p, hp, hrepresents⟩ := represents_basePoint.scale? key.scalar_lt hne
  rw [publicKey, hp]
  exact hrepresents

theorem valid_publicKey : key.publicKey.Valid :=
  PublicKey.valid_of_represents key.represents_publicKey

/-- The product of two secret scalars does not take the base point to infinity. -/
theorem mul_nsmul_basePoint_ne_zero : (key.scalar * other.scalar) • basePoint ≠ 0 := by
  rw [Ne, ← addOrderOf_dvd_iff_nsmul_eq_zero, addOrderOf_basePoint, prime_order.dvd_mul]
  exact not_or.2 ⟨Nat.not_dvd_of_pos_of_lt key.pos key.lt_order,
    Nat.not_dvd_of_pos_of_lt other.pos other.lt_order⟩

/-- The point that two key pairs have in common, from one of them and the public key of the
other. -/
theorem exists_scale?_publicKey : ∃ p, other.publicKey.point.scale? key.scalar = some p ∧
    p.Represents ((key.scalar * other.scalar) • basePoint) := by
  have hne := key.mul_nsmul_basePoint_ne_zero other
  rw [mul_nsmul'] at hne ⊢
  exact other.represents_publicKey.scale? key.scalar_lt hne

end SecretKey

/-- Two key pairs share one secret, whichever of the two computes it. -/
theorem sharedSecret_comm (key other : SecretKey) :
    sharedSecret key.publicKey other = sharedSecret other.publicKey key := by
  obtain ⟨p, hp, hpoint⟩ := other.exists_scale?_publicKey key
  obtain ⟨q, hq, hpoint'⟩ := key.exists_scale?_publicKey other
  rw [mul_comm] at hpoint'
  obtain rfl := hpoint.eq hpoint'
  rw [sharedSecret, sharedSecret, hp, hq, Option.getD_some, Option.getD_some]

end LiquidityClient
