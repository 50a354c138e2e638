import LiquidityClient.Proofs.FieldPrime
import Mathlib.AlgebraicGeometry.EllipticCurve.Jacobian.Point

/-!
# The group of the curve

The arithmetic on Jacobian coordinates is that of the group of the curve `y² = x³ + 7` over the
coordinate field : doubling and adding go along with the addition of points (`toPoint_double`,
`toPoint_add`), so that `scale` is a multiple (`toPoint_scale`). A point other than infinity has one
pair of reduced coordinates (`Affine.Represents.eq`), which is what `scale?` gives
(`Affine.Represents.scale?`).
-/

namespace LiquidityClient.Secp256k1

/-! ## Residues as elements of the field -/

namespace BaseField

theorem cast_add (a b : ℕ) : (add a b : ZMod fieldPrime) = a + b := by
  rw [add, ZMod.natCast_mod, Nat.cast_add]

theorem cast_mul (a b : ℕ) : (mul a b : ZMod fieldPrime) = a * b := by
  rw [mul, ZMod.natCast_mod, Nat.cast_mul]

theorem cast_square (a : ℕ) : (square a : ZMod fieldPrime) = a ^ 2 := by
  rw [square, ZMod.natCast_mod, Nat.cast_mul, sq]

theorem cast_sub (a : ℕ) {b : ℕ} (hb : b < fieldPrime) : (sub a b : ZMod fieldPrime) = a - b := by
  have hle : b ≤ a + fieldPrime := by omega
  rw [sub, ZMod.natCast_mod, Nat.cast_sub hle, Nat.cast_add, ZMod.natCast_self, add_zero]

theorem mul_lt (a b : ℕ) : mul a b < fieldPrime :=
  Nat.mod_lt _ (by decide)

theorem square_lt (a : ℕ) : square a < fieldPrime :=
  Nat.mod_lt _ (by decide)

theorem sub_lt (a b : ℕ) : sub a b < fieldPrime :=
  Nat.mod_lt _ (by decide)

theorem cast_inj {a b : ℕ} (ha : a < fieldPrime) (hb : b < fieldPrime) :
    (a : ZMod fieldPrime) = b ↔ a = b := by
  rw [ZMod.natCast_eq_natCast_iff]
  exact ⟨fun h => Nat.ModEq.eq_of_lt_of_lt h ha hb, fun h => h ▸ rfl⟩

theorem cast_eq_zero_iff {a : ℕ} (ha : a < fieldPrime) : (a : ZMod fieldPrime) = 0 ↔ a = 0 := by
  rw [← Nat.cast_zero, cast_inj ha (by decide)]

/-- A difference vanishes exactly between equal residues. -/
theorem sub_eq_zero_iff (a : ℕ) {b : ℕ} (hb : b < fieldPrime) :
    sub a b = 0 ↔ (a : ZMod fieldPrime) = b := by
  rw [← cast_eq_zero_iff (sub_lt a b), cast_sub a hb, sub_eq_zero]

/-- By Fermat's little theorem the power is the inverse. -/
theorem cast_inverseMod {a : ℕ} (ha : (a : ZMod fieldPrime) ≠ 0) :
    (inverseMod fieldPrime a : ZMod fieldPrime) = (a : ZMod fieldPrime)⁻¹ := by
  have hpower : fieldPrime - 2 + 1 = fieldPrime - 1 := by decide
  rw [inverseMod, powMod_eq (by decide) _ (by decide +kernel), ZMod.natCast_mod, Nat.cast_pow]
  apply eq_inv_of_mul_eq_one_left
  rw [← pow_succ, hpower, ZMod.pow_card_sub_one_eq_one ha]

end BaseField

/-- The curve `y² = x³ + 7` over the coordinate field. -/
def curve : WeierstrassCurve (ZMod fieldPrime) := ⟨0, 0, 0, 0, 7⟩

/-- The points of the curve, infinity among them. -/
abbrev CurvePoint := curve.toAffine.Point

/-! ## Jacobian coordinates -/

namespace Jacobian

open BaseField WeierstrassCurve.Jacobian

/-- The coordinates as elements of the field. -/
def coords (p : Jacobian) : Fin 3 → ZMod fieldPrime := ![p.x, p.y, p.z]

/-- The coordinates are those of a point of the curve, with a reduced `z`. -/
structure Valid (p : Jacobian) : Prop where
  z_lt : p.z < fieldPrime
  nonsingular : curve.toJacobian.Nonsingular p.coords

/-- The point that the coordinates stand for. -/
noncomputable def toPoint (p : Jacobian) : CurvePoint :=
  Point.toAffine curve p.coords

variable {p q : Jacobian}

theorem triple_eq {x y z x' y' z' : ZMod fieldPrime} (hx : x = x') (hy : y = y') (hz : z = z') :
    ![x, y, z] = ![x', y', z'] := by
  rw [hx, hy, hz]

theorem Valid.coords_z_eq_zero_iff (hp : p.Valid) : p.coords 2 = 0 ↔ p.z = 0 :=
  cast_eq_zero_iff hp.z_lt

theorem coords_infinity : infinity.coords = ![1, 1, 0] := by
  simp [infinity, coords]

theorem valid_infinity : infinity.Valid := by
  refine ⟨by decide, ?_⟩
  rw [coords_infinity]
  exact nonsingular_zero

theorem toPoint_infinity : infinity.toPoint = 0 := by
  rw [toPoint, coords_infinity, Point.toAffine_zero]

/-- The formulas for the double are those of the curve. -/
theorem coords_double (hz : p.z ≠ 0) : p.double.coords = dblXYZ curve p.coords := by
  rw [dblXYZ, coords]
  simp only [double, if_neg hz, cast_mul, cast_square, cast_add, cast_sub _ (mul_lt _ _),
    cast_sub _ (sub_lt _ _), cast_sub _ (square_lt _), Nat.cast_ofNat]
  refine triple_eq ?_ ?_ ?_
  · simp only [dblX, dblU_eq, negY, coords, curve, Matrix.cons_val]
    ring
  · simp only [dblY, negDblY, dblX, dblZ, dblU_eq, negY, coords, curve, Matrix.cons_val]
    ring
  · simp only [dblZ, negY, coords, curve, Matrix.cons_val]
    ring

theorem coords_double_equiv (hp : p.Valid) :
    p.double.coords ≈ curve.toJacobian.add p.coords p.coords := by
  rw [add_self]
  by_cases hz : p.z = 0
  · have hzero := hp.coords_z_eq_zero_iff.2 hz
    have hunit := isUnit_X_of_Z_eq_zero hp.nonsingular hzero
    rw [double, if_pos hz, coords_infinity, dblXYZ_of_Z_eq_zero hp.nonsingular.1 hzero]
    exact Setoid.symm (smul_equiv _ (hunit.pow 2))
  · rw [coords_double hz]

/-- The formulas for the sum of points with different first coordinates are those of the curve, up
to a factor. -/
theorem coords_add (hp : p.Valid) (hq : q.Valid) (hpz : p.z ≠ 0) (hqz : q.z ≠ 0)
    (hx : sub (mul q.x (square p.z)) (mul p.x (square q.z)) ≠ 0) :
    (p.add q).coords = (-(p.z * q.z : ZMod fieldPrime)) • addXYZ curve p.coords q.coords := by
  have hX := addX_eq' hp.nonsingular.1 hq.nonsingular.1
  have hY := @negAddY_eq' _ _ curve p.coords q.coords
  have hZ : addZ p.coords q.coords = p.x * q.z ^ 2 - q.x * p.z ^ 2 := rfl
  rw [hX, hZ] at hY
  rw [hZ] at hX
  simp only [coords, curve, Matrix.cons_val, zero_mul, sub_zero, add_zero] at hX hY
  rw [smul_fin3, addXYZ_X, addXYZ_Y, addXYZ_Z, addY, negY_eq, hZ]
  simp only [coords, curve, add, if_neg hpz, if_neg hqz, if_neg hx, cast_mul, cast_square,
    cast_sub _ (mul_lt _ _), cast_sub _ (sub_lt _ _), Nat.cast_ofNat, zero_mul, sub_zero]
  refine triple_eq ?_ ?_ ?_
  · linear_combination -hX
  · linear_combination -hY
  · ring

/-- Two points other than infinity have the same first coordinate exactly if the difference that
adding looks at vanishes. -/
theorem x_eq_iff : sub (mul q.x (square p.z)) (mul p.x (square q.z)) = 0 ↔
    p.coords 0 * q.coords 2 ^ 2 = q.coords 0 * p.coords 2 ^ 2 := by
  rw [sub_eq_zero_iff _ (mul_lt _ _), cast_mul, cast_mul, cast_square, cast_square]
  exact eq_comm

theorem y_eq_iff : sub (mul q.y (mul (square p.z) p.z)) (mul p.y (mul (square q.z) q.z)) = 0 ↔
    p.coords 1 * q.coords 2 ^ 3 = q.coords 1 * p.coords 2 ^ 3 := by
  rw [sub_eq_zero_iff _ (mul_lt _ _), cast_mul, cast_mul, cast_mul, cast_mul, cast_square,
    cast_square, ← pow_succ, ← pow_succ]
  exact eq_comm

/-- The sum of two points other than infinity. -/
theorem coords_add_equiv_of_ne_zero (hp : p.Valid) (hq : q.Valid) (hpz : p.z ≠ 0)
    (hqz : q.z ≠ 0) : (p.add q).coords ≈ curve.toJacobian.add p.coords q.coords := by
  have hp0 := mt hp.coords_z_eq_zero_iff.1 hpz
  have hq0 := mt hq.coords_z_eq_zero_iff.1 hqz
  -- with one first coordinate the points are the same or opposite
  by_cases hx : sub (mul q.x (square p.z)) (mul p.x (square q.z)) = 0
  · by_cases hy : sub (mul q.y (mul (square p.z) p.z)) (mul p.y (mul (square q.z) q.z)) = 0
    · have hadd : p.add q = p.double := by
        simp only [add, if_neg hpz, if_neg hqz, if_pos hx, if_pos hy]
      have hsame := equiv_of_X_eq_of_Y_eq hp0 hq0 (x_eq_iff.1 hx) (y_eq_iff.1 hy)
      rw [hadd, add_of_equiv hsame, coords_double hpz]
    · have hadd : p.add q = infinity := by
        simp only [add, if_neg hpz, if_neg hqz, if_pos hx, if_neg hy]
      have hopposite := mt y_eq_iff.2 hy
      rw [hadd, coords_infinity,
        add_of_Y_ne hp.nonsingular.1 hq.nonsingular.1 hp0 hq0 (x_eq_iff.1 hx) hopposite]
      exact Setoid.symm (smul_equiv _ (isUnit_addU_of_Y_ne hp0 hq0 hopposite))
  · have hunit : IsUnit (-(p.z * q.z : ZMod fieldPrime)) :=
      ((Ne.isUnit hp0).mul (Ne.isUnit hq0)).neg
    rw [coords_add hp hq hpz hqz hx, add_of_not_equiv (not_equiv_of_X_ne (mt x_eq_iff.2 hx))]
    exact smul_equiv _ hunit

theorem coords_add_equiv (hp : p.Valid) (hq : q.Valid) :
    (p.add q).coords ≈ curve.toJacobian.add p.coords q.coords := by
  by_cases hpz : p.z = 0
  · have hp0 := hp.coords_z_eq_zero_iff.2 hpz
    have hunit := isUnit_X_of_Z_eq_zero hp.nonsingular hp0
    rw [add, if_pos hpz]
    by_cases hqz : q.z = 0
    · have hq0 := hq.coords_z_eq_zero_iff.2 hqz
      rw [add_of_Z_eq_zero hp.nonsingular hq.nonsingular hp0 hq0]
      exact Setoid.trans (equiv_zero_of_Z_eq_zero hq.nonsingular hq0)
        (Setoid.symm (smul_equiv _ (hunit.pow 2)))
    · have hq0 := mt hq.coords_z_eq_zero_iff.1 hqz
      rw [add_of_Z_eq_zero_left hp.nonsingular.1 hp0 hq0]
      exact Setoid.symm (smul_equiv _ (hunit.mul (Ne.isUnit hq0)))
  by_cases hqz : q.z = 0
  · have hp0 := mt hp.coords_z_eq_zero_iff.1 hpz
    have hq0 := hq.coords_z_eq_zero_iff.2 hqz
    have hunit := isUnit_X_of_Z_eq_zero hq.nonsingular hq0
    rw [add, if_neg hpz, if_pos hqz, add_of_Z_eq_zero_right hq.nonsingular.1 hp0 hq0]
    exact Setoid.symm (smul_equiv _ (hunit.mul (Ne.isUnit hp0)).neg)
  · exact coords_add_equiv_of_ne_zero hp hq hpz hqz

theorem double_z_lt (p : Jacobian) : p.double.z < fieldPrime := by
  unfold double
  split_ifs
  · decide
  · exact mul_lt _ _

theorem Valid.double (hp : p.Valid) : p.double.Valid := by
  refine ⟨double_z_lt p, ?_⟩
  rw [nonsingular_of_equiv (coords_double_equiv hp)]
  exact nonsingular_add hp.nonsingular hp.nonsingular

theorem toPoint_double (hp : p.Valid) : p.double.toPoint = p.toPoint + p.toPoint := by
  rw [toPoint, Point.toAffine_of_equiv (coords_double_equiv hp),
    Point.toAffine_add hp.nonsingular hp.nonsingular]
  rfl

theorem add_z_lt (hp : p.Valid) (hq : q.Valid) : (p.add q).z < fieldPrime := by
  unfold add
  dsimp only
  split
  · exact hq.z_lt
  · split
    · exact hp.z_lt
    · split
      · split
        · exact double_z_lt p
        · exact valid_infinity.z_lt
      · exact mul_lt _ _

theorem Valid.add (hp : p.Valid) (hq : q.Valid) : (p.add q).Valid := by
  refine ⟨add_z_lt hp hq, ?_⟩
  rw [nonsingular_of_equiv (coords_add_equiv hp hq)]
  exact nonsingular_add hp.nonsingular hq.nonsingular

theorem toPoint_add (hp : p.Valid) (hq : q.Valid) :
    (p.add q).toPoint = p.toPoint + q.toPoint := by
  rw [toPoint, Point.toAffine_of_equiv (coords_add_equiv hp hq),
    Point.toAffine_add hp.nonsingular hq.nonsingular]
  rfl

theorem Valid.scale (hp : p.Valid) (n bits : ℕ) : (p.scale n bits).Valid := by
  induction bits generalizing n with
  | zero => exact valid_infinity
  | succ bits ih =>
    unfold Jacobian.scale
    dsimp only
    split_ifs
    · exact (ih _).double.add hp
    · exact (ih _).double

/-- Doubling and adding along the bits of a scalar gives the multiple, if it has no more bits than
are looked at. -/
theorem toPoint_scale (hp : p.Valid) {n bits : ℕ} (hn : n < 2 ^ bits) :
    (p.scale n bits).toPoint = n • p.toPoint := by
  induction bits generalizing n with
  | zero =>
    obtain rfl : n = 0 := by simpa using hn
    rw [scale, toPoint_infinity, zero_nsmul]
  | succ bits ih =>
    have hhalf : n / 2 < 2 ^ bits := by rw [pow_succ] at hn; omega
    have hvalid := hp.scale (n / 2) bits
    have htwice : (p.scale (n / 2) bits).double.toPoint = (2 * (n / 2)) • p.toPoint := by
      rw [toPoint_double hvalid, ih hhalf, ← add_nsmul, two_mul]
    unfold scale
    dsimp only
    split_ifs with hodd
    · rw [toPoint_add hvalid.double hp, htwice, ← succ_nsmul]
      congr 1
      omega
    · rw [htwice]
      congr 1
      omega

end Jacobian

/-! ## Points of the plane -/

namespace Affine

open BaseField

/-- The pair holds the reduced coordinates of the point. -/
structure Represents (a : Affine) (P : CurvePoint) : Prop where
  x_lt : a.x < fieldPrime
  y_lt : a.y < fieldPrime
  exists_eq : ∃ h, P = .some (a.x : ZMod fieldPrime) (a.y : ZMod fieldPrime) h

variable {a b : Affine} {P : CurvePoint}

/-- A point has only one pair of reduced coordinates. -/
theorem Represents.eq (ha : a.Represents P) (hb : b.Represents P) : a = b := by
  obtain ⟨hx, rfl⟩ := ha.exists_eq
  obtain ⟨hy, heq⟩ := hb.exists_eq
  rw [WeierstrassCurve.Affine.Point.some.injEq, cast_inj ha.x_lt hb.x_lt,
    cast_inj ha.y_lt hb.y_lt] at heq
  rcases a with ⟨x, y⟩
  rcases b with ⟨x', y'⟩
  exact congrArg₂ Affine.mk heq.1 heq.2

theorem Represents.ne_zero (ha : a.Represents P) : P ≠ 0 := by
  obtain ⟨h, rfl⟩ := ha.exists_eq
  exact WeierstrassCurve.Affine.Point.some_ne_zero h

theorem Represents.valid (ha : a.Represents P) : (Jacobian.ofAffine a).Valid := by
  obtain ⟨h, -⟩ := ha.exists_eq
  have hone : 1 < fieldPrime := by decide
  refine ⟨hone, ?_⟩
  rw [Jacobian.coords, Jacobian.ofAffine, Nat.cast_one]
  exact (WeierstrassCurve.Jacobian.nonsingular_some _ _).2 h

theorem Represents.toPoint (ha : a.Represents P) : (Jacobian.ofAffine a).toPoint = P := by
  obtain ⟨h, rfl⟩ := ha.exists_eq
  rw [Jacobian.toPoint, Jacobian.coords, Jacobian.ofAffine, Nat.cast_one]
  exact WeierstrassCurve.Jacobian.Point.toAffine_some
    ((WeierstrassCurve.Jacobian.nonsingular_some _ _).2 h)

end Affine

namespace Jacobian

open BaseField

variable {p : Jacobian}

/-- The coordinates divided by the powers of `z` are those of the point. -/
theorem Valid.exists_toAffine? (hp : p.Valid) (hne : p.toPoint ≠ 0) :
    ∃ a, p.toAffine? = some a ∧ a.Represents p.toPoint := by
  have hz0 : p.coords 2 ≠ 0 := by
    intro hz
    exact hne (WeierstrassCurve.Jacobian.Point.toAffine_of_Z_eq_zero hz)
  have hz : p.z ≠ 0 := mt hp.coords_z_eq_zero_iff.2 hz0
  have hinverse := cast_inverseMod hz0
  refine ⟨_, if_neg hz, mul_lt _ _, mul_lt _ _, ?_⟩
  have hx : (mul p.x (square (inverseMod fieldPrime p.z)) : ZMod fieldPrime) =
      p.coords 0 / p.coords 2 ^ 2 := by
    rw [cast_mul, cast_square, hinverse, inv_pow, div_eq_mul_inv]
    rfl
  have hy : (mul p.y (mul (square (inverseMod fieldPrime p.z)) (inverseMod fieldPrime p.z)) :
      ZMod fieldPrime) = p.coords 1 / p.coords 2 ^ 3 := by
    rw [cast_mul, cast_mul, cast_square, hinverse, ← pow_succ, inv_pow, div_eq_mul_inv]
    rfl
  have hpoint := WeierstrassCurve.Jacobian.Point.toAffine_of_Z_ne_zero hp.nonsingular hz0
  have hcurve := (WeierstrassCurve.Jacobian.nonsingular_of_Z_ne_zero hz0).1 hp.nonsingular
  rw [← hx, ← hy] at hcurve
  refine ⟨hcurve, hpoint.trans ?_⟩
  simp only [← hx, ← hy]

end Jacobian

namespace Affine

variable {a : Affine} {P : CurvePoint}

/-- A multiple other than infinity has the coordinates that `scale?` gives. -/
theorem Represents.scale? (ha : a.Represents P) {n : ℕ} (hn : n < 2 ^ 256) (hne : n • P ≠ 0) :
    ∃ b, a.scale? n = some b ∧ b.Represents (n • P) := by
  have hvalid := ha.valid.scale n 256
  have hpoint := Jacobian.toPoint_scale ha.valid hn
  rw [ha.toPoint] at hpoint
  rw [← hpoint] at hne
  obtain ⟨b, hb, hrepresents⟩ := hvalid.exists_toAffine? hne
  exact ⟨b, hb, hpoint ▸ hrepresents⟩

end Affine

end LiquidityClient.Secp256k1
