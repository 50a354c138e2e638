import LiquidityClient.Envelope
import LiquidityClient.Proofs.FieldPrime

/-!
# Public keys as bytes

Every public key that is read is a point of the curve with reduced coordinates (`PublicKey.Valid`,
`valid_of_ofBytes?`), whichever form it has. Its compressed form is read back as the key
(`ofBytes?_compressed`), so that it determines the key (`compressed_inj`) : of the two square roots
that give a point with the first coordinate, one is odd and the other even.
-/

namespace LiquidityClient

open Secp256k1

namespace Secp256k1.BaseField

variable {y z : ℕ}

theorem square_eq_square_iff : square y = square z ↔ (y : ZMod fieldPrime) ^ 2 = z ^ 2 := by
  rw [square, square, ← Nat.ModEq, ← ZMod.natCast_eq_natCast_iff, Nat.cast_mul, Nat.cast_mul,
    sq, sq]

/-- Two roots of one square are the same or add up to the prime. -/
theorem eq_or_add_eq_of_square_eq (hy : y < fieldPrime) (hz : z < fieldPrime)
    (h : square y = square z) : y = z ∨ y + z = fieldPrime := by
  rcases sq_eq_sq_iff_eq_or_eq_neg.1 (square_eq_square_iff.1 h) with heq | hneg
  · exact Or.inl (Nat.ModEq.eq_of_lt_of_lt ((ZMod.natCast_eq_natCast_iff _ _ _).1 heq) hy hz)
  · have hsum : ((y + z : ℕ) : ZMod fieldPrime) = 0 := by rw [Nat.cast_add, hneg, neg_add_cancel]
    obtain ⟨k, hk⟩ := (ZMod.natCast_eq_zero_iff _ _).1 hsum
    have hk2 : k < 2 := by
      by_contra hge
      have := Nat.mul_le_mul_left fieldPrime (Nat.le_of_not_lt hge)
      omega
    interval_cases k <;> omega

/-- The negative of a root is a root. -/
theorem square_sub (hy : y < fieldPrime) : square (sub 0 y) = square y := by
  have hneg : ((sub 0 y : ℕ) : ZMod fieldPrime) = -y := by
    rw [sub, ZMod.natCast_mod, Nat.zero_add, Nat.cast_sub hy.le, ZMod.natCast_self, zero_sub]
  rw [square_eq_square_iff, hneg, neg_sq]

theorem sqrt?_eq_some {a root : ℕ} (h : sqrt? a = some root) :
    root < fieldPrime ∧ square root = a := by
  obtain ⟨hsquare, hroot⟩ := Option.ite_none_right_eq_some.1 h
  cases hroot
  refine ⟨?_, hsquare⟩
  rw [powMod_eq (by decide) _ (by decide +kernel)]
  exact Nat.mod_lt _ (by decide)

/-- A square has a root : the prime is 3 modulo 4. -/
theorem exists_sqrt?_square (y : ℕ) : ∃ root, sqrt? (square y) = some root := by
  have hroot : square (powMod fieldPrime (square y) ((fieldPrime + 1) / 4) 256) = square y := by
    have hpower : 2 * ((fieldPrime + 1) / 4 * 2) = fieldPrime + 1 := by decide +kernel
    rw [square_eq_square_iff, powMod_eq (by decide) _ (by decide +kernel), ZMod.natCast_mod,
      Nat.cast_pow, square, ZMod.natCast_mod, Nat.cast_mul, ← sq, ← pow_mul, ← pow_mul, hpower,
      pow_succ, ZMod.pow_card, ← sq]
  exact ⟨_, if_pos hroot⟩

end Secp256k1.BaseField

namespace PublicKey

open BaseField

variable {key : PublicKey}

/-- The point is one of the curve, with reduced coordinates. -/
structure Valid (key : PublicKey) : Prop where
  x_lt : key.point.x < fieldPrime
  y_lt : key.point.y < fieldPrime
  onCurve : square key.point.y = curveRight key.point.x

theorem valid_of_decompress? {odd : Bool} {x : ℕ} (h : decompress? odd x = some key) :
    key.Valid := by
  unfold decompress? at h
  split_ifs at h with hx
  split at h
  · next y hroot =>
    obtain ⟨hy, hcurve⟩ := sqrt?_eq_some hroot
    cases h
    refine ⟨hx, ?_, ?_⟩ <;> dsimp only <;> split_ifs
    · exact hy
    · exact Nat.mod_lt _ (by decide)
    · exact hcurve
    · exact (square_sub hy).trans hcurve
  · cases h

theorem valid_of_ofBytes? {bytes : Bytes} (h : ofBytes? bytes = some key) : key.Valid := by
  unfold ofBytes? at h
  split at h
  · cases h
  · split_ifs at h
    · exact valid_of_decompress? h
    · exact valid_of_decompress? h
    · obtain ⟨hpoint, hkey⟩ := Option.ite_none_right_eq_some.1 h
      cases hkey
      exact ⟨hpoint.1, hpoint.2.1, by simpa [Affine.onCurve] using hpoint.2.2.1⟩

theorem valid_of_parse {bytes : Bytes} (h : parsePublicKey bytes = .ok key) : key.Valid := by
  unfold parsePublicKey at h
  split at h
  · next hread =>
    cases h
    exact valid_of_ofBytes? hread
  · cases h

/-- The first coordinate and the parity of the second give the key. -/
theorem Valid.decompress? (h : key.Valid) :
    decompress? (decide (key.point.y % 2 = 1)) key.point.x = some key := by
  obtain ⟨root, hsqrt⟩ := exists_sqrt?_square key.point.y
  obtain ⟨hlt, hsquare⟩ := sqrt?_eq_some hsqrt
  rw [PublicKey.decompress?, if_pos h.x_lt, ← h.onCurve, hsqrt]
  have hodd : fieldPrime % 2 = 1 := by decide
  have hy : (if decide (root % 2 = 1) = decide (key.point.y % 2 = 1) then root
      else BaseField.sub 0 root) = key.point.y := by
    have hroots := eq_or_add_eq_of_square_eq hlt h.y_lt hsquare
    have hsub : BaseField.sub 0 root = (fieldPrime - root) % fieldPrime := by
      rw [BaseField.sub, Nat.zero_add]
    have := h.y_lt
    split_ifs with hparity
    · rw [decide_eq_decide] at hparity
      omega
    · rw [decide_eq_decide] at hparity
      rw [hsub, Nat.mod_eq_of_lt] <;> omega
  change some (PublicKey.mk ⟨key.point.x, ite _ _ _⟩) = some key
  rw [hy]

/-- A key is read back from its compressed form. -/
theorem Valid.ofBytes?_compressed (h : key.Valid) : ofBytes? key.compressed = some key := by
  have hx : Bytes.toNatBE (Bytes.ofNatBE 32 key.point.x) = key.point.x :=
    Bytes.toNatBE_ofNatBE (h.x_lt.trans (by decide))
  have hkey := h.decompress?
  rw [compressed, ofBytes?, if_pos (Bytes.length_ofNatBE _ _), hx]
  by_cases hparity : key.point.y % 2 = 1
  · rw [if_pos hparity, if_neg (by decide), if_pos rfl]
    simpa [hparity] using hkey
  · rw [if_neg hparity, if_pos rfl]
    simpa [hparity] using hkey

/-- The compressed form determines the key. -/
theorem compressed_inj {key' : PublicKey} (h : key.Valid) (h' : key'.Valid) :
    key.compressed = key'.compressed ↔ key = key' := by
  refine ⟨fun heq => ?_, fun heq => heq ▸ rfl⟩
  have hread := h.ofBytes?_compressed
  rw [heq, h'.ofBytes?_compressed] at hread
  exact (Option.some.inj hread).symm

end PublicKey

theorem Secp256k1.valid_generator : PublicKey.Valid ⟨generator⟩ :=
  ⟨by decide, by decide, by decide +kernel⟩

end LiquidityClient
