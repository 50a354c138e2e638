import LiquidityClient.Proofs.RegisteredAmounts

/-!
# The service fee in closed form

The service fee is computed in three steps that each round : the permyriad share of the amount in
millisatoshis, the greater of it and the minimum, and the satoshis of that. Where terms and amount
are not negative and the product of the first step has 128 bits (`Chargeable`), nothing overflows on
the way and the roundings collapse : the fee is the greater of the permyriad share and the minimum,
each rounded down to whole satoshis once, and at most the largest amount there is
(`toInt_serviceFeeSat`). So it never drops when the amount, the permyriad or the minimum grows
(`serviceFeeSat_law`).
-/

namespace LiquidityClient

namespace Terms

variable {terms terms' : Terms} {amountSat amountSat' : Int64}

/-! ## Whole satoshis -/

/-- The permyriad share of an amount, rounded to millisatoshis and then to satoshis, is rounded down
once. -/
theorem share_ediv_thousand (amount permyriad : Int) :
    amount * 1000 * permyriad / 10000 / 1000 = amount * permyriad / 10000 := by
  have hfactor : amount * 1000 * permyriad = amount * permyriad * 1000 := by
    rw [Int.mul_assoc, Int.mul_comm 1000 permyriad, ← Int.mul_assoc]
  calc amount * 1000 * permyriad / 10000 / 1000
      = amount * permyriad * 1000 / (10000 * 1000) := by
        rw [Int.ediv_ediv_of_nonneg (by decide), hfactor]
    _ = amount * permyriad / 10000 := Int.mul_ediv_mul_of_pos_left _ _ (by decide)

/-- The greater of two fees is rounded as each of them is. -/
theorem max_ediv_thousand (a b : Int) : max a b / 1000 = max (a / 1000) (b / 1000) := by
  omega

/-! ## Terms and amounts without overflow -/

/-- The terms charge nothing negative for the amount, and its share in millisatoshis, before the
division, has 128 bits. -/
structure Chargeable (terms : Terms) (amountSat : Int64) : Prop where
  feePermyriad_nonneg : 0 ≤ terms.feePermyriad.toInt
  minimumFeeMsat_nonneg : 0 ≤ terms.minimumFeeMsat.toInt
  amountSat_nonneg : 0 ≤ amountSat.toInt
  product_lt : amountSat.toInt * 1000 * terms.feePermyriad.toInt < 2 ^ 127

/-- What the terms charge for the amount in whole satoshis, however much that is. -/
def exactFeeSat (terms : Terms) (amountSat : Int64) : Int :=
  max (amountSat.toInt * terms.feePermyriad.toInt / 10000) (terms.minimumFeeMsat.toInt / 1000)

theorem Chargeable.product_nonneg (h : terms.Chargeable amountSat) :
    0 ≤ amountSat.toInt * 1000 * terms.feePermyriad.toInt :=
  Int.mul_nonneg (Int.mul_nonneg h.amountSat_nonneg (by decide)) h.feePermyriad_nonneg

theorem Chargeable.bmod_product (h : terms.Chargeable amountSat) :
    (amountSat.toInt * 1000 * terms.feePermyriad.toInt).bmod Word.size128 =
      amountSat.toInt * 1000 * terms.feePermyriad.toInt := by
  have hnonneg := h.product_nonneg
  have hlt := h.product_lt
  unfold Word.size128
  exact Int.bmod_eq_of_le (by omega) (by omega)

/-- The three roundings are those of the exact fee. -/
theorem Chargeable.tdiv_eq_exactFeeSat (h : terms.Chargeable amountSat) :
    (max ((amountSat.toInt * 1000 * terms.feePermyriad.toInt).tdiv 10000)
      terms.minimumFeeMsat.toInt).tdiv 1000 = terms.exactFeeSat amountSat := by
  rw [Int.tdiv_eq_ediv_of_nonneg h.product_nonneg,
    Int.tdiv_eq_ediv_of_nonneg (le_max_of_le_right h.minimumFeeMsat_nonneg), max_ediv_thousand,
    share_ediv_thousand, exactFeeSat]

theorem Chargeable.exactFeeSat_nonneg (h : terms.Chargeable amountSat) :
    0 ≤ terms.exactFeeSat amountSat :=
  le_max_of_le_right (Int.ediv_nonneg h.minimumFeeMsat_nonneg (by decide))

theorem Chargeable.exactFeeSat_mono (h : terms.Chargeable amountSat)
    (h' : terms'.Chargeable amountSat') (hamount : amountSat ≤ amountSat')
    (hpermyriad : terms.feePermyriad ≤ terms'.feePermyriad)
    (hminimum : terms.minimumFeeMsat ≤ terms'.minimumFeeMsat) :
    terms.exactFeeSat amountSat ≤ terms'.exactFeeSat amountSat' := by
  have hproduct : amountSat.toInt * terms.feePermyriad.toInt ≤
      amountSat'.toInt * terms'.feePermyriad.toInt :=
    Int.mul_le_mul (Int64.le_iff_toInt_le.1 hamount) (Int64.le_iff_toInt_le.1 hpermyriad)
      h.feePermyriad_nonneg h'.amountSat_nonneg
  exact max_le_max (Int.ediv_le_ediv (by decide) hproduct)
    (Int.ediv_le_ediv (by decide) (Int64.le_iff_toInt_le.1 hminimum))

/-! ## The fee -/

/-- The fee is the exact one, held to the largest amount. -/
theorem Chargeable.toInt_serviceFeeSat (h : terms.Chargeable amountSat) :
    (terms.serviceFeeSat amountSat).toInt = min (2 ^ 63 - 1) (terms.exactFeeSat amountSat) := by
  have hnonneg := h.exactFeeSat_nonneg
  unfold serviceFeeSat
  simp only [h.bmod_product, h.tdiv_eq_exactFeeSat]
  split_ifs with hfits
  · rw [Int64.toInt_ofInt_of_le hfits.1 hfits.2]
    omega
  · have hlargest : Int64.maxValue.toInt = 2 ^ 63 - 1 := by decide
    simp only [Word.IsInt64] at hfits
    omega

/-- The service fee, where nothing is negative and the share has 128 bits : its closed form, which
neither falls below the whole satoshis of the minimum nor passes the largest amount by wrapping; and
it never drops as the amount, the permyriad and the minimum grow. -/
theorem serviceFeeSat_law (h : terms.Chargeable amountSat) :
    (terms.serviceFeeSat amountSat).toInt =
        min (2 ^ 63 - 1) (max (amountSat.toInt * terms.feePermyriad.toInt / 10000)
          (terms.minimumFeeMsat.toInt / 1000)) ∧
      terms.minimumFeeMsat.toInt / 1000 ≤ (terms.serviceFeeSat amountSat).toInt ∧
      ∀ (terms' : Terms) (amountSat' : Int64), terms'.Chargeable amountSat' →
        amountSat ≤ amountSat' → terms.feePermyriad ≤ terms'.feePermyriad →
        terms.minimumFeeMsat ≤ terms'.minimumFeeMsat →
          terms.serviceFeeSat amountSat ≤ terms'.serviceFeeSat amountSat' := by
  refine ⟨h.toInt_serviceFeeSat, ?_, ?_⟩
  · have hminimum := terms.minimumFeeMsat.toInt_lt
    rw [h.toInt_serviceFeeSat]
    exact le_min (by omega) (le_max_right _ _)
  · intro terms' amountSat' h' hamount hpermyriad hminimum
    rw [Int64.le_iff_toInt_le, h.toInt_serviceFeeSat, h'.toInt_serviceFeeSat]
    exact min_le_min_left _ (h.exactFeeSat_mono h' hamount hpermyriad hminimum)

/-- Terms whose fee is twice the amount, and at least two thousand satoshis. -/
def doublingTerms : Terms :=
  { Registration.flooredTerms with feePermyriad := 20000 }

/-- Twice the largest amount is charged as the largest amount, and no less than an amount before
it. -/
theorem serviceFeeSat_largest :
    doublingTerms.Chargeable Int64.maxValue ∧
      (doublingTerms.serviceFeeSat Int64.maxValue).toInt = 2 ^ 63 - 1 ∧
      doublingTerms.serviceFeeSat 4611686018427387903 ≤
        doublingTerms.serviceFeeSat Int64.maxValue := by
  have hhalf : doublingTerms.Chargeable 4611686018427387903 :=
    ⟨by decide, by decide, by decide, by decide⟩
  have hall : doublingTerms.Chargeable Int64.maxValue :=
    ⟨by decide, by decide, by decide, by decide⟩
  refine ⟨hall, (serviceFeeSat_law hall).1.trans (by decide), ?_⟩
  exact (serviceFeeSat_law hhalf).2.2 _ _ hall (by decide) (by decide) (by decide)

end Terms

end LiquidityClient
