import LiquidityClient.Text.Decimal

/-!
# Reading from the front of a text

A reader takes what it wants off the front of a list of characters and gives it with the rest.
`number?` reads digits in a base and `escaped?` a character by its hexadecimal code; both leave a
shorter rest (`length_escaped?`). The digits of a number have its value (`value_digits`).
-/

namespace LiquidityClient.Scan

/-- The value of a digit in bases up to 16, of either case. -/
def digitValue? (c : Char) : Option Nat :=
  let n := c.toNat
  if 48 ≤ n ∧ n ≤ 57 then some (n - 48)
  else if 97 ≤ n ∧ n ≤ 102 then some (n - 87)
  else if 65 ≤ n ∧ n ≤ 70 then some (n - 55)
  else none

/-- Is the character a digit of the base? -/
def isDigit (base : Nat) (c : Char) : Bool :=
  match digitValue? c with
  | some d => d < base
  | none => false

/-- The number that digits of a base spell. -/
def value (base : Nat) (digits : List Char) : Nat :=
  digits.foldl (fun n c => base * n + (digitValue? c).getD 0) 0

/-- The next `count` digits of a base as a number, and the rest. -/
def number? (base count : Nat) (cs : List Char) : Option (Nat × List Char) :=
  let digits := cs.take count
  if digits.length = count ∧ digits.all (isDigit base) then some (value base digits, cs.drop count)
  else none

/-- The character whose code the next `count` hexadecimal digits are, and the rest. -/
def escaped? (count : Nat) (cs : List Char) : Option (Char × List Char) :=
  match number? 16 count cs with
  | some (n, rest) => if n.isValidChar then some (Char.ofNat n, rest) else none
  | none => none

theorem length_escaped? {count : Nat} {cs rest : List Char} {c : Char}
    (h : escaped? count cs = some (c, rest)) : rest.length ≤ cs.length := by
  unfold escaped? at h
  split at h
  · rename_i heq
    simp only [number?] at heq
    split at heq
    · simp only [Option.some.injEq, Prod.mk.injEq] at heq
      split at h
      · simp only [Option.some.injEq, Prod.mk.injEq] at h
        rw [← h.2, ← heq.2, List.length_drop]
        omega
      · cases h
    · cases heq
  · cases h

theorem eq_ofNat_of_toNat {c : Char} {n : Nat} (h : c.toNat = n) : c = Char.ofNat n := by
  rw [← h, Char.ofNat_toNat]

/-- Two digits behind two zeros spell a byte. -/
theorem number?_byte {n : Nat} {high low : Char} (hhigh : digitValue? high = some (n / 16))
    (hlow : digitValue? low = some (n % 16)) (h : n < 256) (rest : List Char) :
    number? 16 4 ('0' :: '0' :: high :: low :: rest) = some (n, rest) := by
  have hzero : digitValue? '0' = some 0 := by decide
  have hvalue : 16 * (n / 16) + n % 16 = n := by omega
  simp [number?, isDigit, value, hhigh, hlow, hzero, hvalue]
  omega

theorem digitValue?_digit {d : Nat} (h : d < 10) :
    digitValue? (Char.ofNat (48 + d)) = some d := by
  have : ∀ d : Fin 10, digitValue? (Char.ofNat (48 + d.val)) = some d.val := by decide
  exact this ⟨d, h⟩

theorem isDigit_of_mem_digits {n : Nat} {c : Char} (h : c ∈ Decimal.digits n) :
    isDigit 10 c = true := by
  obtain ⟨d, hd, rfl⟩ := Decimal.exists_digit_of_mem h
  simp [isDigit, digitValue?_digit hd, hd]

/-- An integer starts with a minus sign or a digit. -/
theorem exists_ofInt_eq_cons (n : Int) :
    ∃ c cs, (Decimal.ofInt n).toList = c :: cs ∧ (c = '-' ∨ isDigit 10 c = true) := by
  unfold Decimal.ofInt
  split
  · exact ⟨'-', _, String.toList_ofList, Or.inl rfl⟩
  · obtain ⟨d, ds, -, hds⟩ := Decimal.exists_digits_eq_cons n.toNat
    refine ⟨_, ds, String.toList_ofList.trans hds, Or.inr ?_⟩
    exact isDigit_of_mem_digits (hds ▸ List.mem_cons_self)

theorem value_digits (n : Nat) : value 10 (Decimal.digits n) = n := by
  induction n using Decimal.digits.induct with
  | case1 n hlast =>
    rw [Decimal.digits, if_pos hlast]
    simp [value, digitValue?_digit hlast]
  | case2 n hmore ih =>
    have hdigit := digitValue?_digit (Nat.mod_lt n (show 10 > 0 by decide))
    unfold value at ih
    rw [Decimal.digits, if_neg hmore, value, List.foldl_append, ih]
    simp [hdigit, Nat.div_add_mod]

end LiquidityClient.Scan
