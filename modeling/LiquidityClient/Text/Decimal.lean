import LiquidityClient.Word

/-!
# Integers in decimal

`digits` writes a number without leading zeros. The readers take a fixed range : a text is an
optional sign and at least one digit, read from the left, and the first character that is no digit
or that carries the value out of the range decides the error. Leading zeros are good, blanks and
separators are not. A number that is written reads back if it is in the range (`readNat_ofNat`,
`readInt_ofInt`).
-/

namespace LiquidityClient

/-- Why a text is no integer of the wanted range. -/
inductive IntegerError where
  | empty
  | invalidDigit
  | tooLarge
  | tooSmall
  deriving Repr, DecidableEq

namespace IntegerError

/-- The text of the error. -/
def message : IntegerError → String
  | .empty => "cannot parse integer from empty string"
  | .invalidDigit => "invalid digit found in string"
  | .tooLarge => "number too large to fit in target type"
  | .tooSmall => "number too small to fit in target type"

end IntegerError

namespace Decimal

/-- The value of a decimal digit. -/
def digitValue? (c : Char) : Option Nat :=
  if '0' ≤ c ∧ c ≤ '9' then some (c.toNat - 48) else none

/-- The decimal digits of a number, without leading zeros. -/
def digits (n : Nat) : List Char :=
  if n < 10 then [Char.ofNat (48 + n)] else digits (n / 10) ++ [Char.ofNat (48 + n % 10)]

/-- The text of a natural number. -/
def ofNat (n : Nat) : String :=
  String.ofList (digits n)

/-- The text of an integer, with a minus sign if it is negative. -/
def ofInt (n : Int) : String :=
  if n < 0 then String.ofList ('-' :: digits n.natAbs) else ofNat n.toNat

/-- The value of digits behind `value`, as long as it stays at most `bound`. -/
def readDigits (bound : Nat) (excess : IntegerError) : Nat → List Char → Except IntegerError Nat
  | value, [] => .ok value
  | value, c :: rest =>
    match digitValue? c with
    | none => .error .invalidDigit
    | some d =>
      if 10 * value + d ≤ bound then readDigits bound excess (10 * value + d) rest
      else .error excess

/-- The value of a text of digits, which may follow a plus sign. -/
def readNat (bound : Nat) (text : String) : Except IntegerError Nat :=
  match text.toList with
  | [] => .error .empty
  | ['+'] => .error .invalidDigit
  | '+' :: rest => readDigits bound .tooLarge 0 rest
  | cs => readDigits bound .tooLarge 0 cs

/-- The value of a text of digits, which may follow a sign. -/
def readInt (low high : Nat) (text : String) : Except IntegerError Int :=
  match text.toList with
  | [] => .error .empty
  | ['+'] => .error .invalidDigit
  | ['-'] => .error .invalidDigit
  | '+' :: rest => (readDigits high .tooLarge 0 rest).map Int.ofNat
  | '-' :: rest => (readDigits low .tooSmall 0 rest).map fun n => - Int.ofNat n
  | cs => (readDigits high .tooLarge 0 cs).map Int.ofNat

/-- The unsigned 32-bit integer a text spells. -/
def readUInt32 (text : String) : Except IntegerError UInt32 :=
  (readNat (UInt32.size - 1) text).map UInt32.ofNat

/-- The unsigned 64-bit integer a text spells. -/
def readUInt64 (text : String) : Except IntegerError UInt64 :=
  (readNat (UInt64.size - 1) text).map UInt64.ofNat

/-- The signed 32-bit integer a text spells. -/
def readInt32 (text : String) : Except IntegerError Int32 :=
  (readInt Word.half32 (Word.half32 - 1) text).map Int32.ofInt

/-- The signed 64-bit integer a text spells. -/
def readInt64 (text : String) : Except IntegerError Int64 :=
  (readInt Word.half64 (Word.half64 - 1) text).map Int64.ofInt

/-! ## Digits -/

theorem digitValue?_digit {d : Nat} (h : d < 10) : digitValue? (Char.ofNat (48 + d)) = some d := by
  have : ∀ d : Fin 10, digitValue? (Char.ofNat (48 + d.val)) = some d.val := by decide
  exact this ⟨d, h⟩

/-- Each character of a number is the one of a digit. -/
theorem exists_digit_of_mem {n : Nat} {c : Char} (h : c ∈ digits n) :
    ∃ d < 10, c = Char.ofNat (48 + d) := by
  induction n using digits.induct with
  | case1 n hlast =>
    rw [digits, if_pos hlast, List.mem_singleton] at h
    exact ⟨n, hlast, h⟩
  | case2 n hmore ih =>
    rw [digits, if_neg hmore, List.mem_append, List.mem_singleton] at h
    rcases h with h | rfl
    · exact ih h
    · exact ⟨n % 10, Nat.mod_lt n (by decide), rfl⟩

theorem digits_ne_nil (n : Nat) : digits n ≠ [] := by
  rw [digits]
  split <;> simp

/-- A sequence of digits is read from the left. -/
theorem readDigits_append (bound : Nat) (excess : IntegerError) (value : Nat) (cs ds : List Char) :
    readDigits bound excess value (cs ++ ds) =
      (readDigits bound excess value cs).bind fun value => readDigits bound excess value ds := by
  induction cs generalizing value with
  | nil => rfl
  | cons c cs ih =>
    rw [List.cons_append, readDigits, readDigits]
    split
    · rfl
    · split
      · exact ih _
      · rfl

theorem readDigits_digits (bound : Nat) (excess : IntegerError) (n : Nat) :
    readDigits bound excess 0 (digits n) = if n ≤ bound then .ok n else .error excess := by
  induction n using digits.induct with
  | case1 n hlast =>
    rw [digits, if_pos hlast]
    simp [readDigits, digitValue?_digit hlast]
  | case2 n hmore ih =>
    have hdigit := digitValue?_digit (Nat.mod_lt n (show 10 > 0 by decide))
    rw [digits, if_neg hmore, readDigits_append, ih]
    split
    · simp [Except.bind, readDigits, hdigit, Nat.div_add_mod]
    · have : ¬n ≤ bound := by omega
      simp [Except.bind, this]

theorem digit_ne_sign {d : Nat} (h : d < 10) :
    Char.ofNat (48 + d) ≠ '+' ∧ Char.ofNat (48 + d) ≠ '-' := by
  have : ∀ d : Fin 10, Char.ofNat (48 + d.val) ≠ '+' ∧ Char.ofNat (48 + d.val) ≠ '-' := by decide
  exact this ⟨d, h⟩

theorem exists_digits_eq_cons (n : Nat) :
    ∃ d cs, d < 10 ∧ digits n = Char.ofNat (48 + d) :: cs := by
  obtain ⟨c, cs, hcs⟩ := List.exists_cons_of_ne_nil (digits_ne_nil n)
  obtain ⟨d, hd, rfl⟩ := exists_digit_of_mem (hcs ▸ List.mem_cons_self)
  exact ⟨d, cs, hd, hcs⟩

/-- Only 0 is written with a zero in front. -/
theorem eq_zero_of_digits_eq_cons {n : Nat} {cs : List Char} (h : digits n = '0' :: cs) :
    n = 0 ∧ cs = [] := by
  induction n using digits.induct generalizing cs with
  | case1 n hlast =>
    have hzero : ∀ d : Fin 10, Char.ofNat (48 + d.val) = '0' → d.val = 0 := by decide
    rw [digits, if_pos hlast] at h
    obtain ⟨hchar, rfl⟩ := List.cons.inj h
    exact ⟨hzero ⟨n, hlast⟩ hchar, rfl⟩
  | case2 n hmore ih =>
    obtain ⟨d, ds, -, hds⟩ := exists_digits_eq_cons (n / 10)
    rw [digits, if_neg hmore, hds] at h
    obtain ⟨hchar, -⟩ := List.cons.inj h
    obtain ⟨hquotient, -⟩ := ih (hchar ▸ hds)
    omega

theorem ofInt_ne_empty (n : Int) : ofInt n ≠ "" := by
  intro h
  have hempty := congrArg String.toList h
  unfold ofInt ofNat at hempty
  split at hempty
  · simp at hempty
  · exact digits_ne_nil _ (by simpa using hempty)

/-! ## What is written reads back -/

theorem readNat_ofNat (bound n : Nat) :
    readNat bound (ofNat n) = if n ≤ bound then .ok n else .error .tooLarge := by
  obtain ⟨d, cs, hd, hcs⟩ := exists_digits_eq_cons n
  obtain ⟨hplus, -⟩ := digit_ne_sign hd
  rw [← readDigits_digits, readNat, ofNat, String.toList_ofList, hcs]
  split <;> simp_all

theorem readInt_ofInt (low high : Nat) (n : Int) :
    readInt low high (ofInt n) =
      if n < -low then .error .tooSmall else if n ≤ high then .ok n else .error .tooLarge := by
  unfold ofInt
  split
  · next hneg =>
    have hrun := readDigits_digits low .tooSmall n.natAbs
    obtain ⟨d, cs, -, hcs⟩ := exists_digits_eq_cons n.natAbs
    rw [hcs] at hrun
    simp only [readInt, String.toList_ofList, hcs, hrun]
    by_cases hlow : n < -low
    · rw [if_neg (by omega), if_pos hlow]
      rfl
    · rw [if_pos (by omega), if_neg hlow, if_pos (by omega), Except.map, Int.ofNat_eq_natCast]
      congr 1
      omega
  · next hpos =>
    have hrun := readDigits_digits high .tooLarge n.toNat
    obtain ⟨d, cs, hd, hcs⟩ := exists_digits_eq_cons n.toNat
    obtain ⟨hplus, hminus⟩ := digit_ne_sign hd
    have hread : readInt low high (ofNat n.toNat) =
        (readDigits high .tooLarge 0 (digits n.toNat)).map Int.ofNat := by
      rw [readInt, ofNat, String.toList_ofList, hcs]
      split <;> simp_all
    have hlow : ¬n < -low := by omega
    rw [hread, hrun, if_neg hlow]
    by_cases hhigh : n ≤ high
    · rw [if_pos (by omega), if_pos hhigh, Except.map, Int.ofNat_eq_natCast]
      congr 1
      omega
    · rw [if_neg (by omega), if_neg hhigh]
      rfl

theorem ofInt_natCast (n : Nat) : ofInt n = ofNat n := by
  rw [ofInt, if_neg (by omega), Int.toNat_natCast]

theorem readUInt32_ofInt (n : UInt32) : readUInt32 (ofInt n.toNat) = .ok n := by
  have hfits : n.toNat ≤ UInt32.size - 1 := Nat.le_sub_one_of_lt n.toNat_lt
  rw [readUInt32, ofInt_natCast, readNat_ofNat, if_pos hfits, Except.map, UInt32.ofNat_toNat]

theorem readUInt64_ofInt (n : UInt64) : readUInt64 (ofInt n.toNat) = .ok n := by
  have hfits : n.toNat ≤ UInt64.size - 1 := Nat.le_sub_one_of_lt n.toNat_lt
  rw [readUInt64, ofInt_natCast, readNat_ofNat, if_pos hfits, Except.map, UInt64.ofNat_toNat]

theorem readInt64_ofInt (n : Int64) : readInt64 (ofInt n.toInt) = .ok n := by
  have hlow : ¬n.toInt < -Word.half64 := Int.not_lt.2 n.le_toInt
  have hhigh : n.toInt ≤ (Word.half64 - 1 : Nat) := Int.le_sub_one_of_lt n.toInt_lt
  rw [readInt64, readInt_ofInt, if_neg hlow, if_pos hhigh, Except.map, Int64.ofInt_toInt]

end Decimal

end LiquidityClient
