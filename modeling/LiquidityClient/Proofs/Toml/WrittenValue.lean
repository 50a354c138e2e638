import LiquidityClient.Proofs.Toml.QuotedText
import LiquidityClient.Toml.Document
import LiquidityClient.Toml.Printer

/-!
# Reading TOML values back

The printer writes texts between quotes and integers in decimal. A text reads back by
`Quoted.read?_write`. The reader tries date-times and floats before integers; with the line end
behind its digits an integer is neither (`dateTime?_integerLine`, `float?_integerLine`), since a
date needs a `-` behind its year, a time of day a `:` behind its hour, and a float a point or an
exponent. So every value that is written in front of a line end is read back (`value?_write`).
-/

namespace LiquidityClient.Toml

/-! ## Integers -/

theorem moreDigits_append {ds : List Char} (hds : ∀ c ∈ ds, Scan.isDigit 10 c = true)
    (rest : List Char) : moreDigits 10 (ds ++ '\n' :: rest) = (ds, '\n' :: rest) := by
  induction ds with
  | nil =>
    rw [List.nil_append, moreDigits]
    · exact if_neg (by decide)
    · exact fun _ _ h _ => absurd h (by decide)
  | cons c ds ih =>
    obtain ⟨hc, hds⟩ := List.forall_mem_cons.1 hds
    have hunderscore : c ≠ '_' := by
      rintro rfl
      exact absurd hc (by decide)
    rw [List.cons_append, moreDigits]
    · rw [if_pos hc, ih hds]
    · exact fun _ _ h _ => hunderscore h

theorem decimal?_digits (n : Nat) (rest : List Char) :
    decimal? (Decimal.digits n ++ '\n' :: rest) = some (Decimal.digits n, '\n' :: rest) := by
  have hall : ∀ c ∈ Decimal.digits n, Scan.isDigit 10 c = true := fun _ =>
    Scan.isDigit_of_mem_digits
  obtain ⟨d, ds, -, hds⟩ := Decimal.exists_digits_eq_cons n
  rw [hds] at hall ⊢
  obtain ⟨hfirst, hmore⟩ := List.forall_mem_cons.1 hall
  by_cases hzero : Char.ofNat (48 + d) = '0'
  · rw [hzero] at hds ⊢
    obtain ⟨-, rfl⟩ := Decimal.eq_zero_of_digits_eq_cons hds
    rfl
  · rw [List.cons_append, decimal?]
    · rw [digits?, if_pos hfirst, moreDigits_append hmore]
    · exact fun _ h => hzero (List.cons.inj h).1

/-- As many digits as are asked for are digits of the number, which goes on behind them or ends the
line. -/
theorem mark?_of_bounded? (mark : Char) {count low high k : Nat} {ds rest behind : List Char}
    (hds : ∀ c ∈ ds, Scan.isDigit 10 c = true) (hmark : Scan.isDigit 10 mark = false)
    (hline : mark ≠ '\n') (h : bounded? count low high (ds ++ '\n' :: rest) = some (k, behind)) :
    mark? mark behind = none := by
  unfold bounded? Scan.number? at h
  dsimp only at h
  split_ifs at h with hnumber
  · dsimp only at h
    split_ifs at h
    cases h
    have hcount : count ≤ ds.length := by
      by_contra hlong
      have hmem : '\n' ∈ (ds ++ '\n' :: rest).take count := by
        rw [List.take_append]
        refine List.mem_append_right _ ?_
        obtain ⟨more, hmore⟩ := Nat.exists_eq_add_of_lt (Nat.lt_of_not_le hlong)
        rw [show count - ds.length = more + 1 by omega]
        exact List.mem_cons_self
      exact absurd (List.all_eq_true.1 hnumber.2 _ hmem) (by decide)
    rw [List.drop_append_of_le_length hcount]
    cases hdrop : ds.drop count with
    | nil => exact if_neg (Ne.symm hline)
    | cons c more =>
      refine if_neg ?_
      rintro rfl
      have hdigit := hds c (List.mem_of_mem_drop (hdrop ▸ List.mem_cons_self))
      rw [hmark] at hdigit
      cases hdigit

theorem bounded?_minus {count low high : Nat} (hcount : 0 < count) (rest : List Char) :
    bounded? count low high ('-' :: rest) = none := by
  obtain ⟨count, rfl⟩ := Nat.exists_eq_add_of_lt hcount
  have hminus : Scan.isDigit 10 '-' = false := by decide
  simp [bounded?, Scan.number?, hminus]

/-- The characters of an integer, with the line end behind it. -/
def integerLine (n : Int64) (rest : List Char) : List Char :=
  (Decimal.ofInt n.toInt).toList ++ '\n' :: rest

theorem integerLine_cases (n : Int64) (rest : List Char) :
    (n.toInt < 0 ∧ integerLine n rest = '-' :: (Decimal.digits n.toInt.natAbs ++ '\n' :: rest)) ∨
      (0 ≤ n.toInt ∧ integerLine n rest = Decimal.digits n.toInt.natAbs ++ '\n' :: rest) := by
  unfold integerLine Decimal.ofInt
  split_ifs with hneg
  · exact Or.inl ⟨hneg, by simp⟩
  · have hsame : n.toInt.toNat = n.toInt.natAbs := by omega
    exact Or.inr ⟨by omega, by rw [Decimal.ofNat, String.toList_ofList, hsame]⟩

theorem date?_digits {ds : List Char} (hds : ∀ c ∈ ds, Scan.isDigit 10 c = true)
    (rest : List Char) : date? (ds ++ '\n' :: rest) = none := by
  unfold date?
  cases hyear : bounded? 4 0 9999 (ds ++ '\n' :: rest) with
  | none => rfl
  | some found =>
    have hmark := mark?_of_bounded? '-' hds (by decide) (by decide) hyear
    simp [hmark]

theorem time?_digits {ds : List Char} (hds : ∀ c ∈ ds, Scan.isDigit 10 c = true)
    (rest : List Char) : time? (ds ++ '\n' :: rest) = none := by
  unfold time?
  cases hhour : bounded? 2 0 23 (ds ++ '\n' :: rest) with
  | none => rfl
  | some found =>
    have hmark := mark?_of_bounded? ':' hds (by decide) (by decide) hhour
    simp [hmark]

/-- A number is no date-time, since neither `-` nor `:` stands behind its digits. -/
theorem dateTime?_integerLine (n : Int64) (rest : List Char) :
    dateTime? (integerLine n rest) = none := by
  have hall : ∀ c ∈ Decimal.digits n.toInt.natAbs, Scan.isDigit 10 c = true := fun _ =>
    Scan.isDigit_of_mem_digits
  rcases integerLine_cases n rest with ⟨-, hcs⟩ | ⟨-, hcs⟩
  · simp [hcs, dateTime?, date?, time?, bounded?_minus]
  · simp [hcs, dateTime?, date?_digits hall, time?_digits hall]

theorem sign_integerLine (n : Int64) (rest : List Char) :
    sign (integerLine n rest) =
      (decide (n.toInt < 0), Decimal.digits n.toInt.natAbs ++ '\n' :: rest) := by
  obtain ⟨d, ds, hd, hds⟩ := Decimal.exists_digits_eq_cons n.toInt.natAbs
  obtain ⟨hplus, hminus⟩ := Decimal.digit_ne_sign hd
  rcases integerLine_cases n rest with ⟨hneg, hcs⟩ | ⟨hpos, hcs⟩
  · rw [hcs, sign, decide_eq_true hneg]
  · rw [hcs, hds, List.cons_append, decide_eq_false (by omega)]
    unfold sign
    split
    · next h => exact absurd (List.cons.inj h).1 hplus
    · next h => exact absurd (List.cons.inj h).1 hminus
    · rfl

/-- A number is no float, since nothing stands behind its digits. -/
theorem float?_integerLine (n : Int64) (rest : List Char) :
    float? (integerLine n rest) = none := by
  obtain ⟨d, ds, -, hds⟩ := Decimal.exists_digits_eq_cons n.toInt.natAbs
  have hfirst : Scan.isDigit 10 (Char.ofNat (48 + d)) = true :=
    Scan.isDigit_of_mem_digits (hds ▸ List.mem_cons_self)
  unfold float?
  rw [sign_integerLine]
  dsimp only
  split
  · next h =>
    rw [hds] at h
    rw [(List.cons.inj h).1] at hfirst
    exact absurd hfirst (by decide)
  · next h =>
    rw [hds] at h
    rw [(List.cons.inj h).1] at hfirst
    exact absurd hfirst (by decide)
  · rw [decimal?_digits]
    rfl

/-- A zero at the front is the whole number. -/
theorem eq_newline_of_integerLine {n : Int64} {rest more : List Char} {c : Char}
    (h : integerLine n rest = '0' :: c :: more) : c = '\n' := by
  rcases integerLine_cases n rest with ⟨-, hcs⟩ | ⟨-, hcs⟩
  · cases hcs.symm.trans h
  · obtain ⟨d, ds, -, hds⟩ := Decimal.exists_digits_eq_cons n.toInt.natAbs
    rw [hds] at hcs
    obtain ⟨hzero, hmore⟩ := List.cons.inj (hcs.symm.trans h)
    rw [hzero] at hds
    obtain ⟨-, rfl⟩ := Decimal.eq_zero_of_digits_eq_cons hds
    exact (List.cons.inj hmore).1.symm

theorem word?_natAbs (n : Int64) :
    word? (decide (n.toInt < 0)) n.toInt.natAbs = some n := by
  have hle := n.le_toInt
  have hlt := n.toInt_lt
  unfold word?
  split_ifs with hneg hfits hfits
  · rw [decide_eq_true_eq] at hneg
    rw [Int.ofNat_natAbs_of_nonpos (Int.le_of_lt hneg), Int.neg_neg, Int64.ofInt_toInt]
  · exact absurd hfits (by simp only [Word.half64]; omega)
  · have hpos : 0 ≤ n.toInt := by simpa using hneg
    rw [← Int64.ofInt_eq_ofNat, Int.natAbs_of_nonneg hpos, Int64.ofInt_toInt]
  · have hpos : 0 ≤ n.toInt := by simpa using hneg
    exact absurd hfits (by simp only [Word.half64]; omega)

theorem integer?_integerLine (n : Int64) (rest : List Char) :
    integer? (integerLine n rest) = some (n, '\n' :: rest) := by
  unfold integer?
  dsimp only
  split
  · next h => exact absurd (eq_newline_of_integerLine h) (by decide)
  · next h => exact absurd (eq_newline_of_integerLine h) (by decide)
  · next h => exact absurd (eq_newline_of_integerLine h) (by decide)
  · simp [sign_integerLine, decimal?_digits, Scan.value_digits, word?_natAbs]

/-- An integer that is written is read back. -/
theorem scalar?_integerLine (n : Int64) (rest : List Char) :
    scalar? (integerLine n rest) = some (.integer n, '\n' :: rest) := by
  have hfirst : ∀ c more, integerLine n rest = c :: more → c = '-' ∨ Scan.isDigit 10 c = true := by
    intro c more h
    obtain ⟨d, ds, hcs, hd⟩ := Scan.exists_ofInt_eq_cons n.toInt
    rw [integerLine, hcs] at h
    rwa [(List.cons.inj h).1] at hd
  unfold scalar?
  split
  · next h => exact absurd (hfirst _ _ h) (by decide)
  · next h => exact absurd (hfirst _ _ h) (by decide)
  · rw [dateTime?_integerLine, float?_integerLine, integer?_integerLine]
    rfl

/-! ## Values -/

theorem Quoted.exists_write_eq_cons (text : List Char) :
    ∃ c cs, Quoted.write text = c :: cs ∧ (c = Quoted.basicMark ∨ c = Quoted.literalMark) := by
  unfold Quoted.write
  cases Quoted.Form.ofText text with
  | basic => exact ⟨_, _, rfl, Or.inl rfl⟩
  | literal => exact ⟨_, _, rfl, Or.inr rfl⟩
  | basicLines => exact ⟨_, _, rfl, Or.inl rfl⟩
  | literalLines => exact ⟨_, _, rfl, Or.inr rfl⟩

theorem value?_quoted (depth : Nat) {c : Char} (cs : List Char)
    (h : c = Quoted.basicMark ∨ c = Quoted.literalMark) :
    value? depth (c :: cs) =
      (Quoted.read? (c :: cs)).map fun (text, rest) => (.string (String.ofList text), rest) := by
  rw [value?.eq_def]
  exact if_pos h

theorem value?_scalar (depth : Nat) {c : Char} (cs : List Char)
    (h : c = '-' ∨ Scan.isDigit 10 c = true) : value? depth (c :: cs) = scalar? (c :: cs) := by
  have hquote : ¬(c = Quoted.basicMark ∨ c = Quoted.literalMark) := by
    rintro (rfl | rfl) <;> exact absurd h (by decide)
  have hbracket : c ≠ '[' := by
    rintro rfl
    exact absurd h (by decide)
  have hbrace : c ≠ '\x7b' := by
    rintro rfl
    exact absurd h (by decide)
  rw [value?.eq_def]
  dsimp only
  rw [if_neg hquote]
  cases depth with
  | zero => rfl
  | succ depth => simp only [if_neg hbracket, if_neg hbrace]

/-- A value that is written is read back in front of the line end. -/
theorem value?_write (depth : Nat) (atom : Atom) (rest : List Char) :
    value? depth (atom.write ++ '\n' :: rest) = some (atom.toValue, '\n' :: rest) := by
  cases atom with
  | text content =>
    obtain ⟨c, cs, hcs, hc⟩ := Quoted.exists_write_eq_cons content.toList
    have hread : Quoted.read? (Quoted.write content.toList ++ '\n' :: rest) =
        some (content.toList, '\n' :: rest) :=
      Quoted.read?_write (Quoted.marks_cons_of_ne (by decide) _)
        (Quoted.marks_cons_of_ne (by decide) _)
    rw [hcs] at hread
    rw [Atom.write, hcs, List.cons_append, value?_quoted depth _ hc, ← List.cons_append, hread,
      Option.map_some]
    dsimp only
    rw [String.ofList_toList, Atom.toValue]
  | integer n =>
    obtain ⟨c, cs, hcs, hc⟩ := Scan.exists_ofInt_eq_cons n.toInt
    have hread := scalar?_integerLine n rest
    rw [integerLine, hcs] at hread
    rw [Atom.write, hcs, List.cons_append, value?_scalar depth _ hc, ← List.cons_append, hread,
      Atom.toValue]

end LiquidityClient.Toml
