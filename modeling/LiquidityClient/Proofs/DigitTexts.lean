import LiquidityClient.Text.Decimal
import LiquidityClient.Text.Hex
import Mathlib.Tactic.SplitIfs

/-!
# Texts of digits

The texts that are read as numbers and as byte strings, in both directions. A natural number is at
least one decimal digit, behind a plus sign or not, whose value is in the range
(`Decimal.readNat_eq_ok_iff`); an integer may have a minus sign instead
(`Decimal.isDigit_or_sign_of_readInt`). A text is hexadecimal if it has an even number of characters
and each of them is a digit (`Hex.isHex_iff`) : the bytes of any other character are no digits, so
that bytes and characters can be counted alike.
-/

namespace LiquidityClient

namespace Decimal

theorem digitValue?_eq_some_iff {c : Char} {d : Nat} :
    digitValue? c = some d ↔ c.isDigit = true ∧ c.toNat - '0'.toNat = d := by
  have hdigit : c.isDigit = true ↔ '0' ≤ c ∧ c ≤ '9' := by
    simp [Char.isDigit, Char.le_def]
  unfold digitValue?
  split_ifs with h <;> simp [hdigit, h]

/-- Further digits do not make a number smaller. -/
theorem le_ofDigitChars (cs : List Char) (value : Nat) : value ≤ Nat.ofDigitChars 10 cs value := by
  induction cs generalizing value with
  | nil => exact Nat.le_refl value
  | cons c cs ih =>
    rw [Nat.ofDigitChars_cons]
    exact Nat.le_trans (by omega) (ih _)

theorem readDigits_eq_ok_iff {bound value n : Nat} {excess : IntegerError} {cs : List Char}
    (hvalue : value ≤ bound) :
    readDigits bound excess value cs = .ok n ↔
      (∀ c ∈ cs, c.isDigit = true) ∧ Nat.ofDigitChars 10 cs value = n ∧ n ≤ bound := by
  induction cs generalizing value with
  | nil =>
    simp only [readDigits, Except.ok.injEq, List.not_mem_nil, false_implies, implies_true, true_and,
      Nat.ofDigitChars_nil]
    exact ⟨fun h => ⟨h, h ▸ hvalue⟩, And.left⟩
  | cons c cs ih =>
    rw [readDigits, List.forall_mem_cons, Nat.ofDigitChars_cons]
    cases hdigit : digitValue? c with
    | none =>
      have hnot : ¬c.isDigit = true := fun h => by
        cases hdigit.symm.trans (digitValue?_eq_some_iff.2 ⟨h, rfl⟩)
      simp [hnot]
    | some d =>
      obtain ⟨hc, rfl⟩ := digitValue?_eq_some_iff.1 hdigit
      dsimp only
      split_ifs with hfits
      · rw [ih hfits]
        simp [hc]
      · have hlarge := le_ofDigitChars cs (10 * value + (c.toNat - '0'.toNat))
        constructor
        · intro herror
          cases herror
        · rintro ⟨-, rfl, hbound⟩
          omega

/-- The characters are the decimal digits of a number, of which there may be more than it needs. -/
structure Spells (digits : List Char) (n : Nat) : Prop where
  ne_nil : digits ≠ []
  isDigit : ∀ c ∈ digits, c.isDigit = true
  value_eq : Nat.ofDigitChars 10 digits 0 = n

theorem readDigits_zero_eq_ok_iff {bound n : Nat} {excess : IntegerError} {cs : List Char}
    (hne : cs ≠ []) : readDigits bound excess 0 cs = .ok n ↔ Spells cs n ∧ n ≤ bound := by
  rw [readDigits_eq_ok_iff (Nat.zero_le bound)]
  exact ⟨fun ⟨hdigits, hvalue, hfits⟩ => ⟨⟨hne, hdigits, hvalue⟩, hfits⟩,
    fun ⟨hspells, hfits⟩ => ⟨hspells.isDigit, hspells.value_eq, hfits⟩⟩

theorem Spells.head_ne {cs : List Char} {c : Char} {n : Nat} (h : Spells (c :: cs) n) :
    c ≠ '+' ∧ c ≠ '-' := by
  have hdigit := h.isDigit c List.mem_cons_self
  constructor <;> rintro rfl <;> revert hdigit <;> decide

/-- A natural number is read from its digits, behind a plus sign or not, and from nothing else. -/
theorem readNat_eq_ok_iff {bound n : Nat} {text : String} :
    readNat bound text = .ok n ↔
      ∃ sign digits, text.toList = sign ++ digits ∧ (sign = [] ∨ sign = ['+']) ∧ Spells digits n ∧
        n ≤ bound := by
  unfold readNat
  constructor
  · intro h
    split at h
    · cases h
    · cases h
    · next rest hne htext =>
      have hrest : rest ≠ [] := hne
      exact ⟨['+'], rest, htext, Or.inr rfl, (readDigits_zero_eq_ok_iff hrest).1 h⟩
    · next hne _ _ =>
      exact ⟨[], text.toList, rfl, Or.inl rfl, (readDigits_zero_eq_ok_iff hne).1 h⟩
  · rintro ⟨sign, digits, htext, hsign, hspells, hfits⟩
    have hread : readDigits bound .tooLarge 0 digits = .ok n :=
      (readDigits_zero_eq_ok_iff hspells.ne_nil).2 ⟨hspells, hfits⟩
    obtain ⟨c, cs, rfl⟩ := List.exists_cons_of_ne_nil hspells.ne_nil
    rw [htext]
    rcases hsign with rfl | rfl
    · rw [List.nil_append]
      split
      · next heq => cases heq
      · next heq => exact absurd (List.cons.inj heq).1 hspells.head_ne.1
      · next heq => exact absurd (List.cons.inj heq).1 hspells.head_ne.1
      · exact hread
    · exact hread

/-- An integer is read from digits behind a sign or none. -/
theorem isDigit_or_sign_of_readInt {low high : Nat} {n : Int} {text : String}
    (h : readInt low high text = .ok n) :
    ∀ c ∈ text.toList, c.isDigit = true ∨ c = '+' ∨ c = '-' := by
  have hdigits {bound : Nat} {excess : IntegerError} {f : Nat → Int} {cs : List Char}
      (hread : (readDigits bound excess 0 cs).map f = .ok n) : ∀ c ∈ cs, c.isDigit = true := by
    cases hcs : readDigits bound excess 0 cs with
    | ok m => exact ((readDigits_eq_ok_iff (Nat.zero_le bound)).1 hcs).1
    | error e =>
      rw [hcs] at hread
      cases hread
  unfold readInt at h
  split at h
  · cases h
  · cases h
  · cases h
  · next rest _ htext =>
    rw [htext]
    exact List.forall_mem_cons.2 ⟨Or.inr (Or.inl rfl), fun c hc => Or.inl (hdigits h c hc)⟩
  · next rest _ htext =>
    rw [htext]
    exact List.forall_mem_cons.2 ⟨Or.inr (Or.inr rfl), fun c hc => Or.inl (hdigits h c hc)⟩
  · exact fun c hc => Or.inl (hdigits h c hc)

theorem isDigit_or_sign_of_readNat {bound n : Nat} {text : String}
    (h : readNat bound text = .ok n) :
    ∀ c ∈ text.toList, c.isDigit = true ∨ c = '+' ∨ c = '-' := by
  obtain ⟨sign, digits, htext, hsign, hspells, -⟩ := readNat_eq_ok_iff.1 h
  rw [htext]
  refine List.forall_mem_append.2 ⟨fun c hc => ?_, fun c hc => Or.inl (hspells.isDigit c hc)⟩
  rcases hsign with rfl | rfl
  · cases hc
  · exact Or.inr (Or.inl (List.mem_singleton.1 hc))

/-- A natural number is not read from the text of a negative one. -/
theorem readNat_ofInt (bound : Nat) (n : Int) :
    readNat bound (ofInt n) =
      if n < 0 then .error .invalidDigit
      else if n ≤ bound then .ok n.toNat else .error .tooLarge := by
  unfold ofInt
  split_ifs with hneg hfits
  · rw [readNat, String.toList_ofList]
    rfl
  · rw [readNat_ofNat, if_pos (by omega)]
  · rw [readNat_ofNat, if_neg (by omega)]

/-- The text of an unsigned 32-bit number : its digits, of which a plus sign and zeros may stand in
front. -/
theorem readUInt32_eq_ok_iff {n : UInt32} {text : String} :
    readUInt32 text = .ok n ↔
      ∃ sign digits, text.toList = sign ++ digits ∧ (sign = [] ∨ sign = ['+']) ∧
        Spells digits n.toNat := by
  have hfits : n.toNat ≤ UInt32.size - 1 := Nat.le_sub_one_of_lt n.toNat_lt
  have hvalue : readUInt32 text = .ok n ↔ readNat (UInt32.size - 1) text = .ok n.toNat := by
    unfold readUInt32
    cases hread : readNat (UInt32.size - 1) text with
    | error e => simp [Except.map]
    | ok m =>
      obtain ⟨-, -, -, -, -, hm⟩ := readNat_eq_ok_iff.1 hread
      simp only [Except.map, Except.ok.injEq, ← UInt32.toNat_inj]
      rw [UInt32.toNat_ofNat_of_lt' (Nat.lt_of_le_pred (by decide) hm)]
  simp only [hvalue, readNat_eq_ok_iff, hfits, and_true]

theorem spells_digits (n : Nat) : Spells (digits n) n := by
  have hread : readDigits n .tooLarge 0 (digits n) = .ok n := by
    rw [readDigits_digits, if_pos (Nat.le_refl n)]
  exact ((readDigits_zero_eq_ok_iff (digits_ne_nil n)).1 hread).1

end Decimal

namespace Hex

/-- Is the character a hexadecimal digit, of either case? -/
def IsDigit (c : Char) : Prop :=
  c.isDigit = true ∨ ('a' ≤ c ∧ c ≤ 'f') ∨ ('A' ≤ c ∧ c ≤ 'F')

theorem isDigit_iff {c : Char} : IsDigit c ↔
    (48 ≤ c.toNat ∧ c.toNat ≤ 57) ∨ (97 ≤ c.toNat ∧ c.toNat ≤ 102) ∨
      (65 ≤ c.toNat ∧ c.toNat ≤ 70) := by
  simp only [IsDigit, Char.isDigit, Char.le_def, UInt32.le_iff_toNat_le, Bool.and_eq_true,
    decide_eq_true_eq]
  exact Iff.rfl

theorem isSome_value?_iff {code : UInt8} : (value? code).isSome = true ↔
    (48 ≤ code.toNat ∧ code.toNat ≤ 57) ∨ (97 ≤ code.toNat ∧ code.toNat ≤ 102) ∨
      (65 ≤ code.toNat ∧ code.toNat ≤ 70) := by
  unfold value?
  dsimp only
  split_ifs <;>
    simp only [Option.isSome_some, Option.isSome_none, true_iff, reduceCtorEq, false_iff] <;> omega

/-- Only a digit has bytes that are digits : the first byte of a character beyond ASCII is none. -/
theorem forall_utf8EncodeChar_iff {c : Char} :
    (∀ code ∈ String.utf8EncodeChar c, (value? code).isSome = true) ↔ IsDigit c := by
  rw [isDigit_iff]
  by_cases hascii : c.toNat < 128
  · have hcode : (UInt8.ofNat c.toNat).toNat = c.toNat :=
      UInt8.toNat_ofNat_of_lt (Nat.lt_trans hascii (by decide))
    rw [Utf8.utf8EncodeChar_ascii hascii, List.forall_mem_singleton, isSome_value?_iff, hcode]
  · refine ⟨fun h => ?_, fun h => by omega⟩
    have hlarge : ∃ code ∈ String.utf8EncodeChar c, 128 ≤ code.toNat := by
      unfold String.utf8EncodeChar
      dsimp only
      rw [if_neg (show ¬c.val.toNat ≤ 127 from fun h => hascii (Nat.lt_succ_of_le h))]
      split_ifs <;> refine ⟨_, List.mem_cons_self, ?_⟩ <;> rw [UInt8.toNat_ofNat'] <;> omega
    obtain ⟨code, hmem, hcode⟩ := hlarge
    have := isSome_value?_iff.1 (h code hmem)
    omega

theorem decodeFrom_isOk_iff (position : Nat) {codes : Bytes} :
    (∃ bytes, decodeFrom position codes = .ok bytes) ↔
      codes.length % 2 = 0 ∧ ∀ code ∈ codes, (value? code).isSome = true := by
  induction position, codes using decodeFrom.induct with
  | case1 position => simp [decodeFrom]
  | case2 position code => simp [decodeFrom]
  | case3 position high low rest ih =>
    have hlength : (high :: low :: rest).length % 2 = rest.length % 2 := by
      rw [List.length_cons, List.length_cons]
      omega
    rw [hlength, List.forall_mem_cons, List.forall_mem_cons, decodeFrom]
    cases hhigh : value? high with
    | none => simp [valueAt, hhigh, bind, Except.bind]
    | some h =>
      cases hlow : value? low with
      | none => simp [valueAt, hhigh, hlow, bind, Except.bind]
      | some l =>
        simp only [valueAt, hhigh, hlow, bind, Except.bind, Option.isSome_some, true_and, ← ih]
        cases decodeFrom (position + 2) rest <;> simp [pure, Except.pure]

theorem forall_encode_iff {text : String} :
    (∀ code ∈ Utf8.encode text, (value? code).isSome = true) ↔ ∀ c ∈ text.toList, IsDigit c := by
  simp only [Utf8.encode_eq_flatMap, List.forall_mem_flatMap, forall_utf8EncodeChar_iff]

/-- A text of digits has a byte for each of them. -/
theorem length_encode {text : String} (h : ∀ c ∈ text.toList, IsDigit c) :
    (Utf8.encode text).length = text.toList.length := by
  have hascii : ∀ c ∈ text.toList, c.toNat < 128 := fun c hc => by
    have := isDigit_iff.1 (h c hc)
    omega
  rw [← String.ofList_toList (s := text), Utf8.encode_ofList hascii, List.length_map,
    String.toList_ofList]

/-- A text spells bytes if it has an even number of characters, each of them a digit. -/
theorem isHex_iff {text : String} :
    isHex text = true ↔ text.toList.length % 2 = 0 ∧ ∀ c ∈ text.toList, IsDigit c := by
  have hdecode : isHex text = true ↔
      (Utf8.encode text).length % 2 = 0 ∧ ∀ c ∈ text.toList, IsDigit c := by
    rw [isHex_eq_true_iff, ← forall_encode_iff, ← decodeFrom_isOk_iff 0, decode]
    split_ifs with hodd
    · rw [decodeFrom_isOk_iff]
      constructor
      · rintro ⟨bytes, hbytes⟩
        cases hbytes
      · rintro ⟨heven, -⟩
        omega
    · exact Iff.rfl
  rw [hdecode]
  exact and_congr_left fun hdigits => by rw [length_encode hdigits]

end Hex

end LiquidityClient
