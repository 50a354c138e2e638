import LiquidityClient.Bytes

/-!
# Base64 text

The standard alphabet with padding. Reading accepts the padded form only, and only with zero bits
behind the last byte, so each byte string has one text, which reads back (`decode?_encode`).
-/

namespace LiquidityClient.Base64

/-- The character of a value below 64. -/
def digit (n : Nat) : Char :=
  if n < 26 then Char.ofNat (65 + n)
  else if n < 52 then Char.ofNat (71 + n)
  else if n < 62 then Char.ofNat (n - 4)
  else if n = 62 then '+'
  else '/'

/-- The value of a character of the alphabet. -/
def value? (c : Char) : Option Nat :=
  let n := c.toNat
  if 65 ≤ n ∧ n ≤ 90 then some (n - 65)
  else if 97 ≤ n ∧ n ≤ 122 then some (n - 71)
  else if 48 ≤ n ∧ n ≤ 57 then some (n + 4)
  else if c = '+' then some 62
  else if c = '/' then some 63
  else none

/-- The characters of a byte string: four for each three bytes, the last group padded. -/
def encodeChars : Bytes → List Char
  | [] => []
  | [a] =>
    [digit (a.toNat / 4), digit (a.toNat % 4 * 16), '=', '=']
  | [a, b] =>
    [digit (a.toNat / 4), digit (a.toNat % 4 * 16 + b.toNat / 16), digit (b.toNat % 16 * 4), '=']
  | a :: b :: c :: rest =>
    digit (a.toNat / 4) :: digit (a.toNat % 4 * 16 + b.toNat / 16)
      :: digit (b.toNat % 16 * 4 + c.toNat / 64) :: digit (c.toNat % 64) :: encodeChars rest

/-- The text of a byte string. -/
def encode (bytes : Bytes) : String :=
  String.ofList (encodeChars bytes)

/-- The bytes of groups of four characters; only the last group may be padded. -/
def decodeChars : List Char → Option Bytes
  | [] => some []
  | [p, q, '=', '='] => do
    let v ← value? p
    let w ← value? q
    if w % 16 = 0 then some [UInt8.ofNat (4 * v + w / 16)] else none
  | [p, q, r, '='] => do
    let v ← value? p
    let w ← value? q
    let x ← value? r
    if x % 4 = 0 then
      some [UInt8.ofNat (4 * v + w / 16), UInt8.ofNat (w % 16 * 16 + x / 4)]
    else none
  | p :: q :: r :: s :: rest => do
    let v ← value? p
    let w ← value? q
    let x ← value? r
    let y ← value? s
    let tail ← decodeChars rest
    some (UInt8.ofNat (4 * v + w / 16) :: UInt8.ofNat (w % 16 * 16 + x / 4)
      :: UInt8.ofNat (x % 4 * 64 + y) :: tail)
  | _ => none

/-- The byte string of a text. -/
def decode? (text : String) : Option Bytes :=
  decodeChars text.toList

theorem value?_digit {n : Nat} (h : n < 64) : value? (digit n) = some n := by
  have : ∀ n : Fin 64, value? (digit n) = some n.val := by decide
  exact this ⟨n, h⟩

theorem digit_ne_pad {n : Nat} (h : n < 64) : digit n ≠ '=' := by
  have : ∀ n : Fin 64, digit n ≠ '=' := by decide
  exact this ⟨n, h⟩

/-- A byte of six high bits and two that start the next digit. -/
theorem join_first (a : UInt8) {m : Nat} (h : m < 16) :
    UInt8.ofNat (4 * (a.toNat / 4) + (a.toNat % 4 * 16 + m) / 16) = a := by
  have hsum : 4 * (a.toNat / 4) + (a.toNat % 4 * 16 + m) / 16 = a.toNat := by omega
  rw [hsum, UInt8.ofNat_toNat]

/-- A byte of four bits that end a digit and four that start the next. -/
theorem join_second (b : UInt8) (k : Nat) {m : Nat} (h : m < 4) :
    UInt8.ofNat ((k * 16 + b.toNat / 16) % 16 * 16 + (b.toNat % 16 * 4 + m) / 4) = b := by
  have hb := b.toNat_lt
  have hsum : (k * 16 + b.toNat / 16) % 16 * 16 + (b.toNat % 16 * 4 + m) / 4 = b.toNat := by omega
  rw [hsum, UInt8.ofNat_toNat]

/-- A byte of two bits that end a digit and a digit. -/
theorem join_third (c : UInt8) (k : Nat) :
    UInt8.ofNat ((k * 4 + c.toNat / 64) % 4 * 64 + c.toNat % 64) = c := by
  have hc := c.toNat_lt
  have hsum : (k * 4 + c.toNat / 64) % 4 * 64 + c.toNat % 64 = c.toNat := by omega
  rw [hsum, UInt8.ofNat_toNat]

theorem decodeChars_encodeChars (bytes : Bytes) : decodeChars (encodeChars bytes) = some bytes := by
  fun_induction encodeChars bytes with
  | case1 => rfl
  | case2 a =>
    have ha := a.toNat_lt
    have hfirst := join_first a (m := 0) (by decide)
    rw [decodeChars, value?_digit (by omega), value?_digit (by omega)]
    rw [Nat.add_zero] at hfirst
    simp only [Option.bind_eq_bind, Option.bind_some, Nat.mul_mod_left, if_true, hfirst]
  | case3 a b =>
    have ha := a.toNat_lt
    have hb := b.toNat_lt
    have hfirst := join_first a (m := b.toNat / 16) (by omega)
    have hsecond := join_second b (a.toNat % 4) (m := 0) (by decide)
    rw [decodeChars, value?_digit (by omega), value?_digit (by omega), value?_digit (by omega)]
    · rw [Nat.add_zero] at hsecond
      simp only [Option.bind_eq_bind, Option.bind_some, Nat.mul_mod_left, if_true, hfirst, hsecond]
    · exact digit_ne_pad (by omega)
  | case4 a b c rest ih =>
    have ha := a.toNat_lt
    have hb := b.toNat_lt
    have hc := c.toNat_lt
    have hlast := digit_ne_pad (n := c.toNat % 64) (by omega)
    rw [decodeChars, value?_digit (by omega), value?_digit (by omega), value?_digit (by omega),
      value?_digit (by omega), ih]
    · simp only [Option.bind_eq_bind, Option.bind_some, join_third,
        join_first a (m := b.toNat / 16) (by omega),
        join_second b (a.toNat % 4) (m := c.toNat / 64) (by omega)]
    · exact fun _ h => absurd h hlast
    · exact fun h => absurd h hlast

/-- What is written reads back. -/
theorem decode?_encode (bytes : Bytes) : decode? (encode bytes) = some bytes := by
  rw [decode?, encode, String.toList_ofList, decodeChars_encodeChars]

end LiquidityClient.Base64
