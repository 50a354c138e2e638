import LiquidityClient.Word

/-!
# Double-precision numbers

A double is its 64 bits, so that no bit of a NaN is lost. `view` reads the value the bits stand for,
`round` gives the double nearest to a scaled integer with ties to the even neighbour, and the
arithmetic is exact on the views and rounded once.
-/

namespace LiquidityClient

/-- An IEEE 754 binary64 number, by its bits. -/
structure Binary64 where
  bits : UInt64
  deriving DecidableEq, Repr, Inhabited

namespace Binary64

/-- What the bits of a double stand for. -/
inductive View where
  | nan
  | infinite (negative : Bool)
  /-- The value is `± mantissa * 2 ^ exponent`. -/
  | finite (negative : Bool) (mantissa : Nat) (exponent : Int)
  deriving Repr, DecidableEq

/-- The bit in front of a fraction of 52 bits. -/
abbrev hiddenBit : Nat := 0x10000000000000

/-- The value of a double. -/
def view (x : Binary64) : View :=
  let n : Nat := x.bits.toNat
  let negative := decide (Word.half64 ≤ n)
  let field : Nat := n >>> 52 % 2048
  let fraction : Nat := n % hiddenBit
  if field = 2047 then
    if fraction = 0 then .infinite negative else .nan
  else if field = 0 then .finite negative fraction (-1074)
  else .finite negative (hiddenBit + fraction) ((field : Int) - 1075)

/-- The bits of a magnitude with the sign in front. -/
def ofMagnitude (negative : Bool) (magnitude : Nat) : Binary64 :=
  ⟨UInt64.ofNat ((if negative then Word.half64 else 0) + magnitude)⟩

/-- The bits of infinity. -/
def infinity (negative : Bool) : Binary64 :=
  ofMagnitude negative (2047 * hiddenBit)

/-- The quiet NaN. -/
def nan : Binary64 := ⟨0x7ff8000000000000⟩

/-- A quotient rounded to the nearest integer, a tie to the even one. -/
def roundDiv (n d : Nat) : Nat :=
  let q := n / d
  let r := n % d
  if 2 * r < d ∨ (2 * r = d ∧ q % 2 = 0) then q else q + 1

/-- The double nearest to `± m * 2 ^ e`, a tie to the one with an even last bit. -/
def round (negative : Bool) (m : Nat) (e : Int) : Binary64 :=
  if m = 0 then ofMagnitude negative 0
  else
    let unit : Int := max (e + m.log2 - 52) (-1074)
    let mantissa : Nat :=
      if unit ≤ e then m <<< (e - unit).toNat else roundDiv m (1 <<< (unit - e).toNat)
    if unit = -1074 then ofMagnitude negative mantissa
    else
      let magnitude := (unit + 1074).toNat * hiddenBit + mantissa
      if magnitude < 2047 * hiddenBit then ofMagnitude negative magnitude else infinity negative

/-- The double nearest to an integer. -/
def ofInt (n : Int) : Binary64 :=
  round (decide (n < 0)) n.natAbs 0

/-- The product, rounded once. -/
def mul (x y : Binary64) : Binary64 :=
  match x.view, y.view with
  | .nan, _ => nan
  | _, .nan => nan
  | .infinite s, .infinite t => infinity (s != t)
  | .infinite s, .finite t m _ => if m = 0 then nan else infinity (s != t)
  | .finite s m _, .infinite t => if m = 0 then nan else infinity (s != t)
  | .finite s m e, .finite t n f => round (s != t) (m * n) (e + f)

/-- The integer part, held to the signed 64-bit range; a NaN gives 0. -/
def toInt64 (x : Binary64) : Int64 :=
  let clamp (negative : Bool) (magnitude : Nat) : Int64 :=
    if negative then
      if magnitude ≤ Word.half64 then Int64.ofInt (-(magnitude : Int)) else Int64.minValue
    else if magnitude < Word.half64 then Int64.ofInt magnitude else Int64.maxValue
  match x.view with
  | .nan => 0
  | .infinite negative => if negative then Int64.minValue else Int64.maxValue
  | .finite negative m e =>
    if 0 ≤ e then
      if 64 ≤ e ∧ m ≠ 0 then (if negative then Int64.minValue else Int64.maxValue)
      else clamp negative (m <<< e.toNat)
    else clamp negative (m >>> (-e).toNat)

/-- Does the double equal zero, of either sign? -/
def isZero (x : Binary64) : Bool :=
  x.bits.toNat % Word.half64 = 0

end Binary64

end LiquidityClient
