import LiquidityClient.Binary64
import LiquidityClient.Text.Decimal

/-!
# The shortest decimal of a double

Of all decimals that round to a double, `shortest` takes one with the fewest digits, and of these
the nearest to the double; of two equally near ones the larger. `toText` writes it without an
exponent.
-/

namespace LiquidityClient.Binary64

/-- The reals that round to a positive double, as multiples of `1 / scale`. -/
structure Interval where
  low : Nat
  value : Nat
  high : Nat
  scale : Nat
  /-- Do the ends belong to the interval? -/
  closed : Bool

/-- The interval of `m * 2 ^ e`, for the mantissa and exponent of a positive double. -/
def interval (m : Nat) (e : Int) : Interval :=
  let grow := if 0 ≤ e then 1 <<< e.toNat else 1
  let scale := if 0 ≤ e then 1 else 1 <<< (-e).toNat
  -- Below a power of two the neighbouring doubles stand twice as close.
  let narrow := decide (m = hiddenBit ∧ -1074 < e)
  { low := (if narrow then 4 * m - 1 else 4 * m - 2) * grow
    value := 4 * m * grow
    high := (4 * m + 2) * grow
    scale := 4 * scale
    closed := m % 2 = 0 }

/-- Is `digits * 10 ^ exponent` in the interval? -/
def Interval.contains (i : Interval) (digits : Nat) (exponent : Int) : Bool :=
  let up := if 0 ≤ exponent then Nat.pow 10 exponent.toNat else 1
  let down := if 0 ≤ exponent then 1 else Nat.pow 10 (-exponent).toNat
  let n := digits * up * i.scale
  if i.closed then i.low * down ≤ n && n ≤ i.high * down
  else i.low * down < n && n < i.high * down

/-- The better of the value's two neighbours among the multiples of `10 ^ exponent`, if one is in
the interval. -/
def Interval.nearest? (i : Interval) (exponent : Int) : Option Nat :=
  let up := if 0 ≤ exponent then Nat.pow 10 exponent.toNat else 1
  let down := if 0 ≤ exponent then 1 else Nat.pow 10 (-exponent).toNat
  let n := i.value * down
  let d := up * i.scale
  let below := n / d
  let r := n % d
  match i.contains below exponent, i.contains (below + 1) exponent with
  | true, true => if 2 * r < d then some below else some (below + 1)
  | true, false => some below
  | false, true => some (below + 1)
  | false, false => none

/-- The largest power of ten that is at most the value. -/
def Interval.magnitude (i : Interval) : Int :=
  if i.scale ≤ i.value then ((Decimal.digits (i.value / i.scale)).length : Int) - 1
  else
    let n := i.scale / i.value
    let count := (Decimal.digits n).length
    if n = Nat.pow 10 (count - 1) ∧ i.scale % i.value = 0 then 1 - (count : Int)
    else - (count : Int)

/-- The first of the next `fuel` finer grids that holds a decimal of the interval. -/
def Interval.search (i : Interval) : Nat → Int → Nat × Int
  | 0, exponent => (i.value / i.scale, exponent)
  | fuel + 1, exponent =>
    match i.nearest? exponent with
    | some digits => (digits, exponent)
    | none => i.search fuel (exponent - 1)

/-- The digits and the power of ten of the shortest decimal of `m * 2 ^ e`. -/
def shortest (m : Nat) (e : Int) : Nat × Int :=
  let i := interval m e
  i.search 18 i.magnitude

/-- `digits * 10 ^ exponent` with a point and no exponent. -/
def positional (digits : Nat) (exponent : Int) : List Char :=
  let text := Decimal.digits digits
  if 0 ≤ exponent then text ++ List.replicate exponent.toNat '0'
  else
    let places := (-exponent).toNat
    if places < text.length then
      text.take (text.length - places) ++ '.' :: text.drop (text.length - places)
    else '0' :: '.' :: List.replicate (places - text.length) '0' ++ text

/-- The text of a double. -/
def toText (x : Binary64) : String :=
  let signed (negative : Bool) (text : List Char) : String :=
    String.ofList (if negative then '-' :: text else text)
  match x.view with
  | .nan => "NaN"
  | .infinite negative => signed negative ['i', 'n', 'f']
  | .finite negative m e =>
    if m = 0 then signed negative ['0']
    else
      let (digits, exponent) := shortest m e
      signed negative (positional digits exponent)

end LiquidityClient.Binary64
