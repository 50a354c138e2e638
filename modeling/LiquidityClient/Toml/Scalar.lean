import LiquidityClient.Text.Scan
import LiquidityClient.Toml.Value
import LiquidityClient.Word

/-!
# Numbers, truth values and date-times in TOML

Each reader takes one value off the front of a text and gives it with the rest. Integers are signed
words in base 10, or unsigned in bases 16, 8 and 2; single underscores may stand between digits.
Floats have a fraction or an exponent, and must not be larger than the largest double. Date-times
follow the calendar.
-/

namespace LiquidityClient.Toml

/-- The digits of a base that come next, single underscores between them left out, and the rest. -/
def moreDigits (base : Nat) : List Char → List Char × List Char
  | '_' :: c :: rest =>
    if Scan.isDigit base c then
      let (digits, rest) := moreDigits base rest
      (c :: digits, rest)
    else ([], '_' :: c :: rest)
  | c :: rest =>
    if Scan.isDigit base c then
      let (digits, rest) := moreDigits base rest
      (c :: digits, rest)
    else ([], c :: rest)
  | [] => ([], [])

/-- At least one digit, and the rest. -/
def digits? (base : Nat) : List Char → Option (List Char × List Char)
  | c :: rest =>
    if Scan.isDigit base c then
      let (digits, rest) := moreDigits base rest
      some (c :: digits, rest)
    else none
  | [] => none

/-- Is there a minus sign, and the rest behind a sign. -/
def sign : List Char → Bool × List Char
  | '+' :: rest => (false, rest)
  | '-' :: rest => (true, rest)
  | cs => (false, cs)

/-- The digits of a decimal integer without leading zeros, and the rest. -/
def decimal? : List Char → Option (List Char × List Char)
  | '0' :: rest => some (['0'], rest)
  | cs => digits? 10 cs

/-- A natural number as a signed word. -/
def word? (negative : Bool) (n : Nat) : Option Int64 :=
  if negative then (if n ≤ Word.half64 then some (Int64.ofInt (-(n : Int))) else none)
  else if n < Word.half64 then some (Int64.ofNat n) else none

/-- An integer, and the rest. -/
def integer? (cs : List Char) : Option (Int64 × List Char) :=
  let based (base : Nat) (cs : List Char) : Option (Int64 × List Char) := do
    let (digits, rest) ← digits? base cs
    let n ← word? false (Scan.value base digits)
    return (n, rest)
  match cs with
  | '0' :: 'x' :: rest => based 16 rest
  | '0' :: 'o' :: rest => based 8 rest
  | '0' :: 'b' :: rest => based 2 rest
  | cs => do
    let (negative, cs) := sign cs
    let (digits, rest) ← decimal? cs
    let n ← word? negative (Scan.value 10 digits)
    return (n, rest)

/-! ## Floats -/

/-- The least number that rounds to no double. -/
def floatBound : Nat := 1 <<< 1024 - 1 <<< 970

/-- Does `mantissa * 10 ^ exponent` round to a double? -/
def isFinite (mantissa : Nat) (exponent : Int) : Bool :=
  let size : Int := (Decimal.digits mantissa).length + exponent
  if mantissa = 0 ∨ size < 300 then true
  else if 320 < size then false
  else if 0 ≤ exponent then mantissa * Nat.pow 10 exponent.toNat < floatBound
  else mantissa < floatBound * Nat.pow 10 (-exponent).toNat

/-- The exponent behind its mark and the rest; 0 if there is none. -/
def exponent? : List Char → Option (Int × List Char)
  | c :: rest =>
    if c = 'e' ∨ c = 'E' then do
      let (negative, rest) := sign rest
      let (digits, rest) ← digits? 10 rest
      let n : Int := Scan.value 10 digits
      return (if negative then -n else n, rest)
    else none
  | [] => none

/-- The digits behind a point, and the rest. -/
def fraction? : List Char → Option (List Char × List Char)
  | '.' :: rest => digits? 10 rest
  | _ => none

/-- The rest behind a float. -/
def float? (cs : List Char) : Option (List Char) :=
  let (negative, body) := sign cs
  match body with
  | 'i' :: 'n' :: 'f' :: rest => some rest
  | 'n' :: 'a' :: 'n' :: rest => some rest
  | body => do
    let (whole, behind) ← decimal? body
    let (part, exponent, rest) ←
      match fraction? behind with
      | some (part, behind) =>
        match exponent? behind with
        | some (exponent, rest) => some (part, exponent, rest)
        | none => some (part, (0 : Int), behind)
      | none => (exponent? behind).map fun (exponent, rest) => ([], exponent, rest)
    let finite := isFinite (Scan.value 10 (whole ++ part)) (exponent - part.length)
    if negative || finite then some rest else none

/-! ## Date-times -/

/-- A number of `count` digits between two bounds, and the rest. -/
def bounded? (count low high : Nat) (cs : List Char) : Option (Nat × List Char) :=
  match Scan.number? 10 count cs with
  | some (n, rest) => if low ≤ n ∧ n ≤ high then some (n, rest) else none
  | none => none

/-- The rest behind a character, if it comes next. -/
def mark? (mark : Char) : List Char → Option (List Char)
  | c :: rest => if c = mark then some rest else none
  | [] => none

/-- The number of days of a month. -/
def daysInMonth (year month : Nat) : Nat :=
  let leap := year % 4 = 0 ∧ (year % 100 ≠ 0 ∨ year % 400 = 0)
  if month = 2 then (if leap then 29 else 28)
  else if month = 4 ∨ month = 6 ∨ month = 9 ∨ month = 11 then 30
  else 31

/-- The rest behind a date. -/
def date? (cs : List Char) : Option (List Char) := do
  let (year, cs) ← bounded? 4 0 9999 cs
  let cs ← mark? '-' cs
  let (month, cs) ← bounded? 2 1 12 cs
  let cs ← mark? '-' cs
  let (_, cs) ← bounded? 2 1 (daysInMonth year month) cs
  return cs

/-- The rest behind a time of day. -/
def time? (cs : List Char) : Option (List Char) := do
  let (_, cs) ← bounded? 2 0 23 cs
  let cs ← mark? ':' cs
  let (_, cs) ← bounded? 2 0 59 cs
  let cs ← mark? ':' cs
  let (_, cs) ← bounded? 2 0 60 cs
  match cs with
  | '.' :: c :: rest =>
    if Scan.isDigit 10 c then some (rest.dropWhile (Scan.isDigit 10)) else some cs
  | _ => some cs

/-- The rest behind an offset from universal time. -/
def offset? : List Char → Option (List Char)
  | c :: rest =>
    if c = 'Z' ∨ c = 'z' then some rest
    else if c = '+' ∨ c = '-' then do
      let (_, cs) ← bounded? 2 0 23 rest
      let cs ← mark? ':' cs
      let (_, cs) ← bounded? 2 0 59 cs
      return cs
    else none
  | [] => none

/-- The rest behind a date, a time of day, or both with an offset. -/
def dateTime? (cs : List Char) : Option (List Char) :=
  match date? cs with
  | none => time? cs
  | some behind =>
    match behind with
    | [] => some behind
    | c :: rest =>
      if c = 'T' ∨ c = 't' ∨ c = ' ' then
        match time? rest with
        | some afterTime => some ((offset? afterTime).getD afterTime)
        | none => some behind
      else some behind

/-- The text in front of a rest. -/
def consumed (cs rest : List Char) : String :=
  String.ofList (cs.take (cs.length - rest.length))

/-- A value other than a text, an array and a table, and the rest. -/
def scalar? (cs : List Char) : Option (Value × List Char) :=
  match cs with
  | 't' :: 'r' :: 'u' :: 'e' :: rest => some (.boolean true, rest)
  | 'f' :: 'a' :: 'l' :: 's' :: 'e' :: rest => some (.boolean false, rest)
  | cs =>
    match dateTime? cs with
    | some rest => some (.dateTime (consumed cs rest), rest)
    | none =>
      match float? cs with
      | some rest => some (.float (consumed cs rest), rest)
      | none => (integer? cs).map fun (n, rest) => (.integer n, rest)

end LiquidityClient.Toml
