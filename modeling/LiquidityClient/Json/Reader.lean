import LiquidityClient.Json.Value
import LiquidityClient.Text.Scan

/-!
# Reading JSON

`JsonValue.parse?` reads one value with nothing but blanks around it. Numbers follow the grammar
strictly, quoted texts may hold no control characters, and the two halves of a surrogate pair make
one character.
-/

namespace LiquidityClient.JsonValue

/-- Is the character a blank? -/
def isBlank (c : Char) : Bool :=
  c = ' ' || c = '\n' || c = '\t' || c = '\r'

/-! ## Texts -/

/-- What stands in a quoted text : a character, or half of a surrogate pair that lacks the other
one. -/
abbrev TextUnit := Option Char

/-- The unit with the code of an escape, joined with a second half that follows it, and the rest. -/
def joinSurrogates (code : Nat) (rest : List Char) : TextUnit × List Char :=
  if 0xd800 ≤ code ∧ code < 0xdc00 then
    match rest with
    | '\\' :: 'u' :: more =>
      match Scan.number? 16 4 more with
      | some (low, behind) =>
        if 0xdc00 ≤ low ∧ low < 0xe000 then
          (some (Char.ofNat (0x10000 + (code - 0xd800) * 0x400 + (low - 0xdc00))), behind)
        else (none, rest)
      | none => (none, rest)
    | _ => (none, rest)
  else if 0xdc00 ≤ code ∧ code < 0xe000 then (none, rest)
  else (some (Char.ofNat code), rest)

/-- The unit that an escape stands for, given what follows the backslash, and the rest. -/
def escape? : List Char → Option (TextUnit × List Char)
  | [] => none
  | c :: rest =>
    if c = 'b' then some (some (Char.ofNat 8), rest)
    else if c = 't' then some (some '\t', rest)
    else if c = 'n' then some (some '\n', rest)
    else if c = 'f' then some (some (Char.ofNat 12), rest)
    else if c = 'r' then some (some '\r', rest)
    else if c = '"' ∨ c = '\\' ∨ c = '/' then some (some c, rest)
    else if c = 'u' then
      (Scan.number? 16 4 rest).map fun (code, rest) => joinSurrogates code rest
    else none

/-- The units of a text up to its closing quote, and the rest. -/
def units? : Nat → List Char → Option (List TextUnit × List Char)
  | 0, _ => none
  | _, [] => none
  | fuel + 1, c :: rest =>
    if c = '"' then some ([], rest)
    else if c = '\\' then
      match escape? rest with
      | some (unit, rest) => (units? fuel rest).map fun (units, rest) => (unit :: units, rest)
      | none => none
    else if c.toNat < 32 then none
    else (units? fuel rest).map fun (units, rest) => (some c :: units, rest)

/-- A text behind its opening quote, and the rest. -/
def text? (cs : List Char) : Option (Option String × List Char) :=
  (units? (cs.length + 1) cs).map fun (units, rest) =>
    ((units.mapM id).map String.ofList, rest)

/-! ## Numbers -/

/-- The digits that come next, and the rest. -/
def digits (cs : List Char) : List Char × List Char :=
  cs.span (Scan.isDigit 10)

/-- At least one digit, and the rest. -/
def someDigits? (cs : List Char) : Option (List Char × List Char) :=
  match digits cs with
  | ([], _) => none
  | found => some found

/-- The digits of an integer without leading zeros, and the rest. -/
def whole? : List Char → Option (List Char × List Char)
  | '0' :: rest => some (['0'], rest)
  | cs => someDigits? cs

/-- A fraction that may be absent, and the rest. -/
def fraction? : List Char → Option (List Char × List Char)
  | '.' :: rest => (someDigits? rest).map fun (ds, rest) => ('.' :: ds, rest)
  | cs => some ([], cs)

/-- An exponent that may be absent, and the rest. -/
def exponent? : List Char → Option (List Char × List Char)
  | c :: rest =>
    if c = 'e' ∨ c = 'E' then
      match rest with
      | s :: more =>
        if s = '+' ∨ s = '-' then (someDigits? more).map fun (ds, rest) => (c :: s :: ds, rest)
        else (someDigits? rest).map fun (ds, rest) => (c :: ds, rest)
      | [] => none
    else some ([], c :: rest)
  | [] => some ([], [])

/-- A number, and the rest. -/
def number? (cs : List Char) : Option (JsonValue × List Char) := do
  let (negative, body) :=
    match cs with
    | '-' :: rest => (true, rest)
    | cs => (false, cs)
  let (ds, rest) ← whole? body
  let (part, rest) ← fraction? rest
  let (power, rest) ← exponent? rest
  let n : Int := Scan.value 10 ds
  if part = [] ∧ power = [] ∧ ¬(negative ∧ n = 0) then
    return (.integer (if negative then -n else n), rest)
  else
    return (.fraction
      (String.ofList ((if negative then ['-'] else []) ++ ds ++ part ++ power)), rest)

/-! ## Values -/

/-- The items of an array behind its opening bracket or a comma, with a reader of items, and the
rest. -/
def items? (item? : List Char → Option (JsonValue × List Char)) :
    Nat → List Char → Option (List JsonValue × List Char)
  | 0, _ => none
  | fuel + 1, cs =>
    match item? (cs.dropWhile isBlank) with
    | none => none
    | some (item, rest) =>
      match rest.dropWhile isBlank with
      | ',' :: rest => (items? item? fuel rest).map fun (items, rest) => (item :: items, rest)
      | ']' :: rest => some ([item], rest)
      | _ => none

/-- A member of an object, with a reader of values, and the rest. -/
def member? (value? : List Char → Option (JsonValue × List Char)) (cs : List Char) :
    Option ((Option String × JsonValue) × List Char) :=
  match cs.dropWhile isBlank with
  | '"' :: rest =>
    match text? rest with
    | some (name, rest) =>
      match rest.dropWhile isBlank with
      | ':' :: rest =>
        (value? (rest.dropWhile isBlank)).map fun (value, rest) => ((name, value), rest)
      | _ => none
    | none => none
  | _ => none

/-- The members of an object behind its opening brace or a comma, and the rest. -/
def members? (value? : List Char → Option (JsonValue × List Char)) :
    Nat → List Char → Option (List (Option String × JsonValue) × List Char)
  | 0, _ => none
  | fuel + 1, cs =>
    match member? value? cs with
    | none => none
    | some (member, rest) =>
      match rest.dropWhile isBlank with
      | c :: rest =>
        if c = ',' then (members? value? fuel rest).map fun (more, rest) => (member :: more, rest)
        else if c = '\x7d' then some ([member], rest)
        else none
      | [] => none

/-- A value in which arrays and objects nest less than `depth` deep, and the rest. -/
def value? : Nat → List Char → Option (JsonValue × List Char)
  | 0, _ => none
  | depth + 1, cs =>
    match cs with
    | 'n' :: 'u' :: 'l' :: 'l' :: rest => some (.null, rest)
    | 't' :: 'r' :: 'u' :: 'e' :: rest => some (.boolean true, rest)
    | 'f' :: 'a' :: 'l' :: 's' :: 'e' :: rest => some (.boolean false, rest)
    | '"' :: rest => (text? rest).map fun (content, rest) => (.text content, rest)
    | '[' :: rest =>
      match rest.dropWhile isBlank with
      | ']' :: rest => some (.array [], rest)
      | rest =>
        (items? (value? depth) (rest.length + 1) rest).map fun (items, rest) => (.array items, rest)
    | '\x7b' :: rest =>
      match rest.dropWhile isBlank with
      | '\x7d' :: rest => some (.object [], rest)
      | rest =>
        (members? (value? depth) (rest.length + 1) rest).map fun (members, rest) =>
          (.object members, rest)
    | cs => number? cs

/-- The value that a text spells. -/
def parse? (content : String) : Option JsonValue :=
  let cs := content.toList
  match value? (cs.length + 1) (cs.dropWhile isBlank) with
  | some (value, rest) => if rest.all isBlank then some value else none
  | none => none

end LiquidityClient.JsonValue
