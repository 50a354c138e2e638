import LiquidityClient.Text.Decimal
import LiquidityClient.Text.Hex

/-!
# JSON values

A document as it is written : members in order with their duplicates, integers exact, other numbers
by their text. A text with an unpaired surrogate stands for no Unicode text and is kept as `none`.
`JsonValue.render` writes a value on one line, `JsonValue.renderPretty` with a line for each member.
-/

namespace LiquidityClient

/-- A JSON value. -/
inductive JsonValue where
  | null
  | boolean (b : Bool)
  /-- A number without fraction and exponent, other than `-0`. -/
  | integer (n : Int)
  /-- Any other number, as it is written. -/
  | fraction (spelling : String)
  | text (content : Option String)
  | array (items : List JsonValue)
  | object (members : List (Option String × JsonValue))
  deriving Repr

namespace JsonValue

/-- A text. -/
def ofText (content : String) : JsonValue :=
  .text (some content)

/-- An object with these members. -/
def ofMembers (members : List (String × JsonValue)) : JsonValue :=
  .object (members.map fun (name, value) => (some name, value))

/-- An integer, written as a text. -/
def ofDecimal (n : Int) : JsonValue :=
  ofText (Decimal.ofInt n)

/-! ## Writing -/

/-- A character in a quoted text. -/
def escape (c : Char) : List Char :=
  let n := c.toNat
  if n = 8 then ['\\', 'b']
  else if n = 9 then ['\\', 't']
  else if n = 10 then ['\\', 'n']
  else if n = 12 then ['\\', 'f']
  else if n = 13 then ['\\', 'r']
  else if n = 34 ∨ n = 92 then ['\\', c]
  else if n < 32 then ['\\', 'u', '0', '0', Hex.digit (n / 16), Hex.digit (n % 16)]
  else [c]

/-- A quoted text. -/
def quote (content : String) : List Char :=
  '"' :: content.toList.flatMap escape ++ ['"']

/-- Items with commas between them. -/
def commaSeparated (items : List (List Char)) : List Char :=
  List.intercalate [','] items

mutual

/-- The characters of a value on one line. -/
def write : JsonValue → List Char
  | .null => "null".toList
  | .boolean b => (if b then "true" else "false").toList
  | .integer n => (Decimal.ofInt n).toList
  | .fraction spelling => spelling.toList
  | .text content => quote (content.getD "")
  | .array items => '[' :: commaSeparated (writeItems items) ++ [']']
  | .object members => '\x7b' :: commaSeparated (writeMembers members) ++ ['\x7d']

/-- The characters of each item. -/
def writeItems : List JsonValue → List (List Char)
  | [] => []
  | item :: rest => item.write :: writeItems rest

/-- The characters of each member. -/
def writeMembers : List (Option String × JsonValue) → List (List Char)
  | [] => []
  | (name, value) :: rest => (quote (name.getD "") ++ ':' :: value.write) :: writeMembers rest

end

/-- The text of a value on one line. -/
def render (value : JsonValue) : String :=
  String.ofList value.write

/-- A line end and an indentation by two blanks a level. -/
def lineBreak (level : Nat) : List Char :=
  '\n' :: List.replicate (2 * level) ' '

/-- Parts on lines of their own between brackets; nothing stands between the brackets if there are
none. -/
def bracketed (left right : Char) (level : Nat) (parts : List (List Char)) : List Char :=
  if parts.isEmpty then [left, right]
  else
    left :: commaSeparated (parts.map fun part => lineBreak (level + 1) ++ part)
      ++ lineBreak level ++ [right]

mutual

/-- The characters of a value with a line for each part, inside `level` others. -/
def writePretty (level : Nat) : JsonValue → List Char
  | .array items => bracketed '[' ']' level (writePrettyItems (level + 1) items)
  | .object members => bracketed '\x7b' '\x7d' level (writePrettyMembers (level + 1) members)
  | value => value.write

/-- The characters of each item. -/
def writePrettyItems (level : Nat) : List JsonValue → List (List Char)
  | [] => []
  | item :: rest => item.writePretty level :: writePrettyItems level rest

/-- The characters of each member. -/
def writePrettyMembers (level : Nat) : List (Option String × JsonValue) → List (List Char)
  | [] => []
  | (name, value) :: rest =>
    (quote (name.getD "") ++ [':', ' '] ++ value.writePretty level)
      :: writePrettyMembers level rest

end

/-- The text of a value with a line for each part. -/
def renderPretty (value : JsonValue) : String :=
  String.ofList (value.writePretty 0)

end JsonValue

end LiquidityClient
