import LiquidityClient.Toml.Quoted
import LiquidityClient.Toml.Value

/-!
# Writing TOML

A document of tables that hold texts and integers : each table has its header and a line for each
entry, and an empty line stands between tables.
-/

namespace LiquidityClient.Toml

/-- A value that the printer writes. -/
inductive Atom where
  | text (content : String)
  | integer (n : Int64)
  deriving DecidableEq, Repr

namespace Atom

/-- The value that is written. -/
def toValue : Atom → Value
  | .text content => .string content
  | .integer n => .integer n

/-- The characters of a value. -/
def write : Atom → List Char
  | .text content => Quoted.write content.toList
  | .integer n => (Decimal.ofInt n.toInt).toList

end Atom

/-- A line with a name and its value. -/
def writeEntry (entry : String × Atom) : List Char :=
  entry.1.toList ++ [' ', '=', ' '] ++ entry.2.write ++ ['\n']

/-- A table with its header. -/
def writeTable (table : String × List (String × Atom)) : List Char :=
  '[' :: table.1.toList ++ [']', '\n'] ++ table.2.flatMap writeEntry

/-- The text of tables whose names, and the names in them, are bare keys. -/
def render (tables : List (String × List (String × Atom))) : String :=
  String.ofList (List.intercalate ['\n'] (tables.map writeTable))

end LiquidityClient.Toml
