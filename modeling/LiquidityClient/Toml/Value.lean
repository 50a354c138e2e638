import LiquidityClient.Text.Decimal

/-!
# TOML values

The values of a document. Floats and date-times keep the text in which they are written.
-/

namespace LiquidityClient.Toml

/-- A value; the names in a table differ. -/
inductive Value where
  | string (text : String)
  | integer (n : Int64)
  | float (text : String)
  | boolean (b : Bool)
  | dateTime (text : String)
  | array (items : List Value)
  | table (entries : List (String × Value))
  deriving Repr

/-- The entries of a table. -/
abbrev Table := List (String × Value)

end LiquidityClient.Toml
