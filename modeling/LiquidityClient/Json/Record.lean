import LiquidityClient.Json.Value
import LiquidityClient.Text.Base64

/-!
# Records in JSON

A record is an object whose known members occur once, unknown members being skipped, or an array of
the fields in order. Numbers are also accepted as texts of digits; a number is never rounded or cut
to fit.
-/

namespace LiquidityClient

/-- A record in a document. -/
inductive JsonRecord where
  | named (members : List (Option String × JsonValue))
  | listed (items : List JsonValue)

namespace JsonRecord

/-- The record with fields of these names that a value stands for. -/
def ofValue? (names : List String) : JsonValue → Option JsonRecord
  | .object members =>
    if members.all (fun m => m.1.isSome)
        && names.all (fun name => members.countP (fun m => m.1 == some name) ≤ 1) then
      some (.named members)
    else none
  | .array items => if items.length ≤ names.length then some (.listed items) else none
  | _ => none

/-- The value of a field, by name or by position. -/
def get? (position : Nat) (name : String) : JsonRecord → Option JsonValue
  | .named members => members.lookup (some name)
  | .listed items => items[position]?

/-- A field read by `read?`, or the default if it is left out. -/
def field? {α : Type} (position : Nat) (name : String) (default : α) (read? : JsonValue → Option α)
    (record : JsonRecord) : Option α :=
  match record.get? position name with
  | none => some default
  | some value => read? value

/-- A field that must be there. -/
def required? {α : Type} (position : Nat) (name : String) (read? : JsonValue → Option α)
    (record : JsonRecord) : Option α :=
  (record.get? position name).bind read?

end JsonRecord

namespace JsonValue

/-- The text in a value. -/
def asText? : JsonValue → Option String
  | .text content => content
  | _ => none

/-- The truth value in a value. -/
def asBoolean? : JsonValue → Option Bool
  | .boolean b => some b
  | _ => none

/-- The items of an array, each read by `read?`. -/
def asList? {α : Type} (read? : JsonValue → Option α) : JsonValue → Option (List α)
  | .array items => items.mapM read?
  | _ => none

/-- The value read by `read?`, or nothing for a null. -/
def asOptional? {α : Type} (read? : JsonValue → Option α) : JsonValue → Option (Option α)
  | .null => some none
  | value => (read? value).map some

/-- A natural number of at most `bound`, as a number. -/
def asNat? (bound : Nat) : JsonValue → Option Nat
  | .integer n => if 0 ≤ n ∧ n ≤ bound then some n.toNat else none
  | _ => none

/-- An integer with a reader of decimal texts : a null and an empty text count as `zero`. -/
def asDecimal? {α : Type} (zero : α) (read : String → Except IntegerError α) : JsonValue → Option α
  | .null => some zero
  | .text (some content) => if content = "" then some zero else (read content).toOption
  | .integer n => (read (Decimal.ofInt n)).toOption
  | _ => none

/-- An unsigned 32-bit number, as a number or a text. -/
def asUInt32? : JsonValue → Option UInt32 :=
  asDecimal? 0 Decimal.readUInt32

/-- An unsigned 64-bit number, as a number or a text. -/
def asUInt64? : JsonValue → Option UInt64 :=
  asDecimal? 0 Decimal.readUInt64

/-- A signed 64-bit number, as a number or a text. -/
def asInt64? : JsonValue → Option Int64 :=
  asDecimal? 0 Decimal.readInt64

/-- A byte string in Base64; a null counts as the empty one. -/
def asBytes? : JsonValue → Option Bytes
  | .null => some []
  | .text (some content) => Base64.decode? content
  | _ => none

/-- A byte string in Base64. -/
def ofBytes (bytes : Bytes) : JsonValue :=
  ofText (Base64.encode bytes)

end JsonValue

end LiquidityClient
