import LiquidityClient.Binary64
import LiquidityClient.Text.Utf8
import LiquidityClient.Wire.Field

/-!
# Messages and their schemas

A schema lists the fields of a message by name, number and kind, in the order in which they are
written. A `Record` of a schema holds a value for each field; writing leaves out default values, and
reading merges the fields of a byte string into the default record : the last scalar wins,
occurrences of an optional message merge, repeated messages append, and fields that the schema does
not list are ignored. A type of messages is tied to its schema by `Message`.
-/

namespace LiquidityClient.Wire

mutual

/-- The kind of a field. -/
inductive Kind where
  | int32
  | int64
  | uint32
  | uint64
  | bool
  | double
  | string
  | bytes
  | optional (schema : Schema)
  | repeated (schema : Schema)

/-- The fields of a message, in ascending order of their numbers. -/
inductive Schema where
  | nil
  | cons (name : String) (number : Nat) (kind : Kind) (rest : Schema)

end

mutual

/-- The values of a kind. -/
def Kind.Value : Kind → Type
  | .int32 => Int32
  | .int64 => Int64
  | .uint32 => UInt32
  | .uint64 => UInt64
  | .bool => Bool
  | .double => Binary64
  | .string => String
  | .bytes => Bytes
  | .optional schema => Option schema.Record
  | .repeated schema => List schema.Record

/-- A value for each field of a schema. -/
def Schema.Record : Schema → Type
  | .nil => Unit
  | .cons _ _ kind rest => kind.Value × rest.Record

end

mutual

/-- The value of a field that is left out. -/
def Kind.default : (kind : Kind) → kind.Value
  | .int32 => (0 : Int32)
  | .int64 => (0 : Int64)
  | .uint32 => (0 : UInt32)
  | .uint64 => (0 : UInt64)
  | .bool => false
  | .double => (⟨0⟩ : Binary64)
  | .string => ""
  | .bytes => ([] : Bytes)
  | .optional _ => none
  | .repeated _ => []

/-- The record of a message without fields. -/
def Schema.default : (schema : Schema) → schema.Record
  | .nil => ()
  | .cons _ _ kind rest => (kind.default, rest.default)

end

mutual

/-- The bytes of a field. -/
def Kind.encode (number : Nat) : (kind : Kind) → kind.Value → Bytes
  | .int32, (value : Int32) =>
    if value = 0 then [] else key number .varint ++ varint value.toInt64.toUInt64.toNat
  | .int64, (value : Int64) =>
    if value = 0 then [] else key number .varint ++ varint value.toUInt64.toNat
  | .uint32, (value : UInt32) =>
    if value = 0 then [] else key number .varint ++ varint value.toNat
  | .uint64, (value : UInt64) =>
    if value = 0 then [] else key number .varint ++ varint value.toNat
  | .bool, (value : Bool) =>
    if value then key number .varint ++ varint 1 else []
  | .double, (value : Binary64) =>
    if value.isZero then [] else key number .fixed64 ++ Bytes.ofNatLE 8 value.bits.toNat
  | .string, (value : String) =>
    if value = "" then [] else key number .bytes ++ lengthPrefixed (Utf8.encode value)
  | .bytes, (value : Bytes) =>
    if value = [] then [] else key number .bytes ++ lengthPrefixed value
  | .optional schema, (value : Option schema.Record) =>
    match value with
    | none => []
    | some record => key number .bytes ++ lengthPrefixed (schema.encode record)
  | .repeated schema, (value : List schema.Record) =>
    value.flatMap fun record => key number .bytes ++ lengthPrefixed (schema.encode record)

/-- The bytes of a record. -/
def Schema.encode : (schema : Schema) → schema.Record → Bytes
  | .nil, _ => []
  | .cons _ number kind rest, record => kind.encode number record.1 ++ rest.encode record.2

end

/-- How deep messages and groups may nest. -/
def nestingLimit : Nat := 100

mutual

/-- The value of a field after another occurrence of it; `limit` bounds the nesting inside. -/
def Kind.merge (limit : Nat) : (kind : Kind) → kind.Value → Payload → Option kind.Value
  | .int32, _, .varint n => some n.toUInt32.toInt32
  | .int64, _, .varint n => some n.toInt64
  | .uint32, _, .varint n => some n.toUInt32
  | .uint64, _, .varint n => some n
  | .bool, _, .varint n => some (decide (n ≠ 0))
  | .double, _, .fixed64 n => some (⟨n⟩ : Binary64)
  | .string, _, .bytes value => Utf8.decode? value
  | .bytes, _, .bytes value => some value
  | .optional schema, (old : Option schema.Record), .bytes value =>
    match readFields? (limit - 1) value with
    | some fields =>
      (fields.foldlM (schema.merge (limit - 1)) (old.getD schema.default)).map some
    | none => none
  | .repeated schema, (old : List schema.Record), .bytes value =>
    match readFields? (limit - 1) value with
    | some fields =>
      (fields.foldlM (schema.merge (limit - 1)) schema.default).map fun record => old ++ [record]
    | none => none
  | _, _, _ => none

/-- The record after one more field. -/
def Schema.merge (limit : Nat) : (schema : Schema) → schema.Record → Field → Option schema.Record
  | .nil, record, _ => some record
  | .cons _ number kind rest, (record : kind.Value × rest.Record), field =>
    if field.number = number then
      (kind.merge limit record.1 field.payload).map fun value => (value, record.2)
    else (rest.merge limit record.2 field).map fun tail => (record.1, tail)

end

theorem Kind.merge_optional_of_readFields? {limit : Nat} {schema : Schema} {fields : List Field}
    {text : Bytes} (h : readFields? (limit - 1) text = some fields) (old : Option schema.Record) :
    (Kind.optional schema).merge limit old (.bytes text) =
      (fields.foldlM (schema.merge (limit - 1)) (old.getD schema.default)).map some := by
  change (match readFields? (limit - 1) text with
    | some fields => (fields.foldlM (schema.merge (limit - 1)) (old.getD schema.default)).map some
    | none => none) = _
  rw [h]

theorem Kind.merge_repeated_of_readFields? {limit : Nat} {schema : Schema} {fields : List Field}
    {text : Bytes} (h : readFields? (limit - 1) text = some fields) (old : List schema.Record) :
    (Kind.repeated schema).merge limit old (.bytes text) =
      (fields.foldlM (schema.merge (limit - 1)) schema.default).map
        fun record => old ++ [record] := by
  change (match readFields? (limit - 1) text with
    | some fields => (fields.foldlM (schema.merge (limit - 1)) schema.default).map
        fun record => old ++ [record]
    | none => none) = _
  rw [h]

/-- The record that a byte string spells. -/
def Schema.decode? (schema : Schema) (bytes : Bytes) : Option schema.Record :=
  match readFields? nestingLimit bytes with
  | some fields => fields.foldlM (schema.merge nestingLimit) schema.default
  | none => none

/-- A type of messages, tied to its schema. -/
class Message (α : Type) where
  schema : Schema
  toRecord : α → schema.Record
  ofRecord : schema.Record → α
  ofRecord_toRecord : ∀ message, ofRecord (toRecord message) = message

/-- The bytes of a message. -/
def encode {α : Type} [Message α] (message : α) : Bytes :=
  (Message.schema α).encode (Message.toRecord message)

/-- A message of any type. -/
structure AnyMessage where
  schema : Schema
  record : schema.Record

/-- A message, its type forgotten. -/
def AnyMessage.of {α : Type} [Message α] (message : α) : AnyMessage :=
  ⟨Message.schema α, Message.toRecord message⟩

/-- The message that a byte string spells. -/
def decode? (α : Type) [Message α] (bytes : Bytes) : Option α :=
  ((Message.schema α).decode? bytes).map Message.ofRecord

end LiquidityClient.Wire
