import LiquidityClient.Bytes

/-!
# Fields on the wire

A message is a sequence of fields, each a key and a payload. The key holds the field's number and
the form of the payload : a variable-length integer, a fixed word, a length-prefixed byte string, or
a group, which is a sequence of fields up to a closing key of its own. `readFields?` splits a byte
string into its fields; groups are skipped, since no message here declares one.
-/

namespace LiquidityClient.Wire

/-- The variable-length form of a number : seven bits a byte, low bits first, and the top bit set on
all bytes but the last. -/
def varint (n : Nat) : Bytes :=
  if n < 128 then [UInt8.ofNat n] else UInt8.ofNat (n % 128 + 128) :: varint (n / 128)

/-- The number at the front, in at most `count` bytes of which the tenth may only be 0 or 1, and
what follows it. -/
def readVarintUpTo : Nat → Bytes → Option (Nat × Bytes)
  | 0, _ => none
  | _, [] => none
  | count + 1, byte :: rest =>
    if byte.toNat < 128 then
      if count = 0 ∧ 2 ≤ byte.toNat then none else some (byte.toNat, rest)
    else
      match readVarintUpTo count rest with
      | some (n, rest) => some (byte.toNat % 128 + 128 * n, rest)
      | none => none

/-- The number at the front, below `2 ^ 64`, and what follows it. -/
def readVarint? (bytes : Bytes) : Option (Nat × Bytes) :=
  readVarintUpTo 10 bytes

/-- The forms of a payload. -/
inductive Form where
  | varint
  | fixed64
  | bytes
  | groupStart
  | groupEnd
  | fixed32
  deriving DecidableEq, Repr

/-- The form with this code. -/
def Form.ofCode? : Nat → Option Form
  | 0 => some .varint
  | 1 => some .fixed64
  | 2 => some .bytes
  | 3 => some .groupStart
  | 4 => some .groupEnd
  | 5 => some .fixed32
  | _ => none

/-- The code of a form. -/
def Form.code : Form → Nat
  | .varint => 0
  | .fixed64 => 1
  | .bytes => 2
  | .groupStart => 3
  | .groupEnd => 4
  | .fixed32 => 5

/-- The key of a field. -/
def key (number : Nat) (form : Form) : Bytes :=
  varint (8 * number + form.code)

/-- The key at the front, which must fit 32 bits and have a positive number, and what follows it. -/
def readKey? (bytes : Bytes) : Option (Nat × Form × Bytes) :=
  match readVarint? bytes with
  | some (n, rest) =>
    if n < UInt32.size ∧ 0 < n / 8 then
      match Form.ofCode? (n % 8) with
      | some form => some (n / 8, form, rest)
      | none => none
    else none
  | none => none

/-- The payload of a field. -/
inductive Payload where
  | varint (value : UInt64)
  | fixed64 (value : UInt64)
  | bytes (value : Bytes)
  | fixed32 (value : UInt32)
  /-- A group, with its content skipped. -/
  | group
  deriving DecidableEq, Repr

/-- A field of a message. -/
structure Field where
  number : Nat
  payload : Payload
  deriving DecidableEq, Repr

/-- A byte string behind its length. -/
def lengthPrefixed (bytes : Bytes) : Bytes :=
  varint bytes.length ++ bytes

/-- The first `count` bytes and the rest, if there are that many. -/
def split? (count : Nat) (bytes : Bytes) : Option (Bytes × Bytes) :=
  if count ≤ bytes.length then some (bytes.take count, bytes.drop count) else none

/-- The payload at the front that is no group, and what follows it. -/
def readPlain? (form : Form) (bytes : Bytes) : Option (Payload × Bytes) :=
  match form with
  | .varint => (readVarint? bytes).map fun (n, rest) => (.varint (UInt64.ofNat n), rest)
  | .fixed64 => (split? 8 bytes).map fun (word, rest) =>
      (.fixed64 (UInt64.ofNat (Bytes.toNatLE word)), rest)
  | .fixed32 => (split? 4 bytes).map fun (word, rest) =>
      (.fixed32 (UInt32.ofNat (Bytes.toNatLE word)), rest)
  | .bytes =>
    match readVarint? bytes with
    | some (length, rest) => (split? length rest).map fun (value, rest) => (.bytes value, rest)
    | none => none
  | .groupStart => none
  | .groupEnd => none

/-- What follows the innermost of the open groups and all around it. The groups stand innermost
first, at most `limit` of them, and a group at the limit may hold no field. -/
def closeGroups? (limit : Nat) : Nat → List Nat → Bytes → Option Bytes
  | _, [], bytes => some bytes
  | 0, _, _ => none
  | fuel + 1, innermost :: outer, bytes =>
    match readKey? bytes with
    | none => none
    | some (number, .groupEnd, rest) =>
      if number = innermost then closeGroups? limit fuel outer rest else none
    | some (number, form, rest) =>
      if outer.length + 1 < limit then
        match form with
        | .groupStart => closeGroups? limit fuel (number :: innermost :: outer) rest
        | form =>
          match readPlain? form rest with
          | some (_, rest) => closeGroups? limit fuel (innermost :: outer) rest
          | none => none
      else none

/-- The field at the front and what follows it; a group may nest to `limit`. -/
def readField? (limit : Nat) (bytes : Bytes) : Option (Field × Bytes) :=
  match readKey? bytes with
  | none => none
  | some (number, .groupStart, rest) =>
    (closeGroups? limit rest.length [number] rest).map fun rest => (⟨number, .group⟩, rest)
  | some (number, form, rest) =>
    (readPlain? form rest).map fun (payload, rest) => (⟨number, payload⟩, rest)

/-- The fields of a byte string, at most `fuel` of them. -/
def readFieldsUpTo (limit : Nat) : Nat → Bytes → Option (List Field)
  | _, [] => some []
  | 0, _ => none
  | fuel + 1, bytes =>
    match readField? limit bytes with
    | some (field, rest) => (readFieldsUpTo limit fuel rest).map (field :: ·)
    | none => none

/-- The fields of a byte string, if it is a sequence of fields whose groups nest to at most
`limit`. -/
def readFields? (limit : Nat) (bytes : Bytes) : Option (List Field) :=
  readFieldsUpTo limit bytes.length bytes

end LiquidityClient.Wire
