import LiquidityClient.Proofs.Wire.FieldText
import LiquidityClient.Proofs.Wire.Merging

/-!
# Reading what is written

A record is written as a sequence of fields (`Schema.fieldsText`), and these are merged into a
record field by field (`Schema.gather_fields`), so that a record is read back as it was, but for the
sign of zeros (`Schema.decode?_encode`). Two records written one after the other are read as their
combination (`Schema.decode?_encode_append`).
-/

namespace LiquidityClient.Wire

/-! ## The fields of a record -/

/-- The payloads with which a value is written. -/
def Kind.occurrences : (kind : Kind) → kind.Value → List Payload
  | .int32, (value : Int32) => if value = 0 then [] else [.varint value.toInt64.toUInt64]
  | .int64, (value : Int64) => if value = 0 then [] else [.varint value.toUInt64]
  | .uint32, (value : UInt32) => if value = 0 then [] else [.varint value.toUInt64]
  | .uint64, (value : UInt64) => if value = 0 then [] else [.varint value]
  | .bool, (value : Bool) => if value then [.varint 1] else []
  | .double, (value : Binary64) => if value.isZero then [] else [.fixed64 value.bits]
  | .string, (value : String) => if value = "" then [] else [.bytes (Utf8.encode value)]
  | .bytes, (value : Bytes) => if value = [] then [] else [.bytes value]
  | .optional schema, (value : Option schema.Record) =>
    value.toList.map fun record => .bytes (schema.encode record)
  | .repeated schema, (value : List schema.Record) =>
    value.map fun record => .bytes (schema.encode record)

/-- The fields with which a record is written. -/
def Schema.fields : (schema : Schema) → schema.Record → List Field
  | .nil, _ => []
  | .cons _ number kind rest, record =>
    (kind.occurrences record.1).map (Field.mk number) ++ rest.fields record.2

section

variable {number : Nat}

theorem plainText_varint (n : UInt64) : PlainText (.varint n) .varint (varint n.toNat) := by
  have := PlainText.varint (varintText_varint n.toNat_lt)
  rwa [UInt64.ofNat_toNat] at this

theorem plainText_fixed64 (n : UInt64) :
    PlainText (.fixed64 n) .fixed64 (Bytes.ofNatLE 8 n.toNat) := by
  have := PlainText.fixed64 (Bytes.length_ofNatLE 8 n.toNat)
  rwa [Bytes.toNatLE_ofNatLE n.toNat_lt, UInt64.ofNat_toNat] at this

theorem plainText_lengthPrefixed {bytes : Bytes} (h : bytes.length < UInt64.size) :
    PlainText (.bytes bytes) .bytes (lengthPrefixed bytes) :=
  PlainText.bytes (varintText_varint h)

theorem length_le_of_lengthPrefixed (bytes front : Bytes) :
    bytes.length ≤ (front ++ lengthPrefixed bytes).length := by
  simp only [lengthPrefixed, List.length_append]
  omega

/-- One field, under its shortest key. -/
theorem fieldsText_singleton (hnumber : 0 < number ∧ number < 0x20000000) {form : Form}
    {payload : Payload} {text : Bytes} (htext : PlainText payload form text) :
    FieldsText 0 0 [⟨number, payload⟩] (key number form ++ text) := by
  have hkey := keyText_key hnumber.1 hnumber.2 form
  have := FieldsText.plain (Nat.le_refl 0) hkey htext (.nil 0)
  rwa [List.append_nil] at this

/-- A field that is left out under a condition. -/
theorem fieldsText_ite (hnumber : 0 < number ∧ number < 0x20000000) {p : Prop} [Decidable p]
    {form : Form} {payload : Payload} {text : Bytes} (htext : ¬ p → PlainText payload form text) :
    FieldsText 0 0 ((if p then [] else [payload]).map (Field.mk number))
      (if p then [] else key number form ++ text) := by
  split
  · exact .nil 0
  · next hp => exact fieldsText_singleton hnumber (htext hp)

/-- A value is written as its occurrences. -/
theorem Kind.fieldsText (hnumber : 0 < number ∧ number < 0x20000000) :
    ∀ (kind : Kind) (value : kind.Value), (kind.encode number value).length < UInt64.size →
      FieldsText 0 0 ((kind.occurrences value).map (Field.mk number)) (kind.encode number value)
  | .int32, (value : Int32), _ => fieldsText_ite hnumber fun _ => plainText_varint _
  | .int64, (value : Int64), _ => fieldsText_ite hnumber fun _ => plainText_varint _
  | .uint32, (value : UInt32), _ =>
    fieldsText_ite hnumber fun _ => plainText_varint value.toUInt64
  | .uint64, (value : UInt64), _ => fieldsText_ite hnumber fun _ => plainText_varint _
  | .bool, true, _ => fieldsText_singleton hnumber (plainText_varint 1)
  | .bool, false, _ => .nil 0
  | .double, (value : Binary64), _ => fieldsText_ite hnumber fun _ => plainText_fixed64 _
  | .string, (value : String), hsize => by
    refine fieldsText_ite hnumber fun hvalue => plainText_lengthPrefixed ?_
    rw [encode, if_neg hvalue] at hsize
    exact Nat.lt_of_le_of_lt (length_le_of_lengthPrefixed _ _) hsize
  | .bytes, (value : Bytes), hsize => by
    refine fieldsText_ite hnumber fun hvalue => plainText_lengthPrefixed ?_
    rw [encode, if_neg hvalue] at hsize
    exact Nat.lt_of_le_of_lt (length_le_of_lengthPrefixed _ _) hsize
  | .optional _, none, _ => .nil 0
  | .optional _, some _, hsize => by
    have hlength := Nat.lt_of_le_of_lt (length_le_of_lengthPrefixed _ _) hsize
    exact fieldsText_singleton hnumber (plainText_lengthPrefixed hlength)
  | .repeated schema, (records : List schema.Record), hsize => by
    induction records with
    | nil => exact .nil 0
    | cons record records ih =>
      rw [encode, List.flatMap_cons, List.length_append] at hsize
      have hlength := length_le_of_lengthPrefixed (schema.encode record) (key number .bytes)
      have hrecord : (schema.encode record).length < UInt64.size := by omega
      have hhead := fieldsText_singleton hnumber (plainText_lengthPrefixed hrecord)
      have htail := ih (by rw [encode]; omega)
      exact hhead.append htail

/-- A record is written as its fields. -/
theorem Schema.fieldsText : ∀ (schema : Schema) (record : schema.Record), schema.wellFormed →
    (schema.encode record).length < UInt64.size →
      FieldsText 0 0 (schema.fields record) (schema.encode record)
  | .nil, _, _, _ => .nil 0
  | .cons _ number kind rest, record, h, hsize => by
    obtain ⟨hnumber, -, -, hrest⟩ := wellFormed_cons.1 h
    rw [encode, List.length_append] at hsize
    have hhead := kind.fieldsText hnumber record.1 (by omega)
    have htail := Schema.fieldsText rest record.2 hrest (by omega)
    exact hhead.append htail

end

/-! ## Values that are read back -/

mutual

/-- The value without signs on its zeros. -/
def Kind.positiveZeros : (kind : Kind) → kind.Value → kind.Value
  | .double, (value : Binary64) => if value.isZero then (⟨0⟩ : Binary64) else value
  | .optional schema, (value : Option schema.Record) => value.map schema.positiveZeros
  | .repeated schema, (value : List schema.Record) => value.map schema.positiveZeros
  | .int32, value => value
  | .int64, value => value
  | .uint32, value => value
  | .uint64, value => value
  | .bool, value => value
  | .string, value => value
  | .bytes, value => value

/-- The record with every zero among its doubles a positive one. -/
def Schema.positiveZeros : (schema : Schema) → schema.Record → schema.Record
  | .nil, record => record
  | .cons _ _ kind rest, record => (kind.positiveZeros record.1, rest.positiveZeros record.2)

end

mutual

/-- The value of a field that is set twice : a scalar that is not the default takes the place of the
old one, optional messages combine, and repeated ones append. -/
def Kind.combine : (kind : Kind) → kind.Value → kind.Value → kind.Value
  | .int32, (old : Int32), (new : Int32) => if new = 0 then old else new
  | .int64, (old : Int64), (new : Int64) => if new = 0 then old else new
  | .uint32, (old : UInt32), (new : UInt32) => if new = 0 then old else new
  | .uint64, (old : UInt64), (new : UInt64) => if new = 0 then old else new
  | .bool, (old : Bool), (new : Bool) => if new then new else old
  | .double, (old : Binary64), (new : Binary64) => if new.isZero then old else new
  | .string, (old : String), (new : String) => if new = "" then old else new
  | .bytes, (old : Bytes), (new : Bytes) => if new = [] then old else new
  | .optional schema, (old : Option schema.Record), (new : Option schema.Record) =>
    match old, new with
    | some old, some new => some (schema.combine old new)
    | none, new => new
    | old, none => old
  | .repeated _, (old : List _), (new : List _) => old ++ new

/-- Two records combined field by field. -/
def Schema.combine : (schema : Schema) → schema.Record → schema.Record → schema.Record
  | .nil, record, _ => record
  | .cons _ _ kind rest, old, new => (kind.combine old.1 new.1, rest.combine old.2 new.2)

end

section

variable {α : Type} {p : Prop} {_ : Decidable p}

theorem ite_default {old new : α} (h : p → new = old) : (if p then old else new) = new := by
  split
  · next hp => exact (h hp).symm
  · rfl

theorem foldlM_cons_some {merge : α → Payload → Option α} {payload : Payload}
    {parts : List Payload} {old new : α} (h : merge old payload = some new) :
    (payload :: parts).foldlM merge old = parts.foldlM merge new := by
  rw [List.foldlM_cons, h]
  rfl

/-- Merging a field that is left out under a condition. -/
theorem foldlM_ite {merge : α → Payload → Option α} {payload : Payload} {old new : α}
    (h : ¬ p → merge old payload = some new) :
    (if p then [] else [payload]).foldlM merge old = some (if p then old else new) := by
  split
  · rfl
  · next hp => exact foldlM_cons_some (h hp)

end

/-- A double that is read back replaces the old one, unless it is zero. -/
theorem Kind.combine_double (old value : Binary64) :
    Kind.double.combine old (Kind.double.positiveZeros value) =
      if value.isZero then old else value := by
  by_cases hzero : value.isZero
  · have hvalue : Kind.double.positiveZeros value = (⟨0⟩ : Binary64) := if_pos hzero
    rw [hvalue, if_pos hzero]
    rfl
  · have hvalue : Kind.double.positiveZeros value = value := if_neg hzero
    rw [hvalue]
    rfl

/-- Nothing is left of a default under a value that is read back. -/
theorem Kind.combine_default : ∀ (kind : Kind) (value : kind.Value),
    kind.combine kind.default (kind.positiveZeros value) = kind.positiveZeros value
  | .int32, (_ : Int32) => ite_default id
  | .int64, (_ : Int64) => ite_default id
  | .uint32, (_ : UInt32) => ite_default id
  | .uint64, (_ : UInt64) => ite_default id
  | .bool, true => rfl
  | .bool, false => rfl
  | .double, (value : Binary64) => Kind.combine_double _ value
  | .string, (_ : String) => ite_default id
  | .bytes, (_ : Bytes) => ite_default id
  | .optional _, none => rfl
  | .optional _, some _ => rfl
  | .repeated _, _ => rfl

theorem Schema.combine_default : ∀ (schema : Schema) (record : schema.Record),
    schema.combine schema.default (schema.positiveZeros record) = schema.positiveZeros record
  | .nil, _ => rfl
  | .cons _ _ kind rest, record => by
    simp only [combine, default, positiveZeros, kind.combine_default,
      Schema.combine_default rest record.2]
    rfl

theorem toInt32_toUInt32_toInt64 (value : Int32) :
    value.toInt64.toUInt64.toUInt32.toInt32 = value := by
  have hbits : (value.toBitVec.signExtend 64).setWidth 32 = value.toBitVec := by
    ext i hi
    simp [hi, BitVec.getLsbD_signExtend]
    omega
  apply Int32.toBitVec.inj
  simpa using hbits

/-- The fields of the rest of a schema have other numbers. -/
theorem Schema.payloads_fields {number : Nat} : ∀ (schema : Schema) (record : schema.Record),
    number ∉ schema.numbers → payloads number (schema.fields record) = []
  | .nil, _, _ => rfl
  | .cons _ other kind rest, record, h => by
    obtain ⟨hne, hrest⟩ := not_or.1 fun hmem => h (List.mem_cons.2 hmem)
    rw [fields, payloads_append, payloads_map_mk_of_ne (Ne.symm hne),
      Schema.payloads_fields rest record.2 hrest, List.append_nil]

mutual

/-- The occurrences with which a value is written are merged into its combination with the old
one. -/
theorem Kind.foldlM_occurrences (number limit : Nat) :
    ∀ (kind : Kind), kind.wellFormed → ∀ old value : kind.Value,
      (kind.encode number value).length < UInt64.size →
        (kind.occurrences value).foldlM (kind.merge limit) old =
          some (kind.combine old (kind.positiveZeros value))
  | .int32, _, (old : Int32), (value : Int32), _ =>
    foldlM_ite fun _ => congrArg some (toInt32_toUInt32_toInt64 value)
  | .int64, _, (old : Int64), (value : Int64), _ =>
    foldlM_ite fun _ => congrArg some value.toInt64_toUInt64
  | .uint32, _, (old : UInt32), (value : UInt32), _ =>
    foldlM_ite fun _ => congrArg some value.toUInt32_toUInt64
  | .uint64, _, (old : UInt64), (value : UInt64), _ => foldlM_ite fun _ => rfl
  | .bool, _, _, true, _ => rfl
  | .bool, _, _, false, _ => rfl
  | .double, _, (old : Binary64), (value : Binary64), _ => by
    rw [Kind.combine_double]
    exact foldlM_ite fun _ => rfl
  | .string, _, (old : String), (value : String), _ =>
    foldlM_ite fun _ => Utf8.decode?_encode value
  | .bytes, _, (old : Bytes), (value : Bytes), _ => foldlM_ite fun _ => rfl
  | .optional _, _, none, none, _ => rfl
  | .optional _, _, some _, none, _ => rfl
  | .optional schema, h, (old : Option schema.Record), some record, hsize => by
    have hlength := Nat.lt_of_le_of_lt (length_le_of_lengthPrefixed _ _) hsize
    have hread := (schema.fieldsText record h hlength).readFields?_of_plain (limit - 1)
    have hgather := Schema.gather_fields (limit - 1) schema h (old.getD schema.default) record
      hlength
    have hmerge := Kind.merge_optional h hread old
    rw [hgather, Option.map_some] at hmerge
    refine (foldlM_cons_some hmerge).trans (congrArg some ?_)
    cases old with
    | none => exact congrArg some (schema.combine_default record)
    | some old => rfl
  | .repeated schema, h, (old : List schema.Record), (records : List schema.Record), hsize => by
    induction records generalizing old with
    | nil => exact congrArg some (List.append_nil old).symm
    | cons record records ih =>
      rw [Kind.encode, List.flatMap_cons, List.length_append] at hsize
      have hlength := length_le_of_lengthPrefixed (schema.encode record) (key number .bytes)
      have hread := (schema.fieldsText record h (by omega)).readFields?_of_plain (limit - 1)
      have hgather := Schema.gather_fields (limit - 1) schema h schema.default record (by omega)
      have hmerge := Kind.merge_repeated h hread old
      rw [hgather, Schema.combine_default, Option.map_some] at hmerge
      have htail := ih (old ++ [schema.positiveZeros record]) (by rw [Kind.encode]; omega)
      refine (foldlM_cons_some hmerge).trans (htail.trans (congrArg some ?_))
      exact List.append_assoc old [schema.positiveZeros record] _

/-- The fields of a record are gathered into its combination with the old one. -/
theorem Schema.gather_fields (limit : Nat) : ∀ (schema : Schema), schema.wellFormed →
    ∀ old record : schema.Record, (schema.encode record).length < UInt64.size →
      schema.gather limit old (schema.fields record) =
        some (schema.combine old (schema.positiveZeros record))
  | .nil, _, _, _, _ => rfl
  | .cons _ number kind rest, h, old, record, hsize => by
    obtain ⟨-, hnew, hkind, hrest⟩ := Schema.wellFormed_cons.1 h
    rw [Schema.encode, List.length_append] at hsize
    have hvalue := Kind.foldlM_occurrences number limit kind hkind old.1 record.1 (by omega)
    have htail := Schema.gather_fields limit rest hrest old.2 record.2 (by omega)
    have hpayloads := rest.payloads_fields record.2 hnew
    -- the other numbers of the schema do not see the occurrences of this one
    have hskip : rest.gather limit old.2 ((kind.occurrences record.1).map (Field.mk number) ++
        rest.fields record.2) = rest.gather limit old.2 (rest.fields record.2) := by
      refine Schema.gather_congr rest old.2 fun other hother => ?_
      have hne : number ≠ other := fun heq => hnew (heq ▸ hother)
      rw [payloads_append, payloads_map_mk_of_ne hne, List.nil_append]
    simp only [Schema.gather, Schema.fields, payloads_append, payloads_map_mk_self, hpayloads,
      List.append_nil, hvalue, hskip, htail]
    rfl

end

/-! ## Records and messages -/

namespace Schema

variable {schema : Schema}

/-- What is read from the fields of a byte string. -/
theorem decode?_of_readFields? (h : schema.wellFormed) {bytes : Bytes} {fields : List Field}
    (hread : readFields? nestingLimit bytes = some fields) :
    schema.decode? bytes = schema.gather nestingLimit schema.default fields := by
  rw [decode?, hread]
  exact foldlM_merge h schema.default

/-- A record is read back, but for the signs of zeros. -/
theorem decode?_encode (h : schema.wellFormed) (record : schema.Record)
    (hsize : (schema.encode record).length < UInt64.size) :
    schema.decode? (schema.encode record) = some (schema.positiveZeros record) := by
  have hread := (schema.fieldsText record h hsize).readFields?_of_plain nestingLimit
  rw [decode?_of_readFields? h hread, gather_fields nestingLimit schema h schema.default
    record hsize,
    combine_default]

/-- Two records that are written one after the other are read as their combination. -/
theorem decode?_encode_append (h : schema.wellFormed) (old new : schema.Record)
    (hold : (schema.encode old).length < UInt64.size)
    (hnew : (schema.encode new).length < UInt64.size) :
    schema.decode? (schema.encode old ++ schema.encode new) =
      some (schema.combine (schema.positiveZeros old) (schema.positiveZeros new)) := by
  have htext := (schema.fieldsText old h hold).append (schema.fieldsText new h hnew)
  have hread := htext.readFields?_of_plain nestingLimit
  have hfirst := gather_fields nestingLimit schema h schema.default old hold
  have hsecond := gather_fields nestingLimit schema h (schema.positiveZeros old) new hnew
  rw [combine_default] at hfirst
  rw [decode?_of_readFields? h hread, gather_append h, hfirst]
  exact hsecond

end Schema

mutual

/-- Is there no double in the kind? -/
def Kind.doubleFree : Kind → Bool
  | .double => false
  | .optional schema => schema.doubleFree
  | .repeated schema => schema.doubleFree
  | _ => true

/-- Is there no double in the schema? -/
def Schema.doubleFree : Schema → Bool
  | .nil => true
  | .cons _ _ kind rest => kind.doubleFree && rest.doubleFree

end

mutual

theorem Kind.positiveZeros_of_doubleFree : ∀ (kind : Kind), kind.doubleFree →
    ∀ value : kind.Value, kind.positiveZeros value = value
  | .int32, _, _ => rfl
  | .int64, _, _ => rfl
  | .uint32, _, _ => rfl
  | .uint64, _, _ => rfl
  | .bool, _, _ => rfl
  | .string, _, _ => rfl
  | .bytes, _, _ => rfl
  | .optional _, _, none => rfl
  | .optional schema, h, some record =>
    congrArg some (Schema.positiveZeros_of_doubleFree schema h record)
  | .repeated schema, h, (records : List schema.Record) => by
    have hmap := List.map_congr_left fun record (_ : record ∈ records) =>
      Schema.positiveZeros_of_doubleFree schema h record
    exact hmap.trans (List.map_id' records)

/-- Without doubles a record has no zero with a sign. -/
theorem Schema.positiveZeros_of_doubleFree : ∀ (schema : Schema), schema.doubleFree →
    ∀ record : schema.Record, schema.positiveZeros record = record
  | .nil, _, _ => rfl
  | .cons _ _ kind rest, h, (value, tail) => by
    obtain ⟨hkind, hrest⟩ := Bool.and_eq_true_iff.1 h
    have hvalue := Kind.positiveZeros_of_doubleFree kind hkind value
    have htail := Schema.positiveZeros_of_doubleFree rest hrest tail
    exact Prod.ext hvalue htail

end

/-- The message with every zero among its doubles a positive one. -/
def positiveZeros {α : Type} [Message α] (message : α) : α :=
  Message.ofRecord ((Message.schema α).positiveZeros (Message.toRecord message))

theorem positiveZeros_of_doubleFree {α : Type} [Message α] (h : (Message.schema α).doubleFree)
    (message : α) : positiveZeros message = message := by
  rw [positiveZeros, Schema.positiveZeros_of_doubleFree _ h, Message.ofRecord_toRecord]

/-- A message is read back, but for the signs of zeros. -/
theorem decode?_encode {α : Type} [Message α] (h : (Message.schema α).wellFormed) (message : α)
    (hsize : (encode message).length < UInt64.size) :
    decode? α (encode message) = some (positiveZeros message) := by
  have hrecord := Schema.decode?_encode h (Message.toRecord message) hsize
  rw [decode?, encode, hrecord]
  rfl

theorem wellFormed_of_mem_map {α : Type} [Message α]
    (h : Message.schema α ∈ messageTypes.map (·.2)) : (Message.schema α).wellFormed := by
  obtain ⟨entry, hentry, hschema⟩ := List.mem_map.1 h
  exact hschema ▸ wellFormed_of_mem_messageTypes hentry

/-- Every message of the service is read back from its bytes, but for the signs of zeros among its
doubles; a route, which has no double, is read back as it was. The bytes must be fewer than the
lengths on the wire can count. -/
theorem read_back :
    (∀ entry ∈ messageTypes, ∀ record : entry.2.Record,
      (entry.2.encode record).length < UInt64.size →
        entry.2.decode? (entry.2.encode record) = some (entry.2.positiveZeros record)) ∧
    (∀ (α : Type) [Message α], Message.schema α ∈ messageTypes.map (·.2) → ∀ message : α,
      (encode message).length < UInt64.size →
        decode? α (encode message) = some (positiveZeros message)) ∧
    ∀ route : Route, (encode route).length < UInt64.size →
      decode? Route (encode route) = some route := by
  refine ⟨fun entry hentry record hsize => ?_, fun α _ hschema message hsize => ?_,
    fun route hsize => ?_⟩
  · exact Schema.decode?_encode (wellFormed_of_mem_messageTypes hentry) record hsize
  · exact decode?_encode (wellFormed_of_mem_map hschema) message hsize
  · have hread := decode?_encode (by decide) route hsize
    rwa [positiveZeros_of_doubleFree (by decide)] at hread

/-- A response with one route and a negative zero, which is read back as a positive one. -/
theorem read_back_negativeZero :
    let hop : Hop := ⟨1, 2, -3, 4, "ab", true, some ⟨[], -1⟩⟩
    let response : QueryRoutesResponse := ⟨[⟨[hop], 1, -5, 9⟩], ⟨0x8000000000000000⟩⟩
    (encode response).length < UInt64.size ∧
      decode? QueryRoutesResponse (encode response) =
        some { response with successProb := ⟨0⟩ } := by
  intro hop response
  have hsize : (encode response).length < UInt64.size := by decide +kernel
  have hschema : Message.schema QueryRoutesResponse ∈ messageTypes.map (·.2) :=
    List.mem_map.2 ⟨("QueryRoutesResponse", _), by simp [messageTypes], rfl⟩
  have hzeros : positiveZeros response = { response with successProb := ⟨0⟩ } := by
    decide +kernel
  exact ⟨hsize, hzeros ▸ read_back.2.1 QueryRoutesResponse hschema response hsize⟩

end LiquidityClient.Wire
