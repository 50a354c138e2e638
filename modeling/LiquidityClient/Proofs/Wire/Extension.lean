import LiquidityClient.Proofs.Wire.RoundTrip
import Mathlib.Data.List.Forall2

/-!
# Messages of a wider schema

A byte string is read with a schema that need not list all of its fields. Two byte strings whose
fields have the same payloads under each listed number are read alike, and so are those that differ
in the same way inside of their nested messages (`Schema.decode?_alike`) : fields that are not
listed may stand anywhere, and fields with different numbers in any order. Groups count against the
depth to which fields may nest, messages too, so that the last of 100 nested groups must be empty
(`not_decode?_congr_groups`).
-/

namespace LiquidityClient.Wire

/-! ## Fields that a schema cannot tell apart -/

/-- Two payloads that are the same, or texts of related fields. -/
def NestedAlike (limit : Nat) (related : List Field → List Field → Prop) (part part' : Payload) :
    Prop :=
  part = part' ∨ ∃ fields fields' text text', part = .bytes text ∧ part' = .bytes text' ∧
    FieldsText 1 limit fields text ∧ FieldsText 1 limit fields' text' ∧ related fields fields'

mutual

/-- Two payloads that give the same value of a kind, whatever was there before. -/
def Kind.Alike (limit : Nat) : Kind → Payload → Payload → Prop
  | .optional schema, part, part' => NestedAlike (limit - 1) (schema.Alike (limit - 1)) part part'
  | .repeated schema, part, part' => NestedAlike (limit - 1) (schema.Alike (limit - 1)) part part'
  | _, part, part' => part = part'

/-- Two sequences of fields with the same payloads under each number of a schema, up to the fields
inside of nested messages. -/
def Schema.Alike (limit : Nat) : Schema → List Field → List Field → Prop
  | .nil, _, _ => True
  | .cons _ number kind rest, fields, fields' =>
    List.Forall₂ (kind.Alike limit) (payloads number fields) (payloads number fields') ∧
      rest.Alike limit fields fields'

end

theorem foldlM_forall₂ {α : Type} {related : Payload → Payload → Prop}
    {merge : α → Payload → Option α} {parts parts' : List Payload}
    (h : List.Forall₂ related parts parts')
    (hmerge : ∀ part part', related part part' → ∀ old, merge old part = merge old part')
    (old : α) : parts.foldlM merge old = parts'.foldlM merge old := by
  induction h generalizing old with
  | nil => rfl
  | cons hpart _ ih => simp only [List.foldlM_cons, hmerge _ _ hpart, ih]

mutual

/-- Payloads that are alike are merged alike. -/
theorem Kind.merge_alike {limit : Nat} : ∀ (kind : Kind), kind.wellFormed →
    ∀ part part' : Payload, kind.Alike limit part part' →
      ∀ old : kind.Value, kind.merge limit old part = kind.merge limit old part'
  | .int32, _, _, _, h, old => congrArg (Kind.int32.merge limit old) h
  | .int64, _, _, _, h, old => congrArg (Kind.int64.merge limit old) h
  | .uint32, _, _, _, h, old => congrArg (Kind.uint32.merge limit old) h
  | .uint64, _, _, _, h, old => congrArg (Kind.uint64.merge limit old) h
  | .bool, _, _, _, h, old => congrArg (Kind.bool.merge limit old) h
  | .double, _, _, _, h, old => congrArg (Kind.double.merge limit old) h
  | .string, _, _, _, h, old => congrArg (Kind.string.merge limit old) h
  | .bytes, _, _, _, h, old => congrArg (Kind.bytes.merge limit old) h
  | .optional schema, hschema, _, _, h, (old : Option schema.Record) => by
    obtain rfl | ⟨fields, fields', text, text', rfl, rfl, htext, htext', halike⟩ := h
    · rfl
    · have hmerge := Kind.merge_optional hschema htext.readFields?_of_levels old
      have hmerge' := Kind.merge_optional hschema htext'.readFields?_of_levels old
      rw [Schema.gather_alike schema hschema fields fields' halike] at hmerge
      exact hmerge.trans hmerge'.symm
  | .repeated schema, hschema, _, _, h, (old : List schema.Record) => by
    obtain rfl | ⟨fields, fields', text, text', rfl, rfl, htext, htext', halike⟩ := h
    · rfl
    · have hmerge := Kind.merge_repeated hschema htext.readFields?_of_levels old
      have hmerge' := Kind.merge_repeated hschema htext'.readFields?_of_levels old
      rw [Schema.gather_alike schema hschema fields fields' halike] at hmerge
      exact hmerge.trans hmerge'.symm

/-- Fields that are alike are gathered alike. -/
theorem Schema.gather_alike {limit : Nat} : ∀ (schema : Schema), schema.wellFormed →
    ∀ fields fields' : List Field, schema.Alike limit fields fields' →
      ∀ record : schema.Record,
        schema.gather limit record fields = schema.gather limit record fields'
  | .nil, _, _, _, _, _ => rfl
  | .cons _ number kind rest, hschema, fields, fields', ⟨hpayloads, halike⟩, record => by
    obtain ⟨-, -, hkind, hrest⟩ := Schema.wellFormed_cons.1 hschema
    have hvalue := foldlM_forall₂ hpayloads (Kind.merge_alike kind hkind) record.1
    have htail := Schema.gather_alike rest hrest fields fields' halike record.2
    simp only [Schema.gather, hvalue, htail]

end

namespace Schema

variable {schema : Schema} {fields fields' : List Field} {text text' : Bytes}

/-! ## Byte strings that are read alike -/

/-- Texts of fields that are alike are read alike. -/
theorem decode?_alike (h : schema.wellFormed) (htext : FieldsText 1 nestingLimit fields text)
    (htext' : FieldsText 1 nestingLimit fields' text')
    (halike : schema.Alike nestingLimit fields fields') :
    schema.decode? text = schema.decode? text' := by
  rw [decode?_of_readFields? h htext.readFields?_of_levels,
    decode?_of_readFields? h htext'.readFields?_of_levels,
    gather_alike schema h fields fields' halike]

/-- Only the payloads with the numbers of the schema count. -/
theorem decode?_congr (h : schema.wellFormed) (htext : FieldsText 1 nestingLimit fields text)
    (htext' : FieldsText 1 nestingLimit fields' text')
    (hpayloads : ∀ number ∈ schema.numbers, payloads number fields = payloads number fields') :
    schema.decode? text = schema.decode? text' := by
  rw [decode?_of_readFields? h htext.readFields?_of_levels,
    decode?_of_readFields? h htext'.readFields?_of_levels, gather_congr schema _ hpayloads]

end Schema

/-! ## Nested groups -/

/-- A field that is a group with the number 2. -/
theorem fieldsText_group {spare levels : Nat} {fields : List Field} {text : Bytes}
    (h : FieldsText spare levels fields text) :
    FieldsText spare (levels + 1) [⟨2, .group⟩]
      (key 2 .groupStart ++ text ++ key 2 .groupEnd) := by
  have hkey := fun form => keyText_key (by decide : 0 < 2) (by decide) form
  have := FieldsText.group (hkey .groupStart) h (hkey .groupEnd) (.nil _)
  rwa [List.append_nil] at this

/-- A text inside of groups, as many as counted. -/
def nestGroups : Nat → Bytes → Bytes
  | 0, text => text
  | count + 1, text => key 2 .groupStart ++ nestGroups count text ++ key 2 .groupEnd

theorem fieldsText_nestGroups {spare levels : Nat} {fields : List Field} {text : Bytes}
    (h : FieldsText spare levels fields text) (count : Nat) :
    FieldsText spare (levels + (count + 1)) [⟨2, .group⟩] (nestGroups (count + 1) text) := by
  induction count with
  | zero => exact fieldsText_group h
  | succ count ih => exact fieldsText_group ih

/-! ## Wider schemas -/

/-- Fields that a schema does not list may stand anywhere, fields with different numbers in any
order, and what differs in such ways inside of nested messages is read alike too, in every message
of the service. Two messages that are written one after the other are read as their combination. All
fields must nest no deeper than the limit, a field inside of a group or a nested message one level
deeper than that. -/
theorem decode?_of_wider_schema :
    (∀ entry ∈ messageTypes, ∀ (fields fields' : List Field) (text text' : Bytes),
      FieldsText 1 nestingLimit fields text → FieldsText 1 nestingLimit fields' text' →
        (∀ number ∈ entry.2.numbers, payloads number fields = payloads number fields') ∨
          entry.2.Alike nestingLimit fields fields' →
        entry.2.decode? text = entry.2.decode? text') ∧
    (∀ entry ∈ messageTypes, ∀ (front extra rest : List Field) (text text' text'' : Bytes),
      FieldsText 1 nestingLimit front text → FieldsText 1 nestingLimit extra text' →
        FieldsText 1 nestingLimit rest text'' →
        (∀ field ∈ extra, field.number ∉ entry.2.numbers) →
        entry.2.decode? (text ++ text' ++ text'') = entry.2.decode? (text ++ text'')) ∧
    (∀ entry ∈ messageTypes, ∀ (front rest : List Field) (first second : Field)
        (text text' text'' text''' : Bytes),
      FieldsText 1 nestingLimit front text → FieldsText 1 nestingLimit [first] text' →
        FieldsText 1 nestingLimit [second] text'' → FieldsText 1 nestingLimit rest text''' →
        first.number ≠ second.number →
        entry.2.decode? (text ++ (text' ++ text'') ++ text''') =
          entry.2.decode? (text ++ (text'' ++ text') ++ text''')) ∧
    ∀ entry ∈ messageTypes, ∀ old new : entry.2.Record,
      (entry.2.encode old).length < UInt64.size → (entry.2.encode new).length < UInt64.size →
        entry.2.decode? (entry.2.encode old ++ entry.2.encode new) =
          some (entry.2.combine (entry.2.positiveZeros old) (entry.2.positiveZeros new)) := by
  refine ⟨fun entry hentry fields fields' text text' htext htext' hsame => ?_,
    fun entry hentry front extra rest text text' text'' hfront hextra hrest hother => ?_,
    fun entry hentry front rest first second text text' text'' text''' hfront hfirst hsecond hrest
      hne => ?_,
    fun entry hentry old new hold hnew => ?_⟩
  · have hschema := wellFormed_of_mem_messageTypes hentry
    obtain hpayloads | halike := hsame
    · exact Schema.decode?_congr hschema htext htext' hpayloads
    · exact Schema.decode?_alike hschema htext htext' halike
  · refine Schema.decode?_congr (wellFormed_of_mem_messageTypes hentry)
      ((hfront.append hextra).append hrest) (hfront.append hrest) fun number hnumber => ?_
    have hnone : payloads number extra = [] :=
      payloads_of_forall_ne fun field hfield heq => hother field hfield (heq ▸ hnumber)
    rw [payloads_append, payloads_append, payloads_append, hnone, List.append_nil]
  · refine Schema.decode?_congr (wellFormed_of_mem_messageTypes hentry)
      ((hfront.append (hfirst.append hsecond)).append hrest)
      ((hfront.append (hsecond.append hfirst)).append hrest) fun number _ => ?_
    have hswap : payloads number [first, second] = _ := payloads_swap hne
    simp only [List.singleton_append, payloads_append, hswap]
  · exact Schema.decode?_encode_append (wellFormed_of_mem_messageTypes hentry) old new hold hnew

/-- A group that is not listed, and behind it a number that is. -/
theorem decode?_of_wider_schema_ping :
    decode? PingReply (nestGroups 1 (key 3 .varint ++ varint 1) ++ (key 1 .varint ++ varint 5)) =
      some ⟨5⟩ := by
  have hentry : ("PingReply", Message.schema PingReply) ∈ messageTypes := by simp [messageTypes]
  have hkey := fun number (h : 0 < number ∧ number < 0x20000000) => keyText_key h.1 h.2 .varint
  have hinner : FieldsText 1 99 [⟨3, .varint 1⟩] (key 3 .varint ++ varint 1 ++ []) :=
    .plain (by decide) (hkey 3 (by decide)) (plainText_varint 1) (.nil 99)
  have hlisted : FieldsText 1 100 [⟨1, .varint 5⟩] (key 1 .varint ++ varint 5 ++ []) :=
    .plain (by decide) (hkey 1 (by decide)) (plainText_varint 5) (.nil 100)
  rw [List.append_nil] at hinner hlisted
  have hskip := decode?_of_wider_schema.2.1 _ hentry [] _ _ [] _ _ (.nil 100)
    (fieldsText_nestGroups hinner 0) hlisted (by decide)
  have hvalue : decode? PingReply ([] ++ (key 1 .varint ++ varint 5)) = some ⟨5⟩ := by
    decide +kernel
  exact (congrArg (Option.map Message.ofRecord) hskip).trans hvalue

/-- Groups may not nest to the limit around a field : a number inside of a hundred of them is
refused, though no schema lists theirs. -/
theorem not_decode?_congr_groups :
    ¬ ∀ entry ∈ messageTypes, ∀ (fields fields' : List Field) (text text' : Bytes),
      FieldsText 0 100 fields text → FieldsText 0 100 fields' text' →
        (∀ number ∈ entry.2.numbers, payloads number fields = payloads number fields') →
        entry.2.decode? text = entry.2.decode? text' := by
  intro hall
  have hentry : ("PingReply", Message.schema PingReply) ∈ messageTypes := by simp [messageTypes]
  have hinner : FieldsText 0 0 [⟨3, .varint 1⟩] (key 3 .varint ++ varint 1) :=
    fieldsText_singleton (by decide) (plainText_varint 1)
  have hread := hall _ hentry _ _ _ _ (fieldsText_nestGroups hinner 99) (.nil 100) (by decide)
  have hrefused : ((Message.schema PingReply).decode?
      (nestGroups 100 (key 3 .varint ++ varint 1))).isNone := by
    decide +kernel
  rw [hread] at hrefused
  exact absurd hrefused (by decide)

end LiquidityClient.Wire
