import LiquidityClient.Wire.Messages

/-!
# Merging fields

The fields of a message are merged one number at a time : what becomes of a record depends, for each
number of the schema, on the payloads with that number in their order, and on nothing else
(`Schema.foldlM_merge`, `Schema.gather_congr`). This needs each number to stand in the schema once
(`Schema.wellFormed`), as in every message of the service (`wellFormed_of_mem_messageTypes`).
-/

namespace LiquidityClient.Wire

/-! ## Payloads by number -/

/-- The payloads of the fields with a number, in their order. -/
def payloads (number : Nat) (fields : List Field) : List Payload :=
  (fields.filter (·.number = number)).map (·.payload)

section

variable {number other : Nat} {fields fields' : List Field}

@[simp] theorem payloads_nil : payloads number [] = [] :=
  rfl

theorem payloads_cons_self {field : Field} (h : field.number = number) :
    payloads number (field :: fields) = field.payload :: payloads number fields := by
  simp [payloads, h]

theorem payloads_cons_of_ne {field : Field} (h : field.number ≠ number) :
    payloads number (field :: fields) = payloads number fields := by
  simp [payloads, h]

theorem payloads_append :
    payloads number (fields ++ fields') = payloads number fields ++ payloads number fields' := by
  simp [payloads]

/-- The payloads of fields with one number. -/
theorem payloads_map_mk_self (parts : List Payload) :
    payloads number (parts.map (Field.mk number)) = parts := by
  simp [payloads, List.filter_map, Function.comp_def]

theorem payloads_map_mk_of_ne (h : other ≠ number) (parts : List Payload) :
    payloads number (parts.map (Field.mk other)) = [] := by
  simp [payloads, List.filter_map, Function.comp_def, h]

theorem payloads_of_forall_ne (h : ∀ field ∈ fields, field.number ≠ number) :
    payloads number fields = [] := by
  simpa [payloads, List.filter_eq_nil_iff] using h

/-- The order of two fields with different numbers does not count. -/
theorem payloads_swap {first second : Field} (h : first.number ≠ second.number) :
    payloads number [first, second] = payloads number [second, first] := by
  by_cases hfirst : first.number = number
  · have hsecond : second.number ≠ number := fun heq => h (hfirst.trans heq.symm)
    rw [payloads_cons_self hfirst, payloads_cons_of_ne hsecond, payloads_cons_of_ne hsecond,
      payloads_cons_self hfirst]
  · rw [payloads_cons_of_ne hfirst]
    by_cases hsecond : second.number = number
    · rw [payloads_cons_self hsecond, payloads_cons_self hsecond, payloads_cons_of_ne hfirst]
    · rw [payloads_cons_of_ne hsecond, payloads_cons_of_ne hsecond, payloads_cons_of_ne hfirst]

end

/-! ## Well-formed schemas -/

/-- The numbers of a schema. -/
def Schema.numbers : Schema → List Nat
  | .nil => []
  | .cons _ number _ rest => number :: rest.numbers

mutual

/-- Are the schemas inside a kind well formed? -/
def Kind.wellFormed : Kind → Bool
  | .optional schema => schema.wellFormed
  | .repeated schema => schema.wellFormed
  | _ => true

/-- Are the numbers of a schema in range and different, and the schemas inside well formed? -/
def Schema.wellFormed : Schema → Bool
  | .nil => true
  | .cons _ number kind rest =>
    decide (0 < number ∧ number < 0x20000000) && !rest.numbers.contains number &&
      kind.wellFormed && rest.wellFormed

end

theorem Schema.wellFormed_cons {name : String} {number : Nat} {kind : Kind} {rest : Schema} :
    (Schema.cons name number kind rest).wellFormed ↔
      (0 < number ∧ number < 0x20000000) ∧ number ∉ rest.numbers ∧ kind.wellFormed ∧
        rest.wellFormed := by
  simp only [Schema.wellFormed, Bool.and_eq_true, decide_eq_true_eq, Bool.not_eq_true',
    List.contains_eq_mem, decide_eq_false_iff_not, and_assoc]

/-- Every message of the service has a well-formed schema. -/
theorem wellFormed_of_mem_messageTypes {entry : String × Schema} (h : entry ∈ messageTypes) :
    entry.2.wellFormed := by
  have hall : messageTypes.all (fun entry => entry.2.wellFormed) := by decide
  exact List.all_eq_true.1 hall entry h

/-! ## Records field by field -/

/-- The record after the occurrences of its fields, taken one number at a time. -/
def Schema.gather (limit : Nat) :
    (schema : Schema) → schema.Record → List Field → Option schema.Record
  | .nil, record, _ => some record
  | .cons _ number kind rest, (record : kind.Value × rest.Record), fields =>
    match (payloads number fields).foldlM (kind.merge limit) record.1,
        rest.gather limit record.2 fields with
    | some value, some tail => some (value, tail)
    | _, _ => none

namespace Schema

variable {limit : Nat} {fields fields' : List Field}

/-- Only the payloads with the numbers of the schema count. -/
theorem gather_congr : ∀ (schema : Schema) (record : schema.Record),
    (∀ number ∈ schema.numbers, payloads number fields = payloads number fields') →
      schema.gather limit record fields = schema.gather limit record fields'
  | .nil, _, _ => rfl
  | .cons _ number kind rest, record, h => by
    have hhead := h number List.mem_cons_self
    have htail := gather_congr rest record.2 fun other hother =>
      h other (List.mem_cons_of_mem _ hother)
    simp only [gather, hhead, htail]

/-- A field whose number the schema does not list is ignored. -/
theorem gather_cons_of_notMem {schema : Schema} {field : Field} (h : field.number ∉ schema.numbers)
    (record : schema.Record) :
    schema.gather limit record (field :: fields) = schema.gather limit record fields :=
  gather_congr schema record fun _ hnumber =>
    payloads_cons_of_ne fun heq => h (heq ▸ hnumber)

theorem gather_nil : ∀ (schema : Schema) (record : schema.Record),
    schema.gather limit record [] = some record
  | .nil, _ => rfl
  | .cons _ _ kind rest, record => by
    simp only [gather, payloads_nil, List.foldlM_nil, gather_nil rest record.2]
    rfl

/-- The first field is merged, then the others are gathered. -/
theorem gather_cons (field : Field) : ∀ (schema : Schema) (record : schema.Record),
    schema.wellFormed → schema.gather limit record (field :: fields) =
      (schema.merge limit record field).bind fun merged => schema.gather limit merged fields
  | .nil, _, _ => rfl
  | .cons _ number kind rest, record, h => by
    obtain ⟨-, hnew, -, hrest⟩ := wellFormed_cons.1 h
    by_cases hnumber : field.number = number
    · have hother : field.number ∉ rest.numbers := hnumber ▸ hnew
      simp only [gather, merge, payloads_cons_self hnumber, List.foldlM_cons,
        gather_cons_of_notMem hother, if_pos hnumber]
      cases kind.merge limit record.1 field.payload <;> rfl
    · have htail := gather_cons field rest record.2 hrest
      simp only [gather, merge, payloads_cons_of_ne hnumber, htail, if_neg hnumber]
      cases rest.merge limit record.2 field with
      | some tail => rfl
      | none => cases (payloads number fields).foldlM (kind.merge limit) record.1 <;> rfl

/-- Merging the fields one after the other comes to gathering them number by number. -/
theorem foldlM_merge {schema : Schema} (h : schema.wellFormed) (record : schema.Record) :
    fields.foldlM (schema.merge limit) record = schema.gather limit record fields := by
  induction fields generalizing record with
  | nil => rw [gather_nil]; rfl
  | cons field fields ih =>
    rw [gather_cons field schema record h, List.foldlM_cons]
    simp only [ih]
    rfl

/-- The fields of two sequences are gathered one sequence after the other. -/
theorem gather_append {schema : Schema} (h : schema.wellFormed) (record : schema.Record) :
    schema.gather limit record (fields ++ fields') =
      (schema.gather limit record fields).bind fun merged =>
        schema.gather limit merged fields' := by
  simp only [← foldlM_merge h, List.foldlM_append]
  rfl

end Schema

namespace Kind

variable {limit : Nat} {schema : Schema} {fields : List Field} {text : Bytes}

/-- A message that is merged into an optional one. -/
theorem merge_optional (h : schema.wellFormed) (hread : readFields? (limit - 1) text = some fields)
    (old : Option schema.Record) :
    (Kind.optional schema).merge limit old (.bytes text) =
      (schema.gather (limit - 1) (old.getD schema.default) fields).map some := by
  rw [← Schema.foldlM_merge h]
  exact merge_optional_of_readFields? hread old

/-- A message that is put behind the ones before it. -/
theorem merge_repeated (h : schema.wellFormed) (hread : readFields? (limit - 1) text = some fields)
    (old : List schema.Record) :
    (Kind.repeated schema).merge limit old (.bytes text) =
      (schema.gather (limit - 1) schema.default fields).map fun record => old ++ [record] := by
  rw [← Schema.foldlM_merge h]
  exact merge_repeated_of_readFields? hread old

end Kind

end LiquidityClient.Wire
