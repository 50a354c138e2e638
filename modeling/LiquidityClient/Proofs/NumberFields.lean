import LiquidityClient.Proofs.DigitTexts
import LiquidityClient.Proofs.RouteDocument
import LiquidityClient.Rest.Records

/-!
# Number fields

The node writes integers as numbers or as texts, and the client reads both in the same way. An
integer is read as it is if it is one of the field's kind, and refused otherwise
(`NumberKind.ofValue?_integer`, `NumberKind.ofValue?_ofDecimal`); nothing else but a null, an empty
text or a field that is left out counts as a number. The results are about the text of a document
(`NumberKind.read_exact`), whose only field is the one that is read.

A library may keep a number that is no integer of 64 bits as a double and give it as the text of
that (`DoubleText`). Such a text has a point or an exponent, so that it is no integer either : a
rounded number is never read.
-/

namespace LiquidityClient

open JsonValue (asUInt32? asUInt64? asInt64? asDecimal? ofDecimal quote isBlank)

/-- The kinds of number fields. -/
inductive NumberKind where
  | unsigned32
  | unsigned64
  | signed64
  deriving DecidableEq, Repr

namespace NumberKind

/-- The integers of a kind. -/
def Holds : NumberKind → Int → Prop
  | .unsigned32, n => 0 ≤ n ∧ n < UInt32.size
  | .unsigned64, n => 0 ≤ n ∧ n < UInt64.size
  | .signed64, n => Word.IsInt64 n

instance (kind : NumberKind) (n : Int) : Decidable (kind.Holds n) := by
  cases kind <;> exact inferInstanceAs (Decidable (_ ∧ _))

/-- The integer, if it is one of the kind. -/
def inRange? (kind : NumberKind) (n : Int) : Option Int :=
  if kind.Holds n then some n else none

/-- The integer that a value is read as. -/
def ofValue? : NumberKind → JsonValue → Option Int
  | .unsigned32, value => (asUInt32? value).map fun n => n.toNat
  | .unsigned64, value => (asUInt64? value).map fun n => n.toNat
  | .signed64, value => (asInt64? value).map Int64.toInt

/-- The integer that is read of a field, which may be left out. -/
def field? : NumberKind → Nat → String → JsonRecord → Option Int
  | .unsigned32, position, name, record =>
    (record.field? position name 0 asUInt32?).map fun n => n.toNat
  | .unsigned64, position, name, record =>
    (record.field? position name 0 asUInt64?).map fun n => n.toNat
  | .signed64, position, name, record => (record.field? position name 0 asInt64?).map Int64.toInt

/-- The integer that is read of a document with no other known field. -/
def ofText? (kind : NumberKind) (name content : String) : Option Int := do
  let value ← JsonValue.parse? content
  let record ← JsonRecord.ofValue? [name] value
  kind.field? 0 name record

/-- The reserve of a channel is read in this way. -/
theorem ofText?_reserve (content : String) : ofText? .unsigned64 "chan_reserve_sat" content =
    ((JsonValue.parse? content).bind reserveOfJson?).map fun n => (n.toNat : Int) := by
  unfold ofText? reserveOfJson?
  rw [Option.map_bind]
  refine congrArg (Option.bind _) (funext fun value => ?_)
  exact (Option.map_bind ..).symm

/-! ## Readers of decimal texts -/

/-- The integer of a kind that a text spells. -/
def read : NumberKind → String → Except IntegerError Int
  | .unsigned32, text => (Decimal.readUInt32 text).map fun n => n.toNat
  | .unsigned64, text => (Decimal.readUInt64 text).map fun n => n.toNat
  | .signed64, text => (Decimal.readInt64 text).map Int64.toInt

variable (kind : NumberKind)

theorem ofValue?_eq (value : JsonValue) : kind.ofValue? value = asDecimal? 0 kind.read value := by
  have hmap {α : Type} {zero : α} {read : String → Except IntegerError α} (toInt : α → Int)
      (hzero : toInt zero = 0) : (asDecimal? zero read value).map toInt =
        asDecimal? 0 (fun text => (read text).map toInt) value := by
    have hread (text : String) : (read text).toOption.map toInt =
        ((read text).map toInt).toOption := by
      cases read text <;> rfl
    unfold asDecimal?
    split
    · exact congrArg some hzero
    · split_ifs
      · exact congrArg some hzero
      · exact hread _
    · exact hread _
    · rfl
  cases kind with
  | unsigned32 => exact hmap (fun n : UInt32 => (n.toNat : Int)) rfl
  | unsigned64 => exact hmap (fun n : UInt64 => (n.toNat : Int)) rfl
  | signed64 => exact hmap Int64.toInt rfl

theorem field?_eq (position : Nat) (name : String) (record : JsonRecord) :
    kind.field? position name record = record.field? position name 0 kind.ofValue? := by
  cases kind <;> simp only [field?, JsonRecord.field?, ofValue?] <;>
    cases record.get? position name <;> rfl

theorem toOption_readNat {α : Type} {size : Nat} (hsize : 0 < size) (toWord : Nat → α)
    (toInt : α → Int) (hword : ∀ m < size, toInt (toWord m) = m) (n : Int) :
    (((Decimal.readNat (size - 1) (Decimal.ofInt n)).map toWord).map toInt).toOption =
      if 0 ≤ n ∧ n < size then some n else none := by
  rw [Decimal.readNat_ofInt]
  split_ifs with hneg hholds hfits hholds hholds
  · omega
  · rfl
  · have hvalue : (n.toNat : Int) = n := by omega
    exact congrArg some ((hword n.toNat (by omega)).trans hvalue)
  · omega
  · omega
  · rfl

/-- An integer is read from its text if it is one of the kind. -/
theorem toOption_read_ofInt (n : Int) :
    (kind.read (Decimal.ofInt n)).toOption = kind.inRange? n := by
  cases kind with
  | unsigned32 =>
    refine toOption_readNat (by decide) UInt32.ofNat (fun word => word.toNat) (fun m hm => ?_) n
    exact congrArg Nat.cast (UInt32.toNat_ofNat_of_lt' hm)
  | unsigned64 =>
    refine toOption_readNat (by decide) UInt64.ofNat (fun word => word.toNat) (fun m hm => ?_) n
    exact congrArg Nat.cast (UInt64.toNat_ofNat_of_lt' hm)
  | signed64 =>
    have hkind : inRange? .signed64 n = if Word.IsInt64 n then some n else none := rfl
    have hhalf : (Word.half64 : Int) = 0x8000000000000000 := rfl
    have hlargest : ((Word.half64 - 1 : Nat) : Int) = 0x7fffffffffffffff := rfl
    rw [hkind, read, Decimal.readInt64, Decimal.readInt_ofInt]
    split_ifs with hlow hholds hhigh hholds hholds
    · omega
    · rfl
    · exact congrArg some (Int64.toInt_ofInt_of_le hholds.1 hholds.2)
    · omega
    · omega
    · rfl

theorem ofValue?_integer (n : Int) : kind.ofValue? (.integer n) = kind.inRange? n := by
  rw [ofValue?_eq, asDecimal?, toOption_read_ofInt]

theorem ofValue?_ofDecimal (n : Int) : kind.ofValue? (ofDecimal n) = kind.inRange? n := by
  rw [ofValue?_eq, ofDecimal, JsonValue.ofText, asDecimal?, if_neg (Decimal.ofInt_ne_empty n),
    toOption_read_ofInt]

/-- What is read has digits and signs only. -/
theorem isDigit_or_sign_of_read {n : Int} {text : String} (h : kind.read text = .ok n) :
    ∀ c ∈ text.toList, c.isDigit = true ∨ c = '+' ∨ c = '-' := by
  have hok {α β : Type} {f : α → β} {x : Except IntegerError α} {b : β} (hx : x.map f = .ok b) :
      ∃ a, x = .ok a := by
    cases x with
    | ok a => exact ⟨a, rfl⟩
    | error e => cases hx
  cases kind <;> obtain ⟨_, hword⟩ := hok h <;> obtain ⟨_, hread⟩ := hok hword
  · exact Decimal.isDigit_or_sign_of_readNat hread
  · exact Decimal.isDigit_or_sign_of_readNat hread
  · exact Decimal.isDigit_or_sign_of_readInt hread

/-- A text with a point or an exponent is not read. -/
theorem toOption_read_of_marked {text : String} (h : '.' ∈ text.toList ∨ 'e' ∈ text.toList) :
    (kind.read text).toOption = none := by
  cases hread : kind.read text with
  | error e => rfl
  | ok n =>
    have hdigits := kind.isDigit_or_sign_of_read hread
    rcases h with hmark | hmark <;> exact absurd (hdigits _ hmark) (by decide)

end NumberKind

/-! ## Numbers kept as doubles -/

/-- How a library writes a number that it keeps as a double, given how the number was written : with
a point or an exponent. -/
structure DoubleText where
  text : String → String
  marked : ∀ spelling, '.' ∈ (text spelling).toList ∨ 'e' ∈ (text spelling).toList

/-- The integers that such a library keeps as they are. -/
def FitsLibrary (n : Int) : Prop :=
  -Word.half64 ≤ n ∧ n < UInt64.size

instance (n : Int) : Decidable (FitsLibrary n) :=
  inferInstanceAs (Decidable (_ ∧ _))

theorem NumberKind.Holds.fitsLibrary {kind : NumberKind} {n : Int} (h : kind.Holds n) :
    FitsLibrary n := by
  have hhalf : (Word.half64 : Int) = 0x8000000000000000 := rfl
  have hwords : (UInt32.size : Int) = 0x100000000 ∧ (UInt64.size : Int) = 0x10000000000000000 :=
    ⟨rfl, rfl⟩
  unfold FitsLibrary
  cases kind <;> unfold Holds at h <;> omega

/-- The integer that a value is read as, by way of a library's numbers. -/
def DoubleText.ofValue? (doubles : DoubleText) (kind : NumberKind) : JsonValue → Option Int
  | .null => some 0
  | .text (some content) => if content = "" then some 0 else (kind.read content).toOption
  | .integer n =>
    let spelling := Decimal.ofInt n
    (kind.read (if FitsLibrary n then spelling else doubles.text spelling)).toOption
  | .fraction spelling => (kind.read (doubles.text spelling)).toOption
  | _ => none

/-- No number is read rounded. -/
theorem DoubleText.ofValue?_eq (doubles : DoubleText) (kind : NumberKind) (value : JsonValue) :
    doubles.ofValue? kind value = kind.ofValue? value := by
  rw [kind.ofValue?_eq]
  cases value with
  | null => rfl
  | boolean b => rfl
  | integer n =>
    rw [ofValue?, asDecimal?]
    split_ifs with hfits
    · rfl
    · have hnot : ¬kind.Holds n := fun h => hfits h.fitsLibrary
      rw [kind.toOption_read_of_marked (doubles.marked _), kind.toOption_read_ofInt,
        NumberKind.inRange?, if_neg hnot]
  | fraction spelling => exact kind.toOption_read_of_marked (doubles.marked spelling)
  | text content => cases content <;> rfl
  | array items => rfl
  | object members => rfl

/-! ## Texts of documents -/

namespace JsonValue

/-- The value is neither an integer, nor a text, nor a null. -/
def NoInteger : JsonValue → Prop
  | .boolean _ => True
  | .fraction _ => True
  | .array _ => True
  | .object _ => True
  | _ => False

/-- What starts like a truth value, an array or an object is no integer. -/
theorem noInteger_of_value? {c : Char} (hc : c = 't' ∨ c = 'f' ∨ c = '[' ∨ c = '\x7b') {depth : Nat}
    {cs rest : List Char} {value : JsonValue} (h : value? depth (c :: cs) = some (value, rest)) :
    value.NoInteger := by
  have hnumber : number? (c :: cs) = none := by
    rcases hc with rfl | rfl | rfl | rfl <;> rfl
  cases depth with
  | zero => cases h
  | succ depth =>
    -- the cases are the kinds of values, in the order in which the reader tells them apart
    unfold value? at h
    split at h
    · next heq =>
      obtain ⟨rfl, -⟩ := List.cons.inj heq
      rcases hc with h | h | h | h <;> cases h
    · cases h
      trivial
    · cases h
      trivial
    · next heq =>
      obtain ⟨rfl, -⟩ := List.cons.inj heq
      rcases hc with h | h | h | h <;> cases h
    · split at h
      · cases h
        trivial
      · obtain ⟨_, -, hvalue⟩ := Option.map_eq_some_iff.1 h
        cases hvalue
        trivial
    · split at h
      · cases h
        trivial
      · obtain ⟨_, -, hvalue⟩ := Option.map_eq_some_iff.1 h
        cases hvalue
        trivial
    · rw [hnumber] at h
      cases h

theorem noInteger_of_isFractional {spelling : List Char} (hspelling : IsFractional spelling)
    {depth : Nat} {cs rest : List Char} {value : JsonValue}
    (h : value? depth (spelling ++ cs) = some (value, rest)) : value.NoInteger := by
  obtain ⟨c, more, hcons, hc⟩ := hspelling.exists_eq_cons
  cases depth with
  | zero => cases h
  | succ depth =>
    rw [hcons, List.cons_append, value?_of_number depth _ hc, ← List.cons_append, ← hcons] at h
    obtain ⟨written, rfl⟩ := number?_of_isFractional hspelling h
    trivial

/-- The text of an object with a single member, whose value is written like this. -/
def memberText (name : String) (value : List Char) : String :=
  String.ofList ('\x7b' :: (quote name ++ ':' :: (value ++ ['\x7d'])))

theorem render_ofMembers_singleton (name : String) (value : JsonValue) :
    (ofMembers [(name, value)]).render = memberText name value.write := by
  simp [memberText, render, ofMembers, write, writeMembers, commaSeparated_singleton]

/-- A document of this form is an object whose first member is what is read there. -/
theorem parse?_memberText {name : String} {c : Char} {cs : List Char} {document : JsonValue}
    (hblank : isBlank c = false) (h : parse? (memberText name (c :: cs)) = some document) :
    ∃ depth value behind more, value? depth (c :: cs ++ ['\x7d']) = some (value, behind) ∧
      document = .object ((some name, value) :: more) := by
  obtain ⟨tail, htail⟩ : ∃ tail, quote name ++ ':' :: c :: (cs ++ ['\x7d']) = '"' :: tail :=
    ⟨_, rfl⟩
  rw [memberText, parse?, String.toList_ofList, List.cons_append,
    List.dropWhile_cons_of_neg (by decide)] at h
  split at h
  · next value rest hvalue =>
    split_ifs at h
    cases h
    rw [htail, value?_brace (List.dropWhile_cons_of_neg (by decide)) (by simp), ← htail] at hvalue
    obtain ⟨⟨members, _⟩, hmembers, hobject⟩ := Option.map_eq_some_iff.1 hvalue
    cases hobject
    obtain ⟨member, behind, more, hmember, rfl⟩ := members?_eq_some hmembers
    rw [member?_quote name hblank] at hmember
    obtain ⟨⟨value, rest⟩, hread, hfirst⟩ := Option.map_eq_some_iff.1 hmember
    cases hfirst
    exact ⟨_, value, _, more, hread, rfl⟩
  · cases h

end JsonValue

namespace NumberKind

variable (kind : NumberKind) (name : String)

theorem ofValue?_of_noInteger {value : JsonValue} (h : value.NoInteger) :
    kind.ofValue? value = none := by
  rw [ofValue?_eq]
  cases value <;> first | rfl | exact h.elim

/-- A field is read from the document that is written for it. -/
theorem ofText?_memberText {value : JsonValue} (h : value.Plain) :
    kind.ofText? name (JsonValue.memberText name value.write) = kind.ofValue? value := by
  have hplain : (JsonValue.ofMembers [(name, value)]).Plain :=
    JsonValue.plain_ofMembers (List.forall_mem_singleton.2 h)
  rw [ofText?, ← JsonValue.render_ofMembers_singleton, hplain.parse?_render]
  simp [JsonRecord.ofValue?_ofMembers, field?_eq, JsonRecord.field?, JsonRecord.get?_ofMembers]

/-- If the value that a text starts with is no integer, the field is refused. -/
theorem ofText?_eq_none {c : Char} {cs : List Char} (hblank : isBlank c = false)
    (h : ∀ depth value rest, JsonValue.value? depth (c :: cs ++ ['\x7d']) = some (value, rest) →
      value.NoInteger) : kind.ofText? name (JsonValue.memberText name (c :: cs)) = none := by
  unfold ofText?
  cases hdocument : JsonValue.parse? (JsonValue.memberText name (c :: cs)) with
  | none => rfl
  | some document =>
    obtain ⟨depth, value, behind, more, hread, rfl⟩ := JsonValue.parse?_memberText hblank hdocument
    have hrefused := kind.ofValue?_of_noInteger (h depth value behind hread)
    rw [Option.bind_eq_bind, Option.bind_some, JsonRecord.ofValue?]
    split_ifs
    · simp [field?_eq, JsonRecord.field?, JsonRecord.get?, hrefused]
    · rfl

theorem field?_of_get? {position : Nat} {record : JsonRecord} {value : JsonValue}
    (h : record.get? position name = some value) :
    kind.field? position name record = kind.ofValue? value := by
  rw [field?_eq, JsonRecord.field?, h]

theorem field?_of_missing {position : Nat} {record : JsonRecord}
    (h : record.get? position name = none) : kind.field? position name record = some 0 := by
  rw [field?_eq, JsonRecord.field?, h]

/-- Every integer is read as it is, from a number and from a text, if it is one of the kind, and
refused otherwise. A null, an empty text and a field that is left out count as zero. A number with a
fraction or an exponent, a truth value, an array and an object are refused. The same holds by way of
a library that keeps other numbers than integers of 64 bits as doubles. -/
theorem read_exact (kind : NumberKind) (name : String) :
    (∀ n : Int,
      kind.ofText? name (JsonValue.memberText name (Decimal.ofInt n).toList) = kind.inRange? n ∧
      kind.ofText? name (JsonValue.memberText name (quote (Decimal.ofInt n))) = kind.inRange? n ∧
      ∀ position record, record.get? position name = some (.integer n) ∨
          record.get? position name = some (ofDecimal n) →
        kind.field? position name record = kind.inRange? n) ∧
    (kind.ofText? name (JsonValue.memberText name "null".toList) = some 0 ∧
      kind.ofText? name (JsonValue.memberText name (quote "")) = some 0 ∧
      kind.ofText? name (JsonValue.ofMembers []).render = some 0 ∧
      ∀ position record, record.get? position name = none →
        kind.field? position name record = some 0) ∧
    (∀ spelling, JsonValue.IsFractional spelling →
      kind.ofText? name (JsonValue.memberText name spelling) = none) ∧
    (∀ c cs, c = 't' ∨ c = 'f' ∨ c = '[' ∨ c = '\x7b' →
      kind.ofText? name (JsonValue.memberText name (c :: cs)) = none) ∧
    ∀ (doubles : DoubleText) (position : Nat) (record : JsonRecord),
      record.field? position name 0 (doubles.ofValue? kind) = kind.field? position name record := by
  refine ⟨fun n => ⟨?_, ?_, fun position record h => ?_⟩, ⟨?_, ?_, ?_, ?_⟩, fun spelling h => ?_,
    fun c cs hc => ?_, fun doubles position record => ?_⟩
  · exact (kind.ofText?_memberText name (.integer n)).trans (kind.ofValue?_integer n)
  · exact (kind.ofText?_memberText name (.text _)).trans (kind.ofValue?_ofDecimal n)
  · rcases h with h | h
    · exact (kind.field?_of_get? name h).trans (kind.ofValue?_integer n)
    · exact (kind.field?_of_get? name h).trans (kind.ofValue?_ofDecimal n)
  · refine (kind.ofText?_memberText name .null).trans ?_
    rw [ofValue?_eq, asDecimal?]
  · refine (kind.ofText?_memberText name (.text "")).trans ?_
    rw [ofValue?_eq, asDecimal?, if_pos rfl]
  · have hplain : (JsonValue.ofMembers []).Plain :=
      JsonValue.plain_ofMembers (List.forall_mem_nil _)
    rw [ofText?, hplain.parse?_render]
    exact kind.field?_of_missing name rfl
  · exact fun position record h => kind.field?_of_missing name h
  · obtain ⟨c, cs, rfl, hc⟩ := h.exists_eq_cons
    exact kind.ofText?_eq_none name (JsonValue.isBlank_of_number hc) fun _ _ _ hread =>
      JsonValue.noInteger_of_isFractional h hread
  · refine kind.ofText?_eq_none name ?_ fun _ _ _ hread => JsonValue.noInteger_of_value? hc hread
    rcases hc with rfl | rfl | rfl | rfl <;> rfl
  · rw [field?_eq]
    exact congrArg (fun read? => record.field? position name 0 read?)
      (funext fun value => doubles.ofValue?_eq kind value)

/-- A library that writes the least power of two beyond 64 bits as the double that it is. -/
def roundingDoubles : DoubleText where
  text spelling :=
    if spelling = "18446744073709551616" then "1.8446744073709552e19" else spelling ++ "e0"
  marked spelling := by
    split_ifs
    · exact Or.inl (by decide)
    · exact Or.inr (by simp)

theorem read_exact_beyondWord :
    roundingDoubles.text "18446744073709551616" = "1.8446744073709552e19" ∧
      JsonRecord.field? 0 "chan_reserve_sat" 0 (roundingDoubles.ofValue? .unsigned64)
        (.listed [.integer 18446744073709551616]) = none ∧
      JsonRecord.field? 0 "chan_reserve_sat" 0 (roundingDoubles.ofValue? .unsigned64)
        (.listed [ofDecimal 18446744073709551615]) = some 18446744073709551615 := by
  obtain ⟨hinteger, -, -, -, hlibrary⟩ := read_exact .unsigned64 "chan_reserve_sat"
  refine ⟨rfl, ?_, ?_⟩
  · rw [hlibrary, (hinteger 18446744073709551616).2.2 _ _ (Or.inl rfl)]
    decide
  · rw [hlibrary, (hinteger 18446744073709551615).2.2 _ _ (Or.inr rfl)]
    decide

end NumberKind

end LiquidityClient
