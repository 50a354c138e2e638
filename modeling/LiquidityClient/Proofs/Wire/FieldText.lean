import LiquidityClient.Wire.Field

/-!
# The grammar of fields

What counts as the text of a number, a key, a payload and a sequence of fields, apart from how it is
read. A number may have zeros behind its last bits, and a group holds a sequence of fields of its
own (`FieldsText`). A text is read as the fields that it is a text of, whatever its groups hold
(`FieldsText.readFields?`), if these nest no deeper than the reader follows them; and no byte string
is read but the texts of fields (`readFields?_eq_some_iff`).
-/

namespace LiquidityClient.Wire

/-! ## Numbers -/

/-- A text of a number : seven bits a byte, low bits first, and the top bit set on all bytes but the
last. -/
inductive NumberText : Nat → Bytes → Prop
  | last (byte : UInt8) (h : byte.toNat < 128) : NumberText byte.toNat [byte]
  | more (byte : UInt8) {n : Nat} {text : Bytes} (h : 128 ≤ byte.toNat) (ht : NumberText n text) :
      NumberText (byte.toNat % 128 + 128 * n) (byte :: text)

/-- A text of a number of 64 bits, in at most ten bytes. -/
structure VarintText (n : Nat) (text : Bytes) : Prop where
  number : NumberText n text
  length_le : text.length ≤ 10
  lt : n < UInt64.size

theorem NumberText.length_pos {n : Nat} {text : Bytes} (h : NumberText n text) :
    0 < text.length := by
  cases h <;> exact Nat.succ_pos _

/-- A number that fits the bytes left to its reader is read. -/
theorem NumberText.readVarintUpTo {n : Nat} {text : Bytes} (h : NumberText n text) {count : Nat}
    (hlength : text.length ≤ count) (hn : n < 1 <<< (7 * count - 6)) (rest : Bytes) :
    readVarintUpTo count (text ++ rest) = some (n, rest) := by
  induction h generalizing count with
  | last byte hlast =>
    obtain _ | count := count
    · cases hlength
    · have hten : ¬ (count = 0 ∧ 2 ≤ byte.toNat) := by
        rintro ⟨rfl, hbyte⟩
        exact absurd hn (Nat.not_lt.2 hbyte)
      rw [List.singleton_append, Wire.readVarintUpTo, if_pos hlast, if_neg hten]
  | @more byte n text hmore ht ih =>
    obtain _ | count := count
    · cases hlength
    · have hcount : 0 < count := Nat.lt_of_lt_of_le ht.length_pos (Nat.le_of_succ_le_succ hlength)
      have hrest : n < 1 <<< (7 * count - 6) := by
        have hexp : 7 * (count + 1) - 6 = 7 * count - 6 + 7 := by omega
        rw [hexp, Nat.shiftLeft_add] at hn
        generalize 1 <<< (7 * count - 6) = bound at hn ⊢
        rw [Nat.shiftLeft_eq] at hn
        omega
      rw [List.cons_append, Wire.readVarintUpTo, if_neg (Nat.not_lt.2 hmore),
        ih (Nat.le_of_succ_le_succ hlength) hrest]

theorem VarintText.readVarint? {n : Nat} {text : Bytes} (h : VarintText n text) (rest : Bytes) :
    readVarint? (text ++ rest) = some (n, rest) :=
  h.number.readVarintUpTo h.length_le h.lt rest

/-- The shortest text of a number is one. -/
theorem numberText_varint (n : Nat) : NumberText n (varint n) := by
  induction n using varint.induct with
  | case1 n h =>
    have hbyte : (UInt8.ofNat n).toNat = n := by
      rw [UInt8.toNat_ofNat']
      omega
    have hlast := NumberText.last (UInt8.ofNat n) (by omega)
    rw [hbyte] at hlast
    rwa [varint, if_pos h]
  | case2 n h ih =>
    have hbyte : (UInt8.ofNat (n % 128 + 128)).toNat = n % 128 + 128 := by
      rw [UInt8.toNat_ofNat']
      omega
    have hmore := NumberText.more (UInt8.ofNat (n % 128 + 128)) (by omega) ih
    have hn : (n % 128 + 128) % 128 + 128 * (n / 128) = n := by omega
    rw [hbyte, hn] at hmore
    rwa [varint, if_neg h]

theorem length_varint_le {n count : Nat} (hcount : 0 < count) (h : n < 1 <<< (7 * count)) :
    (varint n).length ≤ count := by
  induction n using varint.induct generalizing count with
  | case1 n hlast =>
    rw [varint, if_pos hlast]
    exact hcount
  | case2 n hmore ih =>
    obtain _ | _ | count := count
    · cases hcount
    · exact absurd h hmore
    · have hrest : n / 128 < 1 <<< (7 * (count + 1)) := by
        rw [Nat.mul_succ, Nat.shiftLeft_add] at h
        generalize 1 <<< (7 * (count + 1)) = bound at h ⊢
        rw [Nat.shiftLeft_eq] at h
        omega
      rw [varint, if_neg hmore, List.length_cons]
      exact Nat.succ_le_succ (ih (Nat.succ_pos _) hrest)

theorem varintText_varint {n : Nat} (h : n < UInt64.size) : VarintText n (varint n) :=
  ⟨numberText_varint n, length_varint_le (by decide) (Nat.lt_trans h (by decide)), h⟩

/-! ## Keys and payloads -/

/-- A text of the key of a field : its number is positive and the key fits 32 bits. -/
structure KeyText (number : Nat) (form : Form) (text : Bytes) : Prop where
  pos : 0 < number
  lt : 8 * number + form.code < UInt32.size
  text : VarintText (8 * number + form.code) text

theorem Form.code_lt (form : Form) : form.code < 8 := by
  cases form <;> decide

@[simp] theorem Form.ofCode?_code (form : Form) : Form.ofCode? form.code = some form := by
  cases form <;> rfl

theorem KeyText.readKey? {number : Nat} {form : Form} {text : Bytes} (h : KeyText number form text)
    (rest : Bytes) : readKey? (text ++ rest) = some (number, form, rest) := by
  have hcode := form.code_lt
  have hnumber : (8 * number + form.code) / 8 = number := by omega
  have hform : (8 * number + form.code) % 8 = form.code := by omega
  rw [Wire.readKey?, h.text.readVarint?]
  simp only [hnumber, hform, h.lt, h.pos, and_self, if_true, Form.ofCode?_code]

theorem KeyText.length_pos {number : Nat} {form : Form} {text : Bytes}
    (h : KeyText number form text) : 0 < text.length :=
  h.text.number.length_pos

/-- The key of a field whose number is in range. -/
theorem keyText_key {number : Nat} (hpos : 0 < number) (hlt : number < 0x20000000) (form : Form) :
    KeyText number form (key number form) := by
  have hcode := form.code_lt
  have hfits : 8 * number + form.code < UInt32.size := by
    rw [UInt32.size]
    omega
  exact ⟨hpos, hfits, varintText_varint (Nat.lt_trans hfits (by decide))⟩

/-- A text of a payload other than a group. -/
inductive PlainText : Payload → Form → Bytes → Prop
  | varint {n : Nat} {text : Bytes} (h : VarintText n text) :
      PlainText (.varint (UInt64.ofNat n)) .varint text
  | fixed64 {text : Bytes} (h : text.length = 8) :
      PlainText (.fixed64 (UInt64.ofNat (Bytes.toNatLE text))) .fixed64 text
  | bytes {value length : Bytes} (h : VarintText value.length length) :
      PlainText (.bytes value) .bytes (length ++ value)
  | fixed32 {text : Bytes} (h : text.length = 4) :
      PlainText (.fixed32 (UInt32.ofNat (Bytes.toNatLE text))) .fixed32 text

theorem split?_append (front rest : Bytes) :
    split? front.length (front ++ rest) = some (front, rest) := by
  rw [split?, List.length_append, if_pos (Nat.le_add_right _ _), List.take_left, List.drop_left]

theorem PlainText.readPlain? {payload : Payload} {form : Form} {text : Bytes}
    (h : PlainText payload form text) (rest : Bytes) :
    readPlain? form (text ++ rest) = some (payload, rest) := by
  cases h with
  | varint h => rw [Wire.readPlain?, h.readVarint?, Option.map_some]
  | fixed64 h => rw [Wire.readPlain?, ← h, split?_append, Option.map_some]
  | bytes h =>
    rw [Wire.readPlain?, List.append_assoc, h.readVarint?]
    simp only [split?_append, Option.map_some]
  | fixed32 h => rw [Wire.readPlain?, ← h, split?_append, Option.map_some]

theorem readField?_plain {limit number : Nat} {form : Form} {payload : Payload}
    {key text rest : Bytes} (hkey : KeyText number form key) (htext : PlainText payload form text) :
    readField? limit (key ++ text ++ rest) = some (⟨number, payload⟩, rest) := by
  have hread := htext.readPlain? rest
  rw [List.append_assoc, readField?, hkey.readKey?]
  cases htext <;> simp only [hread, Option.map_some]

theorem readFieldsUpTo_succ {limit fuel : Nat} {bytes rest : Bytes} {field : Field}
    (h : readField? limit bytes = some (field, rest)) :
    readFieldsUpTo limit (fuel + 1) bytes = (readFieldsUpTo limit fuel rest).map (field :: ·) := by
  cases bytes with
  | nil => cases h
  | cons byte bytes =>
    rw [readFieldsUpTo, h]
    exact List.cons_ne_nil _ _

/-! ## Sequences of fields -/

/-- A text of a sequence of fields, whose groups nest to at most `levels`. Where a field stands that
is no group, `spare` further groups could still be opened. -/
inductive FieldsText (spare : Nat) : Nat → List Field → Bytes → Prop
  | nil (levels : Nat) : FieldsText spare levels [] []
  | plain {levels number : Nat} {form : Form} {payload : Payload} {fields : List Field}
      {key text rest : Bytes} (hspare : spare ≤ levels) (hkey : KeyText number form key)
      (htext : PlainText payload form text) (hrest : FieldsText spare levels fields rest) :
      FieldsText spare levels (⟨number, payload⟩ :: fields) (key ++ text ++ rest)
  | group {levels number : Nat} {content fields : List Field} {start inner stop rest : Bytes}
      (hstart : KeyText number .groupStart start) (hinner : FieldsText spare levels content inner)
      (hstop : KeyText number .groupEnd stop) (hrest : FieldsText spare (levels + 1) fields rest) :
      FieldsText spare (levels + 1) (⟨number, .group⟩ :: fields) (start ++ inner ++ stop ++ rest)

namespace FieldsText

variable {spare levels limit : Nat} {fields fields' : List Field} {text text' : Bytes}

/-- Two sequences are read one after the other. -/
theorem append (h : FieldsText spare levels fields text)
    (h' : FieldsText spare levels fields' text') :
    FieldsText spare levels (fields ++ fields') (text ++ text') := by
  induction h with
  | nil => exact h'
  | plain hspare hkey htext _ ih =>
    have := plain hspare hkey htext (ih h')
    rwa [← List.append_assoc] at this
  | group hstart hinner hstop _ _ ih =>
    have := group hstart hinner hstop (ih h')
    rwa [← List.append_assoc] at this

/-- Inside of groups a sequence of fields is skipped, in as many steps as it has bytes at most. -/
theorem closeGroups? (h : FieldsText spare levels fields text) (hspare : spare ≤ 1)
    (innermost : Nat) (outer : List Nat) (hlimit : outer.length + levels + 2 ≤ limit + spare) :
    ∃ steps ≤ text.length, ∀ fuel rest,
      closeGroups? limit (fuel + steps) (innermost :: outer) (text ++ rest) =
        closeGroups? limit fuel (innermost :: outer) rest := by
  induction h generalizing innermost outer with
  | nil => exact ⟨0, Nat.le_refl _, fun _ _ => rfl⟩
  | @plain levels number form payload fields key text after hlevels hkey htext _ ih =>
    obtain ⟨steps, hsteps, hskip⟩ := ih innermost outer hlimit
    have hinside : outer.length + 1 < limit := by omega
    have hpos := hkey.length_pos
    refine ⟨steps + 1, ?_, fun fuel rest => ?_⟩
    · simp only [List.length_append]
      omega
    · have hread := htext.readPlain? (after ++ rest)
      rw [List.append_assoc, List.append_assoc, ← Nat.add_assoc, Wire.closeGroups?,
        hkey.readKey?]
      cases htext <;> simp only [hinside, if_true, hread, hskip]
  | @group levels number content fields start inner stop after hstart _ hstop _ ihInner ihRest =>
    obtain ⟨steps, hsteps, hskip⟩ := ihRest innermost outer hlimit
    have hinnerLimit : (innermost :: outer).length + levels + 2 ≤ limit + spare := by
      rw [List.length_cons]
      omega
    obtain ⟨innerSteps, hinnerSteps, hinnerSkip⟩ := ihInner number _ hinnerLimit
    have hinside : outer.length + 1 < limit := by omega
    have hstartPos := hstart.length_pos
    have hstopPos := hstop.length_pos
    -- one step for each of the two keys of the group, which are not empty
    refine ⟨steps + 1 + innerSteps + 1, ?_, fun fuel rest => ?_⟩
    · simp only [List.length_append]
      omega
    · simp only [List.append_assoc]
      rw [← Nat.add_assoc, Wire.closeGroups?, hstart.readKey?]
      simp only [hinside, if_true]
      rw [← Nat.add_assoc, hinnerSkip, ← Nat.add_assoc, Wire.closeGroups?, hstop.readKey?]
      simp only [if_true, hskip]

/-- A text is read as its fields. -/
theorem readFieldsUpTo (h : FieldsText spare levels fields text) (hspare : spare ≤ 1)
    (hlimit : levels = 0 ∨ levels + 1 ≤ limit + spare) {fuel : Nat} (hfuel : text.length ≤ fuel) :
    readFieldsUpTo limit fuel text = some fields := by
  induction h generalizing fuel with
  | nil => rw [Wire.readFieldsUpTo]
  | @plain levels number form payload fields key text rest _ hkey htext _ ih =>
    have hpos := hkey.length_pos
    simp only [List.length_append] at hfuel
    obtain ⟨fuel, rfl⟩ : ∃ count, fuel = count + 1 := ⟨fuel - 1, by omega⟩
    rw [readFieldsUpTo_succ (readField?_plain hkey htext), ih hlimit (by omega), Option.map_some]
  | @group levels number content fields start inner stop rest hstart hinner hstop _ _ ih =>
    have hpos := hstart.length_pos
    simp only [List.length_append] at hfuel
    obtain ⟨fuel, rfl⟩ : ∃ count, fuel = count + 1 := ⟨fuel - 1, by omega⟩
    have hfield : readField? limit (start ++ inner ++ stop ++ rest) =
        some (⟨number, .group⟩, rest) := by
      have hinnerLimit : ([] : List Nat).length + levels + 2 ≤ limit + spare := by
        rw [List.length_nil]
        omega
      obtain ⟨steps, hsteps, hskip⟩ := hinner.closeGroups? hspare number [] hinnerLimit
      have hstopPos := hstop.length_pos
      obtain ⟨left, hleft⟩ : ∃ left, (inner ++ (stop ++ rest)).length = left + 1 + steps := by
        refine ⟨inner.length + stop.length + rest.length - 1 - steps, ?_⟩
        simp only [List.length_append]
        omega
      rw [List.append_assoc, List.append_assoc, readField?, hstart.readKey?]
      simp only [hleft, hskip]
      rw [Wire.closeGroups?, hstop.readKey?]
      simp only [if_true]
      rw [Wire.closeGroups?, Option.map_some]
    rw [readFieldsUpTo_succ hfield, ih hlimit (by omega), Option.map_some]

/-- A text is read as its fields. -/
theorem readFields? (h : FieldsText spare levels fields text) (hspare : spare ≤ 1)
    (hlimit : levels = 0 ∨ levels + 1 ≤ limit + spare) : readFields? limit text = some fields :=
  h.readFieldsUpTo hspare hlimit (Nat.le_refl _)

/-- The reader follows fields to its limit, if each of them takes a level. -/
theorem readFields?_of_levels (h : FieldsText 1 limit fields text) :
    Wire.readFields? limit text = some fields :=
  h.readFields? (Nat.le_refl 1) (Or.inr (Nat.le_refl _))

/-- Fields without groups are read, whatever the limit. -/
theorem readFields?_of_plain (h : FieldsText 0 0 fields text) (limit : Nat) :
    Wire.readFields? limit text = some fields :=
  h.readFields? (Nat.zero_le 1) (Or.inl rfl)

end FieldsText

/-! ## What is read -/

/-- A number that is read has a text in front. -/
theorem numberText_of_readVarintUpTo {count n : Nat} {bytes rest : Bytes}
    (h : readVarintUpTo count bytes = some (n, rest)) :
    ∃ text, bytes = text ++ rest ∧ NumberText n text ∧ text.length ≤ count ∧
      n < 1 <<< (7 * count - 6) := by
  induction count generalizing n bytes with
  | zero => cases h
  | succ count ih =>
    obtain _ | ⟨byte, bytes⟩ := bytes
    · cases h
    · rw [readVarintUpTo] at h
      split at h
      · next hlast =>
        split at h
        · cases h
        · next hten =>
          cases h
          refine ⟨[byte], rfl, .last byte hlast, Nat.succ_le_succ (Nat.zero_le _), ?_⟩
          -- only the tenth byte is the last that may come, and it holds one bit
          obtain _ | count := count
          · show byte.toNat < 2
            omega
          · have hexp : 7 * (count + 1 + 1) - 6 = 7 * count + 1 + 7 := by omega
            rw [hexp, Nat.shiftLeft_add, Nat.shiftLeft_eq]
            have hpos : 0 < 1 <<< (7 * count + 1) := by
              rw [Nat.shiftLeft_eq]
              exact Nat.mul_pos Nat.one_pos (Nat.two_pow_pos _)
            omega
      · next hmore =>
        split at h
        · next n' rest' hrest =>
          cases h
          obtain ⟨text, rfl, htext, hlength, hn⟩ := ih hrest
          refine ⟨byte :: text, rfl, .more byte (Nat.le_of_not_lt hmore) htext,
            Nat.succ_le_succ hlength, ?_⟩
          have hcount := Nat.lt_of_lt_of_le htext.length_pos hlength
          have hexp : 7 * (count + 1) - 6 = 7 * count - 6 + 7 := by omega
          rw [hexp, Nat.shiftLeft_add]
          generalize 1 <<< (7 * count - 6) = bound at hn ⊢
          rw [Nat.shiftLeft_eq]
          omega
        · cases h

theorem varintText_of_readVarint? {n : Nat} {bytes rest : Bytes}
    (h : readVarint? bytes = some (n, rest)) :
    ∃ text, bytes = text ++ rest ∧ VarintText n text := by
  obtain ⟨text, hbytes, htext, hlength, hn⟩ := numberText_of_readVarintUpTo h
  exact ⟨text, hbytes, htext, hlength, hn⟩

theorem Form.code_of_ofCode? {code : Nat} {form : Form} (h : Form.ofCode? code = some form) :
    form.code = code := by
  unfold Form.ofCode? at h
  split at h <;> cases h <;> rfl

theorem keyText_of_readKey? {bytes rest : Bytes} {number : Nat} {form : Form}
    (h : readKey? bytes = some (number, form, rest)) :
    ∃ text, bytes = text ++ rest ∧ KeyText number form text := by
  unfold readKey? at h
  split at h
  · next n _ hread =>
    obtain ⟨text, hbytes, htext⟩ := varintText_of_readVarint? hread
    split at h
    · next hrange =>
      split at h
      · next hform =>
        cases h
        have hcode := Form.code_of_ofCode? hform
        have hn : 8 * (n / 8) + form.code = n := by omega
        refine ⟨text, hbytes, hrange.2, ?_, ?_⟩
        · rw [hn]
          exact hrange.1
        · rwa [hn]
      · cases h
    · cases h
  · cases h

theorem append_of_split? {count : Nat} {bytes front rest : Bytes}
    (h : split? count bytes = some (front, rest)) :
    bytes = front ++ rest ∧ front.length = count := by
  unfold split? at h
  split at h
  · next hcount =>
    cases h
    exact ⟨(List.take_append_drop count bytes).symm, List.length_take_of_le hcount⟩
  · cases h

theorem plainText_of_readPlain? {form : Form} {bytes rest : Bytes} {payload : Payload}
    (h : readPlain? form bytes = some (payload, rest)) :
    ∃ text, bytes = text ++ rest ∧ PlainText payload form text := by
  unfold readPlain? at h
  split at h
  · obtain ⟨⟨n, _⟩, hread, heq⟩ := Option.map_eq_some_iff.1 h
    cases heq
    obtain ⟨text, hbytes, htext⟩ := varintText_of_readVarint? hread
    exact ⟨text, hbytes, .varint htext⟩
  · obtain ⟨⟨word, _⟩, hread, heq⟩ := Option.map_eq_some_iff.1 h
    cases heq
    obtain ⟨hbytes, hlength⟩ := append_of_split? hread
    exact ⟨word, hbytes, .fixed64 hlength⟩
  · obtain ⟨⟨word, _⟩, hread, heq⟩ := Option.map_eq_some_iff.1 h
    cases heq
    obtain ⟨hbytes, hlength⟩ := append_of_split? hread
    exact ⟨word, hbytes, .fixed32 hlength⟩
  · split at h
    · next length after hlength =>
      obtain ⟨⟨value, _⟩, hread, heq⟩ := Option.map_eq_some_iff.1 h
      cases heq
      obtain ⟨text, rfl, htext⟩ := varintText_of_readVarint? hlength
      obtain ⟨rfl, rfl⟩ := append_of_split? hread
      exact ⟨text ++ value, (List.append_assoc _ _ _).symm, .bytes htext⟩
    · cases h
  · cases h
  · cases h

/-- What is skipped up to the end of a group is the text of its fields and its closing key. -/
theorem fieldsText_of_closeGroups? {limit : Nat} : ∀ {fuel innermost : Nat} {outer : List Nat}
    {bytes rest : Bytes}, closeGroups? limit fuel (innermost :: outer) bytes = some rest →
      ∃ fields inner stop after fuel', bytes = inner ++ stop ++ after ∧
        FieldsText 1 (limit - (outer.length + 1)) fields inner ∧ KeyText innermost .groupEnd stop ∧
        fuel' < fuel ∧ closeGroups? limit fuel' outer after = some rest := by
  intro fuel
  -- behind an inner group the rest is read with what fuel it left, so the induction is a strong one
  induction fuel using Nat.strongRecOn with
  | ind fuel ih =>
    intro innermost outer bytes rest h
    obtain _ | fuel := fuel
    · cases h
    · rw [closeGroups?] at h
      split at h
      · cases h
      · next number after hkey =>
        obtain ⟨stop, rfl, hstop⟩ := keyText_of_readKey? hkey
        split at h
        · next hnumber =>
          exact ⟨[], [], stop, after, fuel, rfl, .nil _, hnumber ▸ hstop, Nat.lt_succ_self _, h⟩
        · cases h
      · next number form after hend hkey =>
        obtain ⟨start, rfl, hstart⟩ := keyText_of_readKey? hkey
        split at h
        · next hinside =>
          have hlevels : limit - (outer.length + 1) = limit - (outer.length + 1 + 1) + 1 := by omega
          split at h
          · obtain ⟨content, inner, stop, after, fuel', rfl, hcontent, hstop, hfuel, hskip⟩ :=
              ih fuel (Nat.lt_succ_self _) h
            obtain ⟨fields, inner', stop', after, last, rfl, hfields, hstop', hlast, hskip⟩ :=
              ih fuel' (Nat.lt_succ_of_lt hfuel) hskip
            refine ⟨⟨number, .group⟩ :: fields, start ++ inner ++ stop ++ inner', stop',
              after, last,
              by simp only [List.append_assoc], ?_, hstop', by omega, hskip⟩
            rw [hlevels] at hfields ⊢
            exact .group hstart hcontent hstop hfields
          · split at h
            · next payload after hplain =>
              obtain ⟨text, rfl, htext⟩ := plainText_of_readPlain? hplain
              obtain ⟨fields, inner, stop, after, last, rfl, hfields, hstop, hlast, hskip⟩ :=
                ih fuel (Nat.lt_succ_self _) h
              refine ⟨⟨number, payload⟩ :: fields, start ++ text ++ inner, stop, after, last,
                by simp only [List.append_assoc], ?_, hstop, by omega, hskip⟩
              exact .plain (by omega) hstart htext hfields
            · cases h
        · cases h

/-- A field that is read stands in front of the texts of the others. -/
theorem FieldsText.cons_of_readField? {limit : Nat} {bytes rest : Bytes} {field : Field}
    {fields : List Field} (hrest : FieldsText 1 limit fields rest) (hlimit : 0 < limit)
    (h : readField? limit bytes = some (field, rest)) :
    FieldsText 1 limit (field :: fields) bytes := by
  obtain ⟨levels, rfl⟩ : ∃ levels, limit = levels + 1 := ⟨limit - 1, by omega⟩
  unfold readField? at h
  split at h
  · cases h
  · next number after hkey =>
    obtain ⟨start, rfl, hstart⟩ := keyText_of_readKey? hkey
    obtain ⟨_, hclose, heq⟩ := Option.map_eq_some_iff.1 h
    cases heq
    obtain ⟨content, inner, stop, after, fuel, rfl, hcontent, hstop, -, hskip⟩ :=
      fieldsText_of_closeGroups? hclose
    rw [Wire.closeGroups?] at hskip
    cases hskip
    have hinner : FieldsText 1 levels content inner := hcontent
    have := FieldsText.group hstart hinner hstop hrest
    simpa only [List.append_assoc] using this
  · next number form after _ hkey =>
    obtain ⟨start, rfl, hstart⟩ := keyText_of_readKey? hkey
    obtain ⟨⟨payload, _⟩, hplain, heq⟩ := Option.map_eq_some_iff.1 h
    cases heq
    obtain ⟨text, rfl, htext⟩ := plainText_of_readPlain? hplain
    have := FieldsText.plain hlimit hstart htext hrest
    rwa [List.append_assoc] at this

theorem fieldsText_of_readFieldsUpTo {limit fuel : Nat} (hlimit : 0 < limit) {bytes : Bytes}
    {fields : List Field} (h : readFieldsUpTo limit fuel bytes = some fields) :
    FieldsText 1 limit fields bytes := by
  induction fuel generalizing bytes fields with
  | zero =>
    cases bytes with
    | nil => cases h; exact .nil limit
    | cons => cases h
  | succ fuel ih =>
    cases bytes with
    | nil => cases h; exact .nil limit
    | cons byte bytes =>
      simp only [readFieldsUpTo] at h
      split at h
      · next field rest hfield =>
        obtain ⟨others, hothers, rfl⟩ := Option.map_eq_some_iff.1 h
        exact (ih hothers).cons_of_readField? hlimit hfield
      · cases h

/-- The texts of fields are exactly what is read, as these fields. -/
theorem readFields?_eq_some_iff {limit : Nat} (hlimit : 0 < limit) {bytes : Bytes}
    {fields : List Field} :
    readFields? limit bytes = some fields ↔ FieldsText 1 limit fields bytes :=
  ⟨fun h => fieldsText_of_readFieldsUpTo hlimit h, fun h => h.readFields?_of_levels⟩

end LiquidityClient.Wire
