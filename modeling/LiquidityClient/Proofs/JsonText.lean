import LiquidityClient.Json.Reader
import Mathlib.Data.List.TakeDrop
import Mathlib.Tactic.SplitIfs

/-!
# Reading what was written in JSON

A document without fractions reads back from its text on one line (`Plain.parse?_render`). The
reader is followed part by part with whatever stands behind the part : a character of a text
(`units?_escape`), a number (`number?_ofInt`), the items of an array (`items?_write`) and the
members of an object (`members?_write`), whose values are read by any reader that reads them back
(`ReadBackBy`). The value itself is an induction on `Plain`. A number with a fraction or an exponent
is kept by its text (`number?_of_isFractional`).
-/

namespace LiquidityClient

namespace JsonValue

/-! ## Texts -/

theorem hexDigitValue?_digit {d : Nat} (h : d < 16) :
    Scan.digitValue? (Hex.digit d) = some d := by
  have : ∀ d : Fin 16, Scan.digitValue? (Hex.digit d.val) = some d.val := by decide
  exact this ⟨d, h⟩

theorem escape_ne_nil (c : Char) : escape c ≠ [] := by
  unfold escape
  dsimp only
  split_ifs <;> simp

theorem number?_code {n : Nat} (h : n < 32) (rest : List Char) :
    Scan.number? 16 4 ('0' :: '0' :: Hex.digit (n / 16) :: Hex.digit (n % 16) :: rest) =
      some (n, rest) :=
  Scan.number?_byte (hexDigitValue?_digit (by omega)) (hexDigitValue?_digit (by omega)) (by omega)
    rest

/-- A character that is written is read as it is. -/
theorem units?_escape (fuel : Nat) (c : Char) (rest : List Char) :
    units? (fuel + 1) (escape c ++ rest) =
      (units? fuel rest).map fun (units, rest) => (some c :: units, rest) := by
  unfold escape
  dsimp only
  split_ifs with h8 h9 h10 h12 h13 hmark hcontrol
  · obtain rfl := Scan.eq_ofNat_of_toNat h8
    rfl
  · obtain rfl := Scan.eq_ofNat_of_toNat h9
    rfl
  · obtain rfl := Scan.eq_ofNat_of_toNat h10
    rfl
  · obtain rfl := Scan.eq_ofNat_of_toNat h12
    rfl
  · obtain rfl := Scan.eq_ofNat_of_toNat h13
    rfl
  · rcases hmark with h | h <;> obtain rfl := Scan.eq_ofNat_of_toNat h <;> rfl
  · have hcode := number?_code hcontrol rest
    have hjoin : joinSurrogates c.toNat rest = (some c, rest) := by
      unfold joinSurrogates
      rw [if_neg (by omega), if_neg (by omega), Char.ofNat_toNat]
    simp [units?, escape?, hcode, hjoin]
  · have hquote : c ≠ '"' := by
      rintro rfl
      exact hmark (Or.inl rfl)
    have hbackslash : c ≠ '\\' := by
      rintro rfl
      exact hmark (Or.inr rfl)
    simp [units?, hquote, hbackslash, hcontrol]

theorem units?_flatMap_escape {fuel : Nat} {cs : List Char} (hfuel : cs.length < fuel)
    (rest : List Char) :
    units? fuel (cs.flatMap escape ++ '"' :: rest) = some (cs.map some, rest) := by
  induction cs generalizing fuel with
  | nil =>
    obtain ⟨fuel, rfl⟩ := Nat.exists_eq_add_of_lt hfuel
    rfl
  | cons c cs ih =>
    obtain ⟨fuel, rfl⟩ := Nat.exists_eq_add_of_lt hfuel
    rw [List.flatMap_cons, List.append_assoc, units?_escape, ih (by simp; omega)]
    rfl

theorem length_le_flatMap_escape (cs : List Char) : cs.length ≤ (cs.flatMap escape).length := by
  induction cs with
  | nil => exact Nat.le_refl 0
  | cons c cs ih =>
    have hpos := List.length_pos_iff.2 (escape_ne_nil c)
    rw [List.length_cons, List.flatMap_cons, List.length_append]
    omega

theorem mapM_id_map_some {α : Type} (items : List α) : (items.map some).mapM id = some items := by
  induction items with
  | nil => rfl
  | cons item items ih => simp [List.mapM_cons, ih]

/-- A text that is written reads back. -/
theorem text?_escape (content : String) (rest : List Char) :
    text? (content.toList.flatMap escape ++ '"' :: rest) = some (some content, rest) := by
  have hlength := length_le_flatMap_escape content.toList
  have hfuel : content.toList.length <
      (content.toList.flatMap escape ++ '"' :: rest).length + 1 := by
    rw [List.length_append]
    omega
  rw [text?, units?_flatMap_escape hfuel, Option.map_some]
  dsimp only
  rw [mapM_id_map_some, Option.map_some, String.ofList_toList]

/-! ## Numbers -/

/-- Behind a value that is written stands the end of the text, or what goes on with an array or an
object. -/
def Ends (rest : List Char) : Prop :=
  ∀ c, rest.head? = some c → c = ',' ∨ c = ']' ∨ c = '\x7d'

theorem ends_nil : Ends [] := nofun

theorem ends_cons {c : Char} (h : c = ',' ∨ c = ']' ∨ c = '\x7d') (rest : List Char) :
    Ends (c :: rest) := by
  rintro _ ⟨⟩
  exact h

/-- What stands behind a value neither is a digit nor goes on with a number. -/
theorem Ends.number_ends {rest : List Char} (h : Ends rest) :
    digits rest = ([], rest) ∧ fraction? rest = some ([], rest) ∧
      exponent? rest = some ([], rest) := by
  cases rest with
  | nil => exact ⟨rfl, rfl, rfl⟩
  | cons c rest =>
    rcases h c rfl with rfl | rfl | rfl <;> exact ⟨rfl, rfl, rfl⟩

theorem digits_append {ds rest : List Char} (hds : ∀ c ∈ ds, Scan.isDigit 10 c = true)
    (hrest : digits rest = ([], rest)) : digits (ds ++ rest) = (ds, rest) := by
  rw [digits, List.span_eq_takeWhile_dropWhile] at hrest ⊢
  obtain ⟨htake, hdrop⟩ := Prod.mk.inj hrest
  rw [List.takeWhile_append_of_pos hds, List.dropWhile_append_of_pos hds, htake, hdrop,
    List.append_nil]

/-- The digits of a number are taken as they are, whether or not there is a zero in front. -/
theorem whole?_digits (n : Nat) {rest : List Char} (hrest : digits rest = ([], rest)) :
    whole? (Decimal.digits n ++ rest) = some (Decimal.digits n, rest) := by
  have hall : ∀ c ∈ Decimal.digits n, Scan.isDigit 10 c = true := fun _ =>
    Scan.isDigit_of_mem_digits
  obtain ⟨d, ds, -, hds⟩ := Decimal.exists_digits_eq_cons n
  by_cases hzero : Char.ofNat (48 + d) = '0'
  · rw [hzero] at hds
    obtain ⟨-, rfl⟩ := Decimal.eq_zero_of_digits_eq_cons hds
    rw [hds]
    rfl
  · rw [hds, List.cons_append, whole?, ← List.cons_append, ← hds, someDigits?,
      digits_append hall hrest]
    · rw [hds]
    · exact fun _ h => hzero (List.cons.inj h).1

/-- The minus sign of a number, if it has one. -/
def minus (negative : Bool) : List Char :=
  if negative then ['-'] else []

/-- Behind the sign and the digits of a number, a fraction and an exponent decide of which kind it
is. -/
theorem number?_append (negative : Bool) (n : Nat) {rest : List Char}
    (hrest : digits rest = ([], rest)) :
    number? (minus negative ++ (Decimal.digits n ++ rest)) =
      (fraction? rest).bind fun (part, rest) =>
        (exponent? rest).bind fun (power, rest) =>
          if part = [] ∧ power = [] ∧ ¬(negative = true ∧ (n : Int) = 0) then
            some (.integer (if negative then -n else n), rest)
          else
            some (.fraction (String.ofList (minus negative ++ Decimal.digits n ++ part ++ power)),
              rest) := by
  have hwhole := whole?_digits n hrest
  cases negative with
  | true => simp [number?, minus, hwhole, Scan.value_digits, Option.bind_eq_bind]
  | false =>
    obtain ⟨d, ds, hd, hds⟩ := Decimal.exists_digits_eq_cons n
    obtain ⟨-, hminus⟩ := Decimal.digit_ne_sign hd
    unfold number?
    split
    next negative body hfront =>
    rw [minus, if_neg Bool.false_ne_true, List.nil_append, hds, List.cons_append] at hfront
    split at hfront
    · next heq => exact absurd (List.cons.inj heq).1 hminus
    · obtain ⟨rfl, rfl⟩ := Prod.mk.inj hfront
      rw [← List.cons_append, ← hds]
      simp [minus, hwhole, Scan.value_digits, Option.bind_eq_bind]

/-- A number that is written reads back. -/
theorem number?_ofInt (n : Int) {rest : List Char} (hrest : Ends rest) :
    number? ((Decimal.ofInt n).toList ++ rest) = some (.integer n, rest) := by
  obtain ⟨hdigits, hfraction, hexponent⟩ := hrest.number_ends
  have hplain (negative : Bool) (m : Nat) (hzero : ¬(negative = true ∧ (m : Int) = 0)) :
      number? (minus negative ++ (Decimal.digits m ++ rest)) =
        some (.integer (if negative then -m else m), rest) := by
    rw [number?_append negative m hdigits, hfraction, Option.bind_some]
    dsimp only
    rw [hexponent, Option.bind_some]
    exact if_pos ⟨rfl, rfl, hzero⟩
  unfold Decimal.ofInt
  split_ifs with hneg
  · have hvalue : -(n.natAbs : Int) = n := by omega
    have hread := hplain true n.natAbs (fun h => by omega)
    rw [if_pos rfl, hvalue] at hread
    rw [String.toList_ofList]
    exact hread
  · have hvalue : (n.toNat : Int) = n := by omega
    have hread := hplain false n.toNat (fun h => by cases h.1)
    rw [if_neg Bool.false_ne_true, hvalue] at hread
    rw [Decimal.ofNat, String.toList_ofList]
    exact hread

/-- The text starts like a number that has a fraction or an exponent : with an integer and the mark
of one of the two. -/
def IsFractional (spelling : List Char) : Prop :=
  ∃ negative n mark more,
    spelling = minus negative ++ (Decimal.digits n ++ mark :: more) ∧
      (mark = '.' ∨ mark = 'e' ∨ mark = 'E')

/-- Such a number is kept by its text. -/
theorem number?_of_isFractional {spelling rest behind : List Char} {value : JsonValue}
    (h : IsFractional spelling) (hread : number? (spelling ++ rest) = some (value, behind)) :
    ∃ written, value = .fraction written := by
  obtain ⟨negative, n, mark, more, rfl, hmark⟩ := h
  have hdigits : digits (mark :: (more ++ rest)) = ([], mark :: (more ++ rest)) := by
    rcases hmark with rfl | rfl | rfl <;> rfl
  rw [List.append_assoc, List.append_assoc, List.cons_append, number?_append negative n hdigits,
    Option.bind_eq_some_iff] at hread
  obtain ⟨⟨part, rest₁⟩, hfraction, hread⟩ := hread
  obtain ⟨⟨power, rest₂⟩, hexponent, hread⟩ := Option.bind_eq_some_iff.1 hread
  have hmarked : ¬(part = [] ∧ power = []) := by
    rintro ⟨rfl, rfl⟩
    rcases hmark with rfl | hmark
    · -- a point is followed by the digits of a fraction
      obtain ⟨_, -, hpart⟩ := Option.map_eq_some_iff.1 hfraction
      cases hpart
    · have hnone : fraction? (mark :: (more ++ rest)) = some ([], mark :: (more ++ rest)) := by
        rcases hmark with rfl | rfl <;> rfl
      rw [hnone] at hfraction
      cases hfraction
      unfold exponent? at hexponent
      dsimp only at hexponent
      rw [if_pos hmark] at hexponent
      split at hexponent
      · split_ifs at hexponent <;> obtain ⟨_, -, hpower⟩ := Option.map_eq_some_iff.1 hexponent <;>
          cases hpower
      · cases hexponent
  dsimp only at hread
  rw [if_neg fun h => hmarked ⟨h.1, h.2.1⟩] at hread
  cases hread
  exact ⟨_, rfl⟩

/-! ## Values -/

/-- A value without numbers that have a fraction or an exponent, whose texts and names are texts of
characters. -/
inductive Plain : JsonValue → Prop
  | null : Plain .null
  | boolean (b : Bool) : Plain (.boolean b)
  | integer (n : Int) : Plain (.integer n)
  | text (content : String) : Plain (.text (some content))
  | array {items : List JsonValue} (hitems : ∀ item ∈ items, Plain item) : Plain (.array items)
  | object {members : List (Option String × JsonValue)}
      (hnames : ∀ member ∈ members, member.1.isSome)
      (hvalues : ∀ member ∈ members, Plain member.2) : Plain (.object members)

/-- The characters of a member. -/
def writeMember (member : Option String × JsonValue) : List Char :=
  quote (member.1.getD "") ++ ':' :: member.2.write

theorem length_write_le_writeMember (member : Option String × JsonValue) :
    member.2.write.length ≤ (writeMember member).length := by
  rw [writeMember, List.length_append, List.length_cons]
  omega

theorem writeItems_eq (items : List JsonValue) : writeItems items = items.map write := by
  induction items with
  | nil => rfl
  | cons item items ih => rw [writeItems, ih, List.map_cons]

theorem writeMembers_eq (members : List (Option String × JsonValue)) :
    writeMembers members = members.map writeMember := by
  induction members with
  | nil => rfl
  | cons member members ih => rw [writeMembers, ih, List.map_cons, writeMember]

theorem commaSeparated_singleton (part : List Char) : commaSeparated [part] = part := by
  simp [commaSeparated]

theorem commaSeparated_cons_cons (part next : List Char) (parts : List (List Char)) :
    commaSeparated (part :: next :: parts) = part ++ ',' :: commaSeparated (next :: parts) := by
  simp [commaSeparated, List.intercalate]

theorem exists_commaSeparated_eq_append (part : List Char) (parts : List (List Char)) :
    ∃ cs, commaSeparated (part :: parts) = part ++ cs := by
  cases parts with
  | nil => exact ⟨[], by rw [commaSeparated_singleton, List.append_nil]⟩
  | cons next parts => exact ⟨_, commaSeparated_cons_cons part next parts⟩

theorem length_le_commaSeparated_of_mem {part : List Char} {parts : List (List Char)}
    (h : part ∈ parts) : part.length ≤ (commaSeparated parts).length := by
  induction parts with
  | nil => cases h
  | cons first parts ih =>
    cases parts with
    | nil =>
      rw [commaSeparated_singleton]
      exact Nat.le_of_eq (congrArg List.length (List.mem_singleton.1 h))
    | cons next parts =>
      rw [commaSeparated_cons_cons, List.length_append, List.length_cons]
      rcases List.mem_cons.1 h with rfl | hmem
      · omega
      · have := ih hmem
        omega

/-- There is a comma for each part but the first. -/
theorem length_le_commaSeparated (part : List Char) (parts : List (List Char)) :
    parts.length ≤ (commaSeparated (part :: parts)).length := by
  induction parts generalizing part with
  | nil => exact Nat.zero_le _
  | cons next parts ih =>
    have := ih next
    rw [commaSeparated_cons_cons, List.length_append, List.length_cons, List.length_cons]
    omega

/-- What starts with a minus sign or a digit is read as a number. -/
theorem value?_of_number (depth : Nat) {c : Char} (cs : List Char)
    (h : c = '-' ∨ Scan.isDigit 10 c = true) :
    value? (depth + 1) (c :: cs) = number? (c :: cs) := by
  rw [value?]
  all_goals
    intro rest heq
    cases heq
    revert h
    decide

theorem IsFractional.exists_eq_cons {spelling : List Char} (h : IsFractional spelling) :
    ∃ c cs, spelling = c :: cs ∧ (c = '-' ∨ Scan.isDigit 10 c = true) := by
  obtain ⟨negative, n, mark, more, rfl, -⟩ := h
  cases negative with
  | true => exact ⟨'-', _, rfl, Or.inl rfl⟩
  | false =>
    obtain ⟨d, ds, -, hds⟩ := Decimal.exists_digits_eq_cons n
    refine ⟨_, ds ++ mark :: more, by rw [hds]; rfl, Or.inr ?_⟩
    exact Scan.isDigit_of_mem_digits (hds ▸ List.mem_cons_self)

/-- A number starts with no blank. -/
theorem isBlank_of_number {c : Char} (h : c = '-' ∨ Scan.isDigit 10 c = true) :
    isBlank c = false := by
  rw [Bool.eq_false_iff]
  intro hblank
  simp only [isBlank, Bool.or_eq_true, decide_eq_true_eq] at hblank
  rcases hblank with ((rfl | rfl) | rfl) | rfl <;> revert h <;> decide

/-- A value starts with no blank and no bracket that closes. -/
theorem Plain.exists_write_eq_cons {value : JsonValue} (h : value.Plain) :
    ∃ c cs, value.write = c :: cs ∧ isBlank c = false ∧ c ≠ ']' := by
  cases h with
  | null => exact ⟨'n', _, rfl, by decide⟩
  | boolean b => cases b <;> exact ⟨_, _, rfl, by decide⟩
  | integer n =>
    obtain ⟨c, cs, hcs, hc⟩ := Scan.exists_ofInt_eq_cons n
    refine ⟨c, cs, hcs, isBlank_of_number hc, ?_⟩
    rintro rfl
    revert hc
    decide
  | text content => exact ⟨'"', _, rfl, by decide⟩
  | array _ => exact ⟨'[', _, rfl, by decide⟩
  | object _ _ => exact ⟨'\x7b', _, rfl, by decide⟩

theorem Plain.dropWhile_blank {value : JsonValue} (h : value.Plain) (rest : List Char) :
    (value.write ++ rest).dropWhile isBlank = value.write ++ rest := by
  obtain ⟨c, cs, hcs, hblank, -⟩ := h.exists_write_eq_cons
  rw [hcs, List.cons_append, List.dropWhile_cons_of_neg (by simp [hblank])]

/-- A plain value is read back by a reader, whatever stands behind it. -/
def ReadBackBy (read? : List Char → Option (JsonValue × List Char)) (value : JsonValue) : Prop :=
  value.Plain ∧ ∀ rest, Ends rest → read? (value.write ++ rest) = some (value, rest)

variable {read? : List Char → Option (JsonValue × List Char)}

theorem items?_write {items : List JsonValue} (hne : items ≠ []) {fuel : Nat}
    (hfuel : items.length ≤ fuel) (hitems : ∀ item ∈ items, ReadBackBy read? item)
    (rest : List Char) :
    items? read? fuel (commaSeparated (items.map write) ++ ']' :: rest) = some (items, rest) := by
  induction items generalizing fuel with
  | nil => exact absurd rfl hne
  | cons item items ih =>
    obtain ⟨fuel, rfl⟩ := Nat.exists_eq_add_of_le' (Nat.le_trans (Nat.succ_pos _) hfuel)
    obtain ⟨⟨hplain, hread⟩, htail⟩ := List.forall_mem_cons.1 hitems
    cases items with
    | nil =>
      rw [List.map_singleton, commaSeparated_singleton, items?, hplain.dropWhile_blank,
        hread _ (ends_cons (by decide) rest)]
      rfl
    | cons next items =>
      have hnext := ih (List.cons_ne_nil _ _) (Nat.le_of_succ_le_succ hfuel) htail
      rw [List.map_cons] at hnext
      rw [List.map_cons, List.map_cons, commaSeparated_cons_cons, List.append_assoc,
        List.cons_append, items?, hplain.dropWhile_blank, hread _ (ends_cons (by decide) _)]
      simp only [List.dropWhile_cons_of_neg (show ¬isBlank ',' = true by decide), hnext,
        Option.map_some]

/-- A member is read by its quoted name and its value. -/
theorem member?_quote (name : String) {c : Char} (hblank : isBlank c = false) (cs : List Char) :
    member? read? (quote name ++ ':' :: c :: cs) =
      (read? (c :: cs)).map fun (value, rest) => ((some name, value), rest) := by
  have htext := text?_escape name (':' :: c :: cs)
  have hquote : isBlank '"' = false := by decide
  have hcolon : isBlank ':' = false := by decide
  simp [quote, member?, htext, hblank, hquote, hcolon]

theorem member?_write {name : String} {value : JsonValue} {rest : List Char}
    (hvalue : ReadBackBy read? value) (hrest : Ends rest) :
    member? read? (writeMember (some name, value) ++ rest) = some ((some name, value), rest) := by
  obtain ⟨hplain, hread⟩ := hvalue
  obtain ⟨c, cs, hcs, hblank, -⟩ := hplain.exists_write_eq_cons
  have hvalue := hread rest hrest
  rw [hcs, List.cons_append] at hvalue
  rw [writeMember, hcs, List.append_assoc, List.cons_append, List.cons_append, Option.getD_some,
    member?_quote name hblank, hvalue]
  rfl

/-- The members of an object start with the one that is read first. -/
theorem members?_eq_some {fuel : Nat} {cs rest : List Char}
    {members : List (Option String × JsonValue)}
    (h : members? read? fuel cs = some (members, rest)) :
    ∃ member behind more, member? read? cs = some (member, behind) ∧ members = member :: more := by
  cases fuel with
  | zero => cases h
  | succ fuel =>
    rw [members?] at h
    cases hmember : member? read? cs with
    | none =>
      rw [hmember] at h
      cases h
    | some found =>
      obtain ⟨member, behind⟩ := found
      rw [hmember] at h
      dsimp only at h
      refine ⟨member, behind, ?_⟩
      split at h
      · split_ifs at h
        · obtain ⟨⟨more, _⟩, -, hmembers⟩ := Option.map_eq_some_iff.1 h
          cases hmembers
          exact ⟨more, rfl, rfl⟩
        · cases h
          exact ⟨[], rfl, rfl⟩
      · cases h

theorem members?_write {members : List (Option String × JsonValue)} (hne : members ≠ [])
    {fuel : Nat} (hfuel : members.length ≤ fuel) (hnames : ∀ member ∈ members, member.1.isSome)
    (hmembers : ∀ member ∈ members, ReadBackBy read? member.2) (rest : List Char) :
    members? read? fuel (commaSeparated (members.map writeMember) ++ '\x7d' :: rest) =
      some (members, rest) := by
  induction members generalizing fuel with
  | nil => exact absurd rfl hne
  | cons member members ih =>
    obtain ⟨fuel, rfl⟩ := Nat.exists_eq_add_of_le' (Nat.le_trans (Nat.succ_pos _) hfuel)
    obtain ⟨name, value⟩ := member
    obtain ⟨hname, hrest⟩ := List.forall_mem_cons.1 hnames
    obtain ⟨hvalue, htail⟩ := List.forall_mem_cons.1 hmembers
    obtain ⟨name, rfl⟩ := Option.isSome_iff_exists.1 hname
    cases members with
    | nil =>
      rw [List.map_singleton, commaSeparated_singleton, members?,
        member?_write hvalue (ends_cons (by decide) rest)]
      rfl
    | cons next members =>
      have hnext := ih (List.cons_ne_nil _ _) (Nat.le_of_succ_le_succ hfuel) hrest htail
      rw [List.map_cons] at hnext
      rw [List.map_cons, List.map_cons, commaSeparated_cons_cons, List.append_assoc,
        List.cons_append, members?, member?_write hvalue (ends_cons (by decide) _)]
      simp only [List.dropWhile_cons_of_neg (show ¬isBlank ',' = true by decide), hnext,
        Option.map_some, if_true]

/-- Behind an opening bracket stands an item, unless the bracket is closed at once. -/
theorem value?_bracket {depth : Nat} {cs : List Char} (hblank : cs.dropWhile isBlank = cs)
    (hclose : cs.head? ≠ some ']') :
    value? (depth + 1) ('[' :: cs) =
      (items? (value? depth) (cs.length + 1) cs).map fun (items, rest) => (.array items, rest) := by
  rw [value?, hblank]
  split
  · exact absurd rfl hclose
  · rfl

/-- Behind an opening brace stands a member, unless the brace is closed at once. -/
theorem value?_brace {depth : Nat} {cs : List Char} (hblank : cs.dropWhile isBlank = cs)
    (hclose : cs.head? ≠ some '\x7d') :
    value? (depth + 1) ('\x7b' :: cs) =
      (members? (value? depth) (cs.length + 1) cs).map fun (members, rest) =>
        (.object members, rest) := by
  rw [value?, hblank]
  split
  · exact absurd rfl hclose
  · rfl

theorem value?_writeItems {items : List JsonValue} {depth : Nat}
    (hitems : ∀ item ∈ items, ReadBackBy (value? depth) item) (rest : List Char) :
    value? (depth + 1) ('[' :: (commaSeparated (items.map write) ++ ']' :: rest)) =
      some (.array items, rest) := by
  cases items with
  | nil => rfl
  | cons item items =>
    obtain ⟨c, cs, hcs, hblank, hclose⟩ :=
      (hitems item List.mem_cons_self).1.exists_write_eq_cons
    obtain ⟨behind, hbehind⟩ := exists_commaSeparated_eq_append item.write (items.map write)
    have hcount := length_le_commaSeparated item.write (items.map write)
    rw [List.length_map] at hcount
    rw [value?_bracket, items?_write (List.cons_ne_nil _ _) _ hitems, Option.map_some]
    · rw [List.map_cons, List.length_append, List.length_cons, List.length_cons]
      omega
    · rw [List.map_cons, hbehind, hcs, List.cons_append, List.cons_append,
        List.dropWhile_cons_of_neg (by simp [hblank])]
    · rw [List.map_cons, hbehind, hcs]
      simp [hclose]

theorem value?_writeMembers {members : List (Option String × JsonValue)} {depth : Nat}
    (hnames : ∀ member ∈ members, member.1.isSome)
    (hmembers : ∀ member ∈ members, ReadBackBy (value? depth) member.2) (rest : List Char) :
    value? (depth + 1) ('\x7b' :: (commaSeparated (members.map writeMember) ++ '\x7d' :: rest)) =
      some (.object members, rest) := by
  cases members with
  | nil => rfl
  | cons member members =>
    obtain ⟨behind, hbehind⟩ :=
      exists_commaSeparated_eq_append (writeMember member) (members.map writeMember)
    have hcount := length_le_commaSeparated (writeMember member) (members.map writeMember)
    rw [List.length_map] at hcount
    rw [value?_brace, members?_write (List.cons_ne_nil _ _) _ hnames hmembers, Option.map_some]
    · rw [List.map_cons, List.length_append, List.length_cons, List.length_cons]
      omega
    · rw [List.map_cons, hbehind]
      simp [writeMember, quote, isBlank]
    · rw [List.map_cons, hbehind]
      simp [writeMember, quote]

/-- A value that is written reads back. The fuel of the reader is a bound of the length of the text,
which each part of a value stays below. -/
theorem Plain.value?_write {value : JsonValue} (h : value.Plain) {depth : Nat}
    (hdepth : value.write.length ≤ depth) {rest : List Char} (hrest : Ends rest) :
    value? (depth + 1) (value.write ++ rest) = some (value, rest) := by
  induction h generalizing depth rest with
  | null => rfl
  | boolean b => cases b <;> rfl
  | integer n =>
    obtain ⟨c, cs, hcs, hc⟩ := Scan.exists_ofInt_eq_cons n
    have hread := number?_ofInt n hrest
    rw [hcs] at hread
    rw [write, hcs, List.cons_append, value?_of_number depth _ hc, ← List.cons_append, hread]
  | text content => simp [write, quote, value?, text?_escape]
  | array hitems ih =>
    rw [write, writeItems_eq] at hdepth ⊢
    simp only [List.length_append, List.length_cons] at hdepth
    obtain ⟨depth, rfl⟩ := Nat.exists_eq_add_of_le' (Nat.le_trans (Nat.succ_pos _) hdepth)
    rw [List.cons_append, List.cons_append, List.append_assoc, List.singleton_append]
    refine value?_writeItems (fun item hitem => ?_) rest
    have := length_le_commaSeparated_of_mem (List.mem_map_of_mem (f := write) hitem)
    exact ⟨hitems item hitem, fun rest hrest => ih item hitem (by omega) hrest⟩
  | object hnames hvalues ih =>
    rw [write, writeMembers_eq] at hdepth ⊢
    simp only [List.length_append, List.length_cons] at hdepth
    obtain ⟨depth, rfl⟩ := Nat.exists_eq_add_of_le' (Nat.le_trans (Nat.succ_pos _) hdepth)
    rw [List.cons_append, List.cons_append, List.append_assoc, List.singleton_append]
    refine value?_writeMembers hnames (fun member hmember => ?_) rest
    have := length_le_commaSeparated_of_mem (List.mem_map_of_mem (f := writeMember) hmember)
    have := length_write_le_writeMember member
    exact ⟨hvalues member hmember, fun rest hrest => ih member hmember (by omega) hrest⟩

/-- A document that is written reads back. -/
theorem Plain.parse?_render {value : JsonValue} (h : value.Plain) :
    parse? value.render = some value := by
  have hread := h.value?_write (Nat.le_refl _) ends_nil
  have hblank := h.dropWhile_blank []
  rw [List.append_nil] at hread hblank
  rw [parse?, render, String.toList_ofList, hblank]
  simp only [hread, List.all_nil, if_true]

end JsonValue

end LiquidityClient
