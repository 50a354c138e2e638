import LiquidityClient.Toml.Quoted
import Mathlib.Data.List.TakeDrop
import Mathlib.Tactic.SplitIfs

/-!
# Reading quoted text back

A text between quotes is read as the text that was written, in each of the four forms
(`Quoted.read?_write`). Behind an escape stands what it stands for (`escape_cases`), so that a basic
text is read back character by character. In the forms over lines the reader looks for three marks
in a row before anything else, and takes up to two more of them as a part of the text : what is
written has at most two marks in a row that are not escaped, and these are read back in front of the
closing marks as well as elsewhere (`closing?_cons`).
-/

namespace LiquidityClient.Toml.Quoted

/-! ## Escapes -/

/-- What stands behind a backslash is read as the character, and hides no line end. -/
def Spells (code : List Char) (c : Char) : Prop :=
  ∀ rest, escape? (code ++ rest) = some (c, rest) ∧ continuation? (code ++ rest) = none

theorem digitValue?_upper {d : Nat} (h : d < 16) :
    Scan.digitValue? (Hex.digit d).toUpper = some d := by
  have : ∀ d : Fin 16, Scan.digitValue? (Hex.digit d.val).toUpper = some d.val := by decide
  exact this ⟨d, h⟩

theorem spells_code {c : Char} (h : c.toNat < 256) :
    Spells ['u', '0', '0', (Hex.digit (c.toNat / 16)).toUpper,
      (Hex.digit (c.toNat % 16)).toUpper] c := by
  intro rest
  have hnumber := Scan.number?_byte (digitValue?_upper (d := c.toNat / 16) (by omega))
    (digitValue?_upper (Nat.mod_lt _ (by decide))) h rest
  have hshort : shortEscapes.lookup 'u' = none := by decide
  have hcount : codeEscapes.lookup 'u' = some 4 := by decide
  refine ⟨?_, rfl⟩
  simp only [List.cons_append, List.nil_append, escape?, hshort, hcount, Scan.escaped?, hnumber]
  rw [if_pos (show c.toNat.isValidChar from c.valid), Char.ofNat_toNat]

/-- A character is written as it is, or as an escape. -/
theorem escape_cases (lines : Bool) (c : Char) :
    (escape lines c = [c] ∧ c ≠ '\\' ∧ (isPrintable c = true ∨ lines = true ∧ c = '\n')) ∨
      ∃ code, escape lines c = '\\' :: code ∧ Spells code c := by
  unfold escape
  dsimp only
  split_ifs with h8 h9 h10 hlines h12 h13 hslash hcontrol
  · obtain rfl := Scan.eq_ofNat_of_toNat h8
    exact Or.inr ⟨_, rfl, fun rest => ⟨rfl, rfl⟩⟩
  · obtain rfl := Scan.eq_ofNat_of_toNat h9
    exact Or.inr ⟨_, rfl, fun rest => ⟨rfl, rfl⟩⟩
  · obtain rfl := Scan.eq_ofNat_of_toNat h10
    exact Or.inl ⟨rfl, by decide, Or.inr ⟨hlines, rfl⟩⟩
  · obtain rfl := Scan.eq_ofNat_of_toNat h10
    exact Or.inr ⟨_, rfl, fun rest => ⟨rfl, rfl⟩⟩
  · obtain rfl := Scan.eq_ofNat_of_toNat h12
    exact Or.inr ⟨_, rfl, fun rest => ⟨rfl, rfl⟩⟩
  · obtain rfl := Scan.eq_ofNat_of_toNat h13
    exact Or.inr ⟨_, rfl, fun rest => ⟨rfl, rfl⟩⟩
  · subst hslash
    exact Or.inr ⟨_, rfl, fun rest => ⟨rfl, rfl⟩⟩
  · exact Or.inr ⟨_, rfl, spells_code (by omega)⟩
  · refine Or.inl ⟨rfl, hslash, Or.inl ?_⟩
    simp only [isPrintable, Bool.or_eq_true, decide_eq_true_eq, Bool.and_eq_true]
    omega

theorem spells_basicMark : Spells [basicMark] basicMark :=
  fun _ => ⟨rfl, rfl⟩

/-! ## Texts on one line -/

theorem basic?_mark (rest : List Char) : basic? (basicMark :: rest) = some ([], rest) := by
  rw [basic?, if_pos rfl]

theorem basic?_cons {c : Char} (hmark : c ≠ basicMark) (hslash : c ≠ '\\')
    (hprintable : isPrintable c = true) (rest : List Char) :
    basic? (c :: rest) = (basic? rest).map fun (text, rest) => (c :: text, rest) := by
  rw [basic?, if_neg hmark, if_neg hslash, if_pos hprintable]

theorem basic?_escape {code : List Char} {c : Char} (h : Spells code c) (rest : List Char) :
    basic? ('\\' :: code ++ rest) = (basic? rest).map fun (text, rest) => (c :: text, rest) := by
  rw [List.cons_append, basic?, if_neg (by decide), if_pos rfl]
  split
  · next d rest' hescape =>
    cases (h rest).1.symm.trans hescape
    rfl
  · next hescape => cases (h rest).1.symm.trans hescape

theorem basic?_writeBasic (text : List Char) (count : Nat) (rest : List Char) :
    basic? (writeBasic false count text ++ basicMark :: rest) = some (text, rest) := by
  induction text generalizing count with
  | nil => exact basic?_mark rest
  | cons c text ih =>
    rw [writeBasic]
    split_ifs with hmark hlines
    · exact hlines.1.elim
    · subst hmark
      exact (basic?_escape spells_basicMark _).trans (congrArg _ (ih 0))
    · rw [List.append_assoc]
      rcases escape_cases false c with ⟨hc, hslash, hprintable | ⟨hlines, -⟩⟩ | ⟨code, hc, hspells⟩
      · rw [hc, List.singleton_append, basic?_cons hmark hslash hprintable, ih]
        rfl
      · cases hlines
      · rw [hc, basic?_escape hspells, ih]
        rfl

theorem literal?_write {text : List Char} (hprintable : ∀ c ∈ text, isPrintable c = true)
    (hmark : literalMark ∉ text) (rest : List Char) :
    literal? (text ++ literalMark :: rest) = some (text, rest) := by
  induction text with
  | nil => simp [literal?]
  | cons c text ih =>
    obtain ⟨hc, htext⟩ := List.forall_mem_cons.1 hprintable
    obtain ⟨hne, hnotMem⟩ := not_or.1 (mt List.mem_cons.2 hmark)
    rw [List.cons_append, literal?, if_neg (Ne.symm hne), if_pos hc, ih htext hnotMem]
    rfl

/-! ## Marks in a row -/

/-- The number of marks at the front. -/
def marks (mark : Char) (cs : List Char) : Nat :=
  (cs.takeWhile (· = mark)).length

theorem marks_cons_self (mark : Char) (cs : List Char) :
    marks mark (mark :: cs) = marks mark cs + 1 := by
  simp [marks]

theorem marks_cons_of_ne {mark c : Char} (h : c ≠ mark) (cs : List Char) :
    marks mark (c :: cs) = 0 := by
  simp [marks, h]

theorem closing?_eq_none {mark : Char} {cs : List Char} (h : marks mark cs < 3) :
    closing? mark cs = none :=
  if_neg (Nat.not_le_of_lt h)

theorem closing?_eq_some {mark : Char} {cs : List Char} (h : 3 ≤ marks mark cs)
    (hle : marks mark cs ≤ 5) :
    closing? mark cs =
      some (List.replicate (marks mark cs - 3) mark, cs.drop (marks mark cs)) := by
  have hmin : min (cs.takeWhile (· = mark)).length 5 = marks mark cs := Nat.min_eq_left hle
  simp only [closing?, hmin]
  exact if_pos h

/-- A text that ends in front of marks has one mark more if a mark is put in front. -/
theorem closing?_cons {mark : Char} {cs text rest : List Char}
    (h : closing? mark cs = some (text, rest)) (hle : marks mark cs ≤ 4) :
    closing? mark (mark :: cs) = some (mark :: text, rest) := by
  have hthree : 3 ≤ marks mark cs := by
    by_contra hfew
    rw [closing?_eq_none (Nat.lt_of_not_le hfew)] at h
    cases h
  rw [closing?_eq_some hthree (Nat.le_succ_of_le hle)] at h
  cases h
  have hmore := marks_cons_self mark cs
  rw [closing?_eq_some (by omega) (by omega), hmore,
    show marks mark cs + 1 - 3 = marks mark cs - 3 + 1 by omega]
  rfl

/-- Some marks that are not too many, with `count` more in front of them : without the closing marks
they are less than three together, and with the closing marks at most five. -/
def Harmless (count found : Nat) : Prop :=
  found + count ≤ 2 ∨ 3 ≤ found ∧ found + count ≤ 5

/-- A reader of texts over lines looks for closing marks first, and takes other marks as they
are. -/
structure ReadsLines (mark : Char) (reader : List Char → Option (List Char × List Char)) :
    Prop where
  closing : ∀ {cs done}, closing? mark cs = some done → reader cs = some done
  mark : ∀ {cs}, closing? mark (mark :: cs) = none →
    reader (mark :: cs) = (reader cs).map fun (text, rest) => (mark :: text, rest)

/-- A mark in front of a text is read as a part of it, where marks are not too many. -/
theorem ReadsLines.cons_mark {mark : Char} {reader : List Char → Option (List Char × List Char)}
    (h : ReadsLines mark reader) {cs text rest : List Char} (hread : reader cs = some (text, rest))
    (hmarks : Harmless 1 (marks mark cs)) : reader (mark :: cs) = some (mark :: text, rest) := by
  rcases hmarks with hfew | ⟨hthree, hle⟩
  · have hnone : closing? mark (mark :: cs) = none :=
      closing?_eq_none (by rw [marks_cons_self]; omega)
    rw [h.mark hnone, hread]
    rfl
  · have hclosing := closing?_eq_some hthree (Nat.le_of_succ_le hle)
    have hdone := (h.closing hclosing).symm.trans hread
    cases hdone
    exact h.closing (closing?_cons hclosing (Nat.le_of_succ_le_succ hle))

/-- Behind the closing marks stands none of them. -/
def Unmarked (mark : Char) (rest : List Char) : Prop :=
  marks mark rest = 0

theorem Unmarked.harmless {mark : Char} {rest : List Char} (h : Unmarked mark rest) {count : Nat}
    (hcount : count ≤ 2) : Harmless count (marks mark (mark :: mark :: mark :: rest)) := by
  unfold Unmarked at h
  simp only [marks_cons_self, h]
  exact Or.inr ⟨by omega, by omega⟩

theorem Unmarked.closing? {mark : Char} {rest : List Char} (h : Unmarked mark rest) :
    closing? mark (mark :: mark :: mark :: rest) = some ([], rest) := by
  unfold Unmarked at h
  have hthree : marks mark (mark :: mark :: mark :: rest) = 3 := by
    simp only [marks_cons_self, h]
  rw [closing?_eq_some (by omega) (by omega), hthree]
  rfl

/-! ## Basic texts over lines -/

theorem basicLines?_plain {c : Char} (hslash : c ≠ '\\')
    (hprintable : isPrintable c = true ∨ c = '\n') {rest : List Char}
    (hclosing : closing? basicMark (c :: rest) = none) :
    basicLines? (c :: rest) = (basicLines? rest).map fun (text, rest) => (c :: text, rest) := by
  have hreturn : c ≠ '\r' := by
    rintro rfl
    exact absurd hprintable (by decide)
  rw [basicLines?, hclosing]
  · dsimp only
    rw [if_neg hslash, if_pos hprintable]
  · exact fun _ hc _ => hreturn hc

theorem basicLines?_cons {c : Char} (hmark : c ≠ basicMark) (hslash : c ≠ '\\')
    (hprintable : isPrintable c = true ∨ c = '\n') (rest : List Char) :
    basicLines? (c :: rest) = (basicLines? rest).map fun (text, rest) => (c :: text, rest) :=
  basicLines?_plain hslash hprintable
    (closing?_eq_none (by rw [marks_cons_of_ne hmark]; decide))

theorem basicLines?_escape {code : List Char} {c : Char} (h : Spells code c) (rest : List Char) :
    basicLines? ('\\' :: code ++ rest) =
      (basicLines? rest).map fun (text, rest) => (c :: text, rest) := by
  have hclosing : closing? basicMark ('\\' :: (code ++ rest)) = none :=
    closing?_eq_none (by rw [marks_cons_of_ne (by decide)]; decide)
  rw [List.cons_append, basicLines?, hclosing]
  · dsimp only
    rw [if_pos rfl]
    split
    · next behind hline => cases (h rest).2.symm.trans hline
    · split
      · next d rest' hescape =>
        cases (h rest).1.symm.trans hescape
        rfl
      · next hescape => cases (h rest).1.symm.trans hescape
  · exact fun _ hc _ => absurd hc (by decide)

theorem readsLines_basicLines? : ReadsLines basicMark basicLines? where
  closing h := by rw [basicLines?.eq_def, h]
  mark := basicLines?_plain (by decide) (by decide)

/-- What is written over lines has few marks in a row, those in front of it counted. -/
theorem harmless_writeBasic {rest : List Char} (hrest : Unmarked basicMark rest) (text : List Char)
    {count : Nat} (hcount : count ≤ 2) :
    Harmless count (marks basicMark (writeBasic true count text ++
      basicMark :: basicMark :: basicMark :: rest)) := by
  induction text generalizing count with
  | nil => exact hrest.harmless hcount
  | cons c text ih =>
    have hzero : Harmless count 0 := Or.inl (by omega)
    rw [writeBasic]
    split_ifs with hmark hlines
    · subst hmark
      rw [List.cons_append, marks_cons_self]
      have hmore := ih (show count + 1 ≤ 2 by omega)
      unfold Harmless at hmore ⊢
      omega
    · rw [List.cons_append, marks_cons_of_ne (by decide)]
      exact hzero
    · rcases escape_cases true c with ⟨hc, -⟩ | ⟨code, hc, -⟩
      · rw [hc, List.append_assoc, List.singleton_append, marks_cons_of_ne hmark]
        exact hzero
      · rw [hc, List.append_assoc, List.cons_append, marks_cons_of_ne (by decide)]
        exact hzero

theorem basicLines?_writeBasic {rest : List Char} (hrest : Unmarked basicMark rest)
    (text : List Char) {count : Nat} (hcount : count ≤ 2) :
    basicLines? (writeBasic true count text ++ basicMark :: basicMark :: basicMark :: rest) =
      some (text, rest) := by
  induction text generalizing count with
  | nil => exact readsLines_basicLines?.closing hrest.closing?
  | cons c text ih =>
    rw [writeBasic]
    split_ifs with hmark hlines
    · subst hmark
      have hmore := harmless_writeBasic hrest text (show count + 1 ≤ 2 by omega)
      rw [List.cons_append]
      refine readsLines_basicLines?.cons_mark (ih (by omega)) ?_
      unfold Harmless at hmore ⊢
      omega
    · subst hmark
      exact (basicLines?_escape spells_basicMark _).trans (congrArg _ (ih (Nat.zero_le 2)))
    · rw [List.append_assoc]
      rcases escape_cases true c with ⟨hc, hslash, hplain⟩ | ⟨code, hc, hspells⟩
      · rw [hc, List.singleton_append, basicLines?_cons hmark hslash (hplain.imp_right And.right),
          ih (Nat.zero_le 2)]
        rfl
      · rw [hc, basicLines?_escape hspells, ih (Nat.zero_le 2)]
        rfl

/-! ## Literal texts over lines -/

theorem literalLines?_plain {c : Char} (hprintable : isPrintable c = true ∨ c = '\n')
    {rest : List Char} (hclosing : closing? literalMark (c :: rest) = none) :
    literalLines? (c :: rest) =
      (literalLines? rest).map fun (text, rest) => (c :: text, rest) := by
  have hreturn : c ≠ '\r' := by
    rintro rfl
    exact absurd hprintable (by decide)
  rw [literalLines?, hclosing]
  · dsimp only
    rw [if_pos hprintable]
  · exact fun _ hc _ => hreturn hc

theorem readsLines_literalLines? : ReadsLines literalMark literalLines? where
  closing h := by rw [literalLines?.eq_def, h]
  mark := literalLines?_plain (by decide)

theorem lt_three_of_hasRun {mark : Char} {count : Nat} {text : List Char}
    (h : hasRun mark 3 (List.replicate count mark ++ text) = false) : count < 3 := by
  by_contra hmany
  obtain ⟨more, rfl⟩ := Nat.exists_eq_add_of_le (Nat.le_of_not_lt hmany)
  rw [Nat.add_comm] at h
  simp [hasRun, List.replicate_succ] at h

theorem replicate_append_cons {mark : Char} (count : Nat) (text : List Char) :
    List.replicate count mark ++ mark :: text = List.replicate (count + 1) mark ++ text := by
  rw [List.replicate_succ', List.append_assoc]
  rfl

/-- A text without three marks in a row has few of them at its front, those before it counted. -/
theorem harmless_literal {mark : Char} {rest : List Char} (hrest : Unmarked mark rest)
    {text : List Char} {count : Nat}
    (h : hasRun mark 3 (List.replicate count mark ++ text) = false) :
    Harmless count (marks mark (text ++ mark :: mark :: mark :: rest)) := by
  have hcount := lt_three_of_hasRun h
  induction text generalizing count with
  | nil => exact hrest.harmless (by omega)
  | cons c text ih =>
    by_cases hmark : c = mark
    · subst hmark
      rw [replicate_append_cons] at h
      have hmore := ih h (lt_three_of_hasRun h)
      rw [List.cons_append, marks_cons_self]
      unfold Harmless at hmore ⊢
      omega
    · rw [List.cons_append, marks_cons_of_ne hmark]
      exact Or.inl (by omega)

theorem literalLines?_write {rest : List Char} (hrest : Unmarked literalMark rest)
    {text : List Char} (hprintable : ∀ c ∈ text, isPrintable c = true ∨ c = '\n')
    (h : hasRun literalMark 3 text = false) :
    literalLines? (text ++ literalMark :: literalMark :: literalMark :: rest) =
      some (text, rest) := by
  induction text with
  | nil => exact readsLines_literalLines?.closing hrest.closing?
  | cons c text ih =>
    obtain ⟨hc, htext⟩ := List.forall_mem_cons.1 hprintable
    have hread := ih htext (Bool.or_eq_false_iff.1 h).2
    rw [List.cons_append]
    by_cases hmark : c = literalMark
    · subst hmark
      have hone : hasRun literalMark 3 (List.replicate 1 literalMark ++ text) = false := h
      exact readsLines_literalLines?.cons_mark hread (harmless_literal hrest hone)
    · have hclosing : closing? literalMark
          (c :: (text ++ literalMark :: literalMark :: literalMark :: rest)) = none :=
        closing?_eq_none (by rw [marks_cons_of_ne hmark]; decide)
      rw [literalLines?_plain hc hclosing, hread]
      rfl

/-! ## The four forms -/

theorem openingLines?_eq_none {mark : Char} {cs : List Char} (h : marks mark cs < 3) :
    openingLines? mark cs = none := by
  unfold openingLines?
  split
  · next a b c rest =>
    refine if_neg ?_
    rintro ⟨rfl, rfl, rfl⟩
    simp only [marks_cons_self] at h
    omega
  · rfl

theorem newline?_eq_none {c : Char} (hnewline : c ≠ '\n') (hreturn : c ≠ '\r')
    (rest : List Char) : newline? (c :: rest) = none := by
  unfold newline?
  split
  · next h => exact absurd (List.cons.inj h).1 hnewline
  · next h => exact absurd (List.cons.inj h).1 hreturn
  · rfl

theorem ne_newline_of_isPrintable {c : Char} (h : isPrintable c = true) : c ≠ '\n' ∧ c ≠ '\r' :=
  ⟨by rintro rfl; exact absurd h (by decide), by rintro rfl; exact absurd h (by decide)⟩

/-- The marks that open a text over lines are taken off, with a line end behind them if the text has
one, and not otherwise. -/
theorem openingLines?_openLines (mark : Char) {text body : List Char}
    (hbody : '\n' ∉ text → newline? body = none) :
    openingLines? mark (openLines mark text ++ body) = some body := by
  unfold openLines
  by_cases hline : '\n' ∈ text
  · simp [openingLines?, hline, newline?]
  · simp [openingLines?, hline, hbody hline]

theorem newline?_writeBasic {text : List Char} (h : '\n' ∉ text) (rest : List Char) :
    newline? (writeBasic true 0 text ++ basicMark :: rest) = none := by
  cases text with
  | nil => exact newline?_eq_none (by decide) (by decide) _
  | cons c text =>
    rw [writeBasic]
    split_ifs with hmark hlines
    · subst hmark
      exact newline?_eq_none (by decide) (by decide) _
    · exact newline?_eq_none (by decide) (by decide) _
    · rw [List.append_assoc]
      rcases escape_cases true c with ⟨hc, -, hprintable | ⟨-, rfl⟩⟩ | ⟨code, hc, -⟩
      · obtain ⟨hnewline, hreturn⟩ := ne_newline_of_isPrintable hprintable
        rw [hc]
        exact newline?_eq_none hnewline hreturn _
      · exact absurd List.mem_cons_self h
      · rw [hc]
        exact newline?_eq_none (by decide) (by decide) _

theorem newline?_literal {text : List Char}
    (hprintable : ∀ c ∈ text, isPrintable c = true ∨ c = '\n') (h : '\n' ∉ text)
    (rest : List Char) : newline? (text ++ literalMark :: rest) = none := by
  cases text with
  | nil => exact newline?_eq_none (by decide) (by decide) _
  | cons c text =>
    have hc := (hprintable c List.mem_cons_self).resolve_right
      (Ne.symm (List.ne_of_not_mem_cons h))
    obtain ⟨hnewline, hreturn⟩ := ne_newline_of_isPrintable hc
    exact newline?_eq_none hnewline hreturn _

theorem marks_writeBasic_false (text : List Char) {rest : List Char}
    (hrest : Unmarked basicMark rest) :
    marks basicMark (writeBasic false 0 text ++ basicMark :: rest) ≤ 1 := by
  unfold Unmarked at hrest
  cases text with
  | nil => exact Nat.le_of_eq (by rw [writeBasic, List.nil_append, marks_cons_self, hrest])
  | cons c text =>
    have hzero (code : List Char) : marks basicMark ('\\' :: code) ≤ 1 := by
      rw [marks_cons_of_ne (by decide)]
      exact Nat.zero_le 1
    rw [writeBasic]
    split_ifs with hmark hlines
    · exact hlines.1.elim
    · exact hzero _
    · rw [List.append_assoc]
      rcases escape_cases false c with ⟨hc, -⟩ | ⟨code, hc, -⟩
      · rw [hc, List.singleton_append, marks_cons_of_ne hmark]
        exact Nat.zero_le 1
      · rw [hc]
        exact hzero _

theorem marks_literal {text : List Char} (hmark : literalMark ∉ text) {rest : List Char}
    (hrest : Unmarked literalMark rest) : marks literalMark (text ++ literalMark :: rest) ≤ 1 := by
  unfold Unmarked at hrest
  cases text with
  | nil => exact Nat.le_of_eq (by rw [List.nil_append, marks_cons_self, hrest])
  | cons c text =>
    rw [List.cons_append, marks_cons_of_ne (Ne.symm (List.ne_of_not_mem_cons hmark))]
    exact Nat.zero_le 1

variable {text rest : List Char}

/-- Texts whose first character is a mark and is followed by at most one more are on one line. -/
theorem read?_one (mark : Char) {cs : List Char}
    (hmarks : ∀ other, marks other (mark :: cs) ≤ 2) :
    read? (mark :: cs) = if mark = basicMark then basic? cs
      else if mark = literalMark then literal? cs else none := by
  have hnone (other : Char) : openingLines? other (mark :: cs) = none :=
    openingLines?_eq_none (Nat.lt_succ_of_le (hmarks other))
  simp only [read?, hnone]

theorem marks_cons_le {mark : Char} {cs : List Char} (h : marks mark cs ≤ 1) (other : Char) :
    marks other (mark :: cs) ≤ 2 := by
  by_cases hother : mark = other
  · subst hother
    rw [marks_cons_self]
    exact Nat.succ_le_succ h
  · rw [marks_cons_of_ne hother]
    exact Nat.zero_le 2

theorem read?_basic (hbasic : Unmarked basicMark rest) :
    read? (writeAs text .basic ++ rest) = some (text, rest) := by
  have hmarks := marks_cons_le (marks_writeBasic_false text hbasic)
  have hcs : writeAs text .basic ++ rest =
      basicMark :: (writeBasic false 0 text ++ basicMark :: rest) := by
    simp [writeAs]
  rw [hcs, read?_one basicMark hmarks, if_pos rfl]
  exact basic?_writeBasic text 0 rest

theorem isPrintable_of_not_hasControl (h : hasControl text = false) :
    ∀ c ∈ text, isPrintable c = true ∨ c = '\n' := by
  intro c hc
  have hnot := List.any_eq_false.1 h c hc
  by_contra hneither
  obtain ⟨hprintable, hline⟩ := not_or.1 hneither
  exact hnot (by simp [hprintable, hline])

theorem read?_literal (hsuits : Form.literal.suits text = true)
    (hliteral : Unmarked literalMark rest) :
    read? (writeAs text .literal ++ rest) = some (text, rest) := by
  simp only [Form.suits, Bool.and_eq_true, Bool.not_eq_true', List.contains_eq_mem,
    decide_eq_false_iff_not] at hsuits
  obtain ⟨⟨hcontrol, hline⟩, hmark⟩ := hsuits
  have hprintable : ∀ c ∈ text, isPrintable c = true := fun c hc =>
    (isPrintable_of_not_hasControl hcontrol c hc).resolve_right (fun h => hline (h ▸ hc))
  have hmarks := marks_cons_le (marks_literal hmark hliteral)
  have hcs : writeAs text .literal ++ rest = literalMark :: (text ++ literalMark :: rest) := by
    simp [writeAs]
  rw [hcs, read?_one literalMark hmarks, if_neg (by decide), if_pos rfl]
  exact literal?_write hprintable hmark rest

theorem read?_basicLines (hbasic : Unmarked basicMark rest) :
    read? (writeAs text .basicLines ++ rest) = some (text, rest) := by
  have hcs : writeAs text .basicLines ++ rest = openLines basicMark text ++
      (writeBasic true 0 text ++ basicMark :: basicMark :: basicMark :: rest) := by
    simp [writeAs]
  have hopen := openingLines?_openLines basicMark fun hline : '\n' ∉ text =>
    newline?_writeBasic hline (basicMark :: basicMark :: rest)
  rw [hcs]
  simp only [read?, hopen]
  exact basicLines?_writeBasic hbasic text (Nat.zero_le 2)

theorem read?_literalLines (hsuits : Form.literalLines.suits text = true)
    (hliteral : Unmarked literalMark rest) :
    read? (writeAs text .literalLines ++ rest) = some (text, rest) := by
  simp only [Form.suits, Bool.and_eq_true, Bool.not_eq_true'] at hsuits
  obtain ⟨hcontrol, hrun⟩ := hsuits
  have hprintable := isPrintable_of_not_hasControl hcontrol
  have hcs : writeAs text .literalLines ++ rest = openLines literalMark text ++
      (text ++ literalMark :: literalMark :: literalMark :: rest) := by
    simp [writeAs]
  have hbasic : openingLines? basicMark (openLines literalMark text ++
      (text ++ literalMark :: literalMark :: literalMark :: rest)) = none :=
    openingLines?_eq_none (Nat.lt_of_le_of_lt (Nat.le_of_eq (marks_cons_of_ne (by decide) _))
      (by decide))
  have hopen := openingLines?_openLines literalMark fun hline : '\n' ∉ text =>
    newline?_literal hprintable hline (literalMark :: literalMark :: rest)
  rw [hcs]
  simp only [read?, hbasic, hopen]
  exact literalLines?_write hliteral hprintable hrun

theorem suits_ofText {form : Form} (h : Form.ofText text = form) :
    form.suits text = true ∨ form = .basic ∨ form = .basicLines := by
  unfold Form.ofText at h
  split at h
  · next hfind =>
    subst h
    exact Or.inl (List.find?_some (p := fun form : Form => form.suits text) hfind)
  · split_ifs at h
    · exact Or.inr (Or.inr h.symm)
    · exact Or.inr (Or.inl h.symm)

/-- A text between quotes is read back, if no quote follows it. -/
theorem read?_write (hbasic : Unmarked basicMark rest) (hliteral : Unmarked literalMark rest) :
    read? (write text ++ rest) = some (text, rest) := by
  unfold write
  cases hform : Form.ofText text with
  | basic => exact read?_basic hbasic
  | literal => exact read?_literal ((suits_ofText hform).resolve_right (by decide)) hliteral
  | basicLines => exact read?_basicLines hbasic
  | literalLines =>
    exact read?_literalLines ((suits_ofText hform).resolve_right (by decide)) hliteral

end LiquidityClient.Toml.Quoted
