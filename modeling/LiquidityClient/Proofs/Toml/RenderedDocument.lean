import LiquidityClient.Proofs.Toml.WrittenValue
import LiquidityClient.Toml.Document
import LiquidityClient.Toml.Printer

/-!
# Reading TOML documents back

The printer writes tables, each with its header and a line for each of its entries. `Yields` says
which statements the lines of a text give, and has one lemma for each kind of line that the printer
writes : an empty one, an entry (`yields_entry`) and a header (`yields_header`). By induction over
the entries and the tables the text of a document gives a header for each table and an entry for
each of its values (`yields_tables`). Where the names differ, none of them is refused by `put?` or
`define?`, and the statements make the tables that were written (`parse?_render`).
-/

namespace LiquidityClient.Toml

/-! ## Names -/

/-- May the name be written without quotes? -/
def IsBareName (name : String) : Prop :=
  (!name.toList.isEmpty && name.toList.all isBare) = true

instance (name : String) : Decidable (IsBareName name) :=
  inferInstanceAs (Decidable (_ = true))

theorem IsBareName.isBare {name : String} (h : IsBareName name) :
    ∀ c ∈ name.toList, isBare c = true :=
  List.all_eq_true.1 (Bool.and_eq_true_iff.1 h).2

theorem IsBareName.exists_eq_cons {name : String} (h : IsBareName name) :
    ∃ c cs, name.toList = c :: cs ∧ Toml.isBare c = true := by
  have hne : name.toList ≠ [] := by
    intro hnil
    rw [IsBareName, hnil] at h
    cases h
  obtain ⟨c, cs, hname⟩ := List.exists_cons_of_ne_nil hne
  exact ⟨c, cs, hname, h.isBare c (hname ▸ List.mem_cons_self)⟩

theorem ne_of_isBare {c d : Char} (hc : isBare c = true) (hd : isBare d = false) : c ≠ d := by
  rintro rfl
  exact absurd (hc.symm.trans hd) (by decide)

/-- May a line with a statement start with the character? It starts with a name or a bracket. -/
def StartsLine (c : Char) : Prop :=
  isBare c = true ∨ c = '['

theorem StartsLine.ne {c d : Char} (h : StartsLine c) (hd : isBare d = false)
    (hbracket : d ≠ '[') : c ≠ d := by
  rcases h with hc | rfl
  · exact ne_of_isBare hc hd
  · exact hbracket.symm

theorem StartsLine.not_isBlank {c : Char} (h : StartsLine c) : isBlank c = false := by
  rw [Bool.eq_false_iff]
  intro hblank
  rcases Bool.or_eq_true_iff.1 hblank with hspace | htab
  · exact h.ne (by decide) (by decide) (of_decide_eq_true hspace)
  · exact h.ne (by decide) (by decide) (of_decide_eq_true htab)

theorem simpleKey?_bare {name : String} (h : IsBareName name) {c : Char} (hc : isBare c = false)
    (rest : List Char) : simpleKey? (name.toList ++ c :: rest) = some (name, c :: rest) := by
  have hname : (name.toList ++ c :: rest).takeWhile isBare = name.toList := by
    rw [List.takeWhile_append_of_pos h.isBare, List.takeWhile_cons_of_neg (by simp [hc]),
      List.append_nil]
  have hrest : (name.toList ++ c :: rest).dropWhile isBare = c :: rest := by
    rw [List.dropWhile_append_of_pos h.isBare, List.dropWhile_cons_of_neg (by simp [hc])]
  obtain ⟨d, ds, hds, hd⟩ := h.exists_eq_cons
  have hbasic : d ≠ Quoted.basicMark := ne_of_isBare hd (by decide)
  have hliteral : d ≠ Quoted.literalMark := ne_of_isBare hd (by decide)
  rw [hds, List.cons_append] at hname hrest ⊢
  rw [simpleKey?, if_neg hbasic, if_neg hliteral, if_pos hd, hname, hrest, ← hds,
    String.ofList_toList]

theorem key?_bare {name : String} (h : IsBareName name) (count : Nat) {c d : Char}
    {rest more : List Char} (hc : isBare c = false)
    (hblank : (c :: rest).dropWhile isBlank = d :: more) (hd : d ≠ '.') :
    key? (count + 1) (name.toList ++ c :: rest) = some ([name], d :: more) := by
  have hfirst : (name.toList ++ c :: rest).dropWhile isBlank = name.toList ++ c :: rest := by
    obtain ⟨e, es, hes, he⟩ := h.exists_eq_cons
    have hblank : isBlank e = false := StartsLine.not_isBlank (Or.inl he)
    rw [hes, List.cons_append, List.dropWhile_cons_of_neg (by simp [hblank])]
  unfold key?
  rw [hfirst, simpleKey?_bare h hc]
  dsimp only
  rw [hblank]
  split
  · next hpoint => exact absurd (List.cons.inj hpoint).1 hd
  · rfl

/-! ## Lines -/

/-- The entry that a written line gives. -/
def toEntry (entry : String × Atom) : Entry :=
  ([entry.1], entry.2.toValue)

theorem Atom.exists_write_eq_cons (atom : Atom) :
    ∃ c cs, atom.write = c :: cs ∧ isBlank c = false := by
  cases atom with
  | text content =>
    obtain ⟨c, cs, hcs, hc⟩ := Quoted.exists_write_eq_cons content.toList
    refine ⟨c, cs, hcs, ?_⟩
    rcases hc with rfl | rfl <;> decide
  | integer n =>
    obtain ⟨c, cs, hcs, hc⟩ := Scan.exists_ofInt_eq_cons n.toInt
    refine ⟨c, cs, hcs, ?_⟩
    rw [Bool.eq_false_iff]
    intro hblank
    rcases Bool.or_eq_true_iff.1 hblank with hspace | htab
    · exact absurd ((of_decide_eq_true hspace) ▸ hc) (by decide)
    · exact absurd ((of_decide_eq_true htab) ▸ hc) (by decide)

theorem writeEntry_append (entry : String × Atom) (rest : List Char) :
    writeEntry entry ++ rest =
      entry.1.toList ++ ' ' :: '=' :: ' ' :: (entry.2.write ++ '\n' :: rest) := by
  simp [writeEntry]

theorem assignment?_writeEntry (depth : Nat) {entry : String × Atom} (h : IsBareName entry.1)
    (rest : List Char) :
    assignment? (value? depth) (writeEntry entry ++ rest) =
      some (toEntry entry, '\n' :: rest) := by
  obtain ⟨c, cs, hcs, hc⟩ := entry.2.exists_write_eq_cons
  have hvalue : (' ' :: (entry.2.write ++ '\n' :: rest)).dropWhile isBlank =
      entry.2.write ++ '\n' :: rest := by
    rw [List.dropWhile_cons_of_pos (by decide), hcs, List.cons_append,
      List.dropWhile_cons_of_neg (by simp [hc])]
  have hkey : key? depthLimit
      (entry.1.toList ++ ' ' :: '=' :: ' ' :: (entry.2.write ++ '\n' :: rest)) =
        some ([entry.1], '=' :: ' ' :: (entry.2.write ++ '\n' :: rest)) :=
    key?_bare h 78 (by decide) rfl (by decide)
  rw [writeEntry_append, assignment?, hkey]
  simp only [hvalue, value?_write, Option.map_some, toEntry]

theorem statement?_writeEntry {entry : String × Atom} (h : IsBareName entry.1)
    (rest : List Char) :
    statement? (writeEntry entry ++ rest) = some (.entry (toEntry entry), '\n' :: rest) := by
  have hassignment := assignment?_writeEntry depthLimit h rest
  obtain ⟨c, cs, hcs, hc⟩ := h.exists_eq_cons
  have hbracket : c ≠ '[' := ne_of_isBare hc (by decide)
  rw [writeEntry_append, hcs, List.cons_append] at hassignment ⊢
  unfold statement?
  split
  · next hfirst => exact absurd (List.cons.inj hfirst).1 hbracket
  · next hfirst => exact absurd (List.cons.inj hfirst).1 hbracket
  · rw [hassignment, Option.map_some]

theorem statement?_header {name : String} (h : IsBareName name) (rest : List Char) :
    statement? ('[' :: (name.toList ++ ']' :: '\n' :: rest)) =
      some (.header ⟨[name], false⟩, '\n' :: rest) := by
  have hkey : key? depthLimit (name.toList ++ ']' :: '\n' :: rest) =
      some ([name], ']' :: '\n' :: rest) :=
    key?_bare h 78 (by decide) rfl (by decide)
  obtain ⟨c, cs, hcs, hc⟩ := h.exists_eq_cons
  have hbracket : c ≠ '[' := ne_of_isBare hc (by decide)
  unfold statement?
  split
  · next hfirst =>
    rw [hcs] at hfirst
    exact absurd (List.cons.inj (List.cons.inj hfirst).2).1 hbracket
  · next hfirst =>
    obtain ⟨-, rfl⟩ := List.cons.inj hfirst
    simp only [hkey]
  · next hfirst => exact absurd rfl (hfirst _)

/-- The lines of the text give these statements, for any fuel that is more than its length. -/
def Yields (cs : List Char) (statements : List Statement) : Prop :=
  ∀ fuel, cs.length < fuel → statements? fuel cs = some statements

theorem yields_nil : Yields [] [] := by
  intro fuel hfuel
  obtain ⟨fuel, rfl⟩ := Nat.exists_eq_add_of_lt hfuel
  rfl

theorem yields_emptyLine {rest : List Char} {statements : List Statement}
    (h : Yields rest statements) : Yields ('\n' :: rest) statements := by
  intro fuel hfuel
  obtain ⟨fuel, rfl⟩ := Nat.exists_eq_add_of_lt (Nat.zero_lt_of_lt hfuel)
  rw [List.length_cons] at hfuel
  exact h _ (by omega)

/-- A line that starts like one with a statement is neither empty nor a comment. -/
theorem StartsLine.endLine?_eq_none {c : Char} (hc : StartsLine c) (cs : List Char) :
    endLine? (c :: cs) = none := by
  have hhash : c ≠ '#' := hc.ne (by decide) (by decide)
  have hnewline : newline? (c :: cs) = none := by
    unfold newline?
    split
    · next h => exact absurd (List.cons.inj h).1 (hc.ne (by decide) (by decide))
    · next h => exact absurd (List.cons.inj h).1 (hc.ne (by decide) (by decide))
    · rfl
  simp [endLine?, hc.not_isBlank, hhash, hnewline]

/-- Behind a line with a statement the statements of the rest follow. -/
theorem yields_line {c : Char} {cs rest : List Char} {statement : Statement}
    {statements : List Statement} (hc : StartsLine c) (hlength : rest.length ≤ cs.length)
    (hstatement : statement? (c :: cs) = some (statement, '\n' :: rest))
    (h : Yields rest statements) : Yields (c :: cs) (statement :: statements) := by
  intro fuel hfuel
  obtain ⟨fuel, rfl⟩ := Nat.exists_eq_add_of_lt (Nat.zero_lt_of_lt hfuel)
  rw [List.length_cons] at hfuel
  have hline : endLine? ('\n' :: rest) = some rest := rfl
  have hrest : statements? fuel rest = some statements := h fuel (by omega)
  simp [statements?, hc.not_isBlank, hc.endLine?_eq_none, hstatement, hline, hrest]

theorem yields_entry {entry : String × Atom} (hname : IsBareName entry.1) {rest : List Char}
    {statements : List Statement} (h : Yields rest statements) :
    Yields (writeEntry entry ++ rest) (.entry (toEntry entry) :: statements) := by
  have hstatement := statement?_writeEntry hname rest
  obtain ⟨c, cs, hcs, hc⟩ := hname.exists_eq_cons
  rw [writeEntry_append, hcs, List.cons_append] at hstatement ⊢
  refine yields_line (Or.inl hc) ?_ hstatement h
  simp only [List.length_append, List.length_cons]
  omega

theorem yields_header {name : String} (hname : IsBareName name) {rest : List Char}
    {statements : List Statement} (h : Yields rest statements) :
    Yields ('[' :: (name.toList ++ ']' :: '\n' :: rest))
      (.header ⟨[name], false⟩ :: statements) := by
  refine yields_line (Or.inr rfl) ?_ (statement?_header hname rest) h
  simp only [List.length_append, List.length_cons]
  omega

theorem yields_entries {entries : List (String × Atom)}
    (hnames : ∀ entry ∈ entries, IsBareName entry.1) {rest : List Char}
    {statements : List Statement} (h : Yields rest statements) :
    Yields (entries.flatMap writeEntry ++ rest)
      (entries.map (fun entry => .entry (toEntry entry)) ++ statements) := by
  induction entries with
  | nil => exact h
  | cons entry entries ih =>
    obtain ⟨hname, hnames⟩ := List.forall_mem_cons.1 hnames
    rw [List.flatMap_cons, List.append_assoc]
    exact yields_entry hname (ih hnames)

/-! ## Documents -/

/-- A table that is written : its name and its entries. -/
abbrev WrittenTable := String × List (String × Atom)

/-- Every name is bare and names no other table, and so are the names in each table. -/
structure Renderable (tables : List WrittenTable) : Prop where
  isBareName : ∀ table ∈ tables, IsBareName table.1
  nodup : (tables.map Prod.fst).Nodup
  isBareName_entry : ∀ table ∈ tables, ∀ entry ∈ table.2, IsBareName entry.1
  nodup_entries : ∀ table ∈ tables, (table.2.map Prod.fst).Nodup

theorem Renderable.tail {table : WrittenTable} {tables : List WrittenTable}
    (h : Renderable (table :: tables)) : Renderable tables where
  isBareName := (List.forall_mem_cons.1 h.isBareName).2
  nodup := (List.nodup_cons.1 h.nodup).2
  isBareName_entry := (List.forall_mem_cons.1 h.isBareName_entry).2
  nodup_entries := (List.forall_mem_cons.1 h.nodup_entries).2

/-- The statements of a written table. -/
def statementsOf (table : WrittenTable) : List Statement :=
  .header ⟨[table.1], false⟩ :: table.2.map fun entry => .entry (toEntry entry)

theorem yields_table {table : WrittenTable} (hname : IsBareName table.1)
    (hnames : ∀ entry ∈ table.2, IsBareName entry.1) {rest : List Char}
    {statements : List Statement} (h : Yields rest statements) :
    Yields (writeTable table ++ rest) (statementsOf table ++ statements) := by
  have happend : writeTable table ++ rest =
      '[' :: (table.1.toList ++ ']' :: '\n' :: (table.2.flatMap writeEntry ++ rest)) := by
    simp [writeTable]
  rw [happend]
  exact yields_header hname (yields_entries hnames h)

theorem yields_tables {tables : List WrittenTable} (h : Renderable tables) :
    Yields (List.intercalate ['\n'] (tables.map writeTable)) (tables.flatMap statementsOf) := by
  induction tables with
  | nil => exact yields_nil
  | cons table tables ih =>
    have hname : IsBareName table.1 := (List.forall_mem_cons.1 h.isBareName).1
    have hnames := (List.forall_mem_cons.1 h.isBareName_entry).1
    cases tables with
    | nil =>
      have := yields_table hname hnames yields_nil
      simpa [List.intercalate] using this
    | cons next tables =>
      have := yields_table hname hnames (yields_emptyLine (ih h.tail))
      simpa [List.intercalate] using this

/-! ## Tables -/

/-- The tables of a document as one table. -/
def tableOf (tables : List WrittenTable) : Table :=
  tables.map fun table =>
    (table.1, .table (table.2.map fun entry => (entry.1, entry.2.toValue)))

theorem sections_entries (entries : List (String × Atom)) (statements : List Statement) :
    sections (entries.map (fun entry => .entry (toEntry entry)) ++ statements) =
      (entries.map toEntry ++ (sections statements).1, (sections statements).2) := by
  induction entries with
  | nil => rfl
  | cons entry entries ih => rw [List.map_cons, List.cons_append, sections, ih]; rfl

theorem sections_tables (tables : List WrittenTable) :
    sections (tables.flatMap statementsOf) =
      ([], tables.map fun table => (⟨[table.1], false⟩, table.2.map toEntry)) := by
  induction tables with
  | nil => rfl
  | cons table tables ih =>
    rw [List.flatMap_cons, statementsOf, List.cons_append, sections, sections_entries, ih]
    simp

theorem lookup_eq_none_of_notMem {α : Type} {name : String} {entries : List (String × α)}
    (h : name ∉ entries.map Prod.fst) : entries.lookup name = none := by
  rw [List.lookup_eq_none_iff]
  rintro entry hentry
  rw [bne_iff_ne]
  rintro rfl
  exact h (List.mem_map_of_mem hentry)

theorem notMem_of_nodup_append {name : String} {front names : List String}
    (h : (front ++ name :: names).Nodup) : name ∉ front :=
  fun hmem => (List.nodup_append.1 h).2.2 _ hmem _ List.mem_cons_self rfl

/-- Entries with new names are put at the end. -/
theorem putAll?_entries {entries : List (String × Atom)} {draft : Draft}
    (h : (draft.map Prod.fst ++ entries.map Prod.fst).Nodup) :
    Draft.putAll? draft (entries.map toEntry) =
      some (draft ++ entries.map fun entry => (entry.1, .value entry.2.toValue)) := by
  unfold Draft.putAll?
  induction entries generalizing draft with
  | nil => simp
  | cons entry entries ih =>
    have hput : Draft.put? entry.1 entry.2.toValue [] draft =
        some (draft ++ [(entry.1, .value entry.2.toValue)]) := by
      rw [Draft.put?, lookup_eq_none_of_notMem (notMem_of_nodup_append h)]
    have hrest := @ih (draft ++ [(entry.1, .value entry.2.toValue)]) (by simpa using h)
    rw [List.map_cons, List.foldlM_cons]
    calc (Draft.put? entry.1 entry.2.toValue [] draft).bind _
        = _ := by rw [hput, Option.bind_some, hrest]
      _ = _ := by simp

theorem finishEntries_eq_map (draft : Draft) :
    finishEntries draft = draft.map fun entry => (entry.1, entry.2.finish) := by
  induction draft with
  | nil => rw [finishEntries, List.map_nil]
  | cons entry draft ih => rw [finishEntries, ih, List.map_cons]

/-- The node of a table that is written under its own header. -/
def nodeOf (table : WrittenTable) : String × Node :=
  (table.1, .table .header (table.2.map fun entry => (entry.1, .value entry.2.toValue)))

theorem finishEntries_nodes (tables : List WrittenTable) :
    finishEntries (tables.map nodeOf) = tableOf tables := by
  simp [finishEntries_eq_map, tableOf, nodeOf, Node.finish, Function.comp_def]

/-- Headers with new names define their tables at the end. -/
theorem define?_tables {tables : List WrittenTable} (h : Renderable tables) (draft : Draft)
    (hnew : (draft.map Prod.fst ++ tables.map Prod.fst).Nodup) :
    (tables.map fun table => ((⟨[table.1], false⟩ : Header), table.2.map toEntry)).foldlM
        (fun (draft : Draft) (header, entries) =>
          draft.define? header.repeated (header.path.getLast?.getD "") entries
            header.path.dropLast) draft =
      some (draft ++ tables.map nodeOf) := by
  induction tables generalizing draft with
  | nil => simp
  | cons table tables ih =>
    have hbody : Draft.putAll? [] (table.2.map toEntry) =
        some ([] ++ table.2.map fun entry => (entry.1, .value entry.2.toValue)) :=
      putAll?_entries (List.forall_mem_cons.1 h.nodup_entries).1
    have hdefine : draft.define? false table.1 (table.2.map toEntry) [] =
        some (draft ++ [nodeOf table]) := by
      rw [Draft.define?, hbody]
      · rfl
      · exact lookup_eq_none_of_notMem (notMem_of_nodup_append hnew)
    have hrest := ih h.tail (draft ++ [nodeOf table]) (by simpa [nodeOf] using hnew)
    rw [List.map_cons, List.foldlM_cons]
    calc (draft.define? false table.1 (table.2.map toEntry) []).bind _
        = _ := by rw [hdefine, Option.bind_some, hrest]
      _ = _ := by simp

theorem assemble?_tables {tables : List WrittenTable} (h : Renderable tables) :
    assemble? (tables.flatMap statementsOf) = some (tableOf tables) := by
  have hdefine := define?_tables h [] h.nodup
  rw [List.nil_append] at hdefine
  unfold assemble?
  rw [sections_tables]
  simp [Draft.putAll?, hdefine, finishEntries_nodes]

/-- The text of a document starts with a bracket, if it is not empty. -/
theorem eq_bracket_of_intercalate {tables : List WrittenTable} {c : Char} {cs : List Char}
    (h : List.intercalate ['\n'] (tables.map writeTable) = c :: cs) : c = '[' := by
  rcases tables with _ | ⟨table, _ | ⟨next, tables⟩⟩
  · cases h
  · exact (List.cons.inj h).1.symm
  · exact (List.cons.inj h).1.symm

/-- Tables that are written are read back. -/
theorem parse?_render {tables : List WrittenTable} (h : Renderable tables) :
    parse? (render tables) = some (tableOf tables) := by
  have hstatements := yields_tables h _ (Nat.lt_succ_self _)
  have hmark : ∀ cs, List.intercalate ['\n'] (tables.map writeTable) = '\ufeff' :: cs → False :=
    fun cs hcs => absurd (eq_bracket_of_intercalate hcs) (by decide)
  simp only [parse?, render, String.toList_ofList]
  -- `hmark` rules out the branch that drops a mark in front of the text
  generalize List.intercalate ['\n'] (tables.map writeTable) = cs at *
  simp only [hstatements, assemble?_tables h]

end LiquidityClient.Toml
