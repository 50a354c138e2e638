import LiquidityClient.Proofs.TransactionSize

/-!
# Reading transactions

`Transaction.read?` reads a transaction from its bytes, by the format of BIP 144 : in the place of
the inputs a list of no inputs marks the form with witnesses, a flag and the inputs follow, and
behind the outputs stands a list of witness elements for each input. Sizes are accepted in their
shortest form only, and nothing may be left over.

A reader takes bytes for a value (`ByteReader.Reads`) if it does so whatever stands behind them, so
that readers in sequence take the bytes of both (`ByteReader.Reads.bind`); and it takes nothing but
the bytes of some values (`ByteReader.OnlyReads`). Put together, bytes are read as a transaction
exactly if they are its bytes, and all its sizes have 64 bits (`Transaction.read?_eq_some_iff`).
-/

namespace LiquidityClient

/-- What reads a value off the front of bytes, if they spell one, and leaves the others. -/
abbrev ByteReader := StateT Bytes Option

namespace ByteReader

variable {α β : Type}

/-- The reader takes the bytes for the value, and leaves what stands behind them. -/
def Reads (reader : ByteReader α) (bytes : Bytes) (a : α) : Prop :=
  ∀ rest, reader.run (bytes ++ rest) = some (a, rest)

theorem reads_pure (a : α) : Reads (pure a) [] a :=
  fun _ => rfl

theorem Reads.bind {reader : ByteReader α} {next : α → ByteReader β} {bytes bytes' : Bytes} {a : α}
    {b : β} (h : reader.Reads bytes a) (hnext : (next a).Reads bytes' b) :
    (reader >>= next).Reads (bytes ++ bytes') b := by
  intro rest
  rw [StateT.run_bind, List.append_assoc, h (bytes' ++ rest)]
  exact hnext rest

/-- A reader that has its result once the first part is read. -/
theorem Reads.bind_eq_pure {reader : ByteReader α} {next : α → ByteReader β} {bytes : Bytes} {a : α}
    {b : β} (h : reader.Reads bytes a) (hnext : next a = pure b) :
    (reader >>= next).Reads bytes b := by
  have hread := h.bind (hnext ▸ reads_pure b)
  rwa [List.append_nil] at hread

/-- The reader takes nothing but the bytes of values that satisfy a condition. -/
def OnlyReads (reader : ByteReader α) (encode : α → Bytes) (good : α → Prop) : Prop :=
  ∀ {bytes a rest}, reader.run bytes = some (a, rest) → good a ∧ bytes = encode a ++ rest

theorem run_bind_eq_some_iff {reader : ByteReader α} {next : α → ByteReader β} {bytes rest : Bytes}
    {b : β} : (reader >>= next).run bytes = some (b, rest) ↔
      ∃ a left, reader.run bytes = some (a, left) ∧ (next a).run left = some (b, rest) := by
  rw [StateT.run_bind]
  simp only [Option.bind_eq_bind, Option.bind_eq_some_iff, Prod.exists]

theorem run_pure_eq_some_iff {a b : α} {bytes rest : Bytes} :
    (pure a : ByteReader α).run bytes = some (b, rest) ↔ a = b ∧ bytes = rest := by
  rw [StateT.run_pure]
  exact Option.some_inj.trans Prod.mk_inj

/-! ## Numbers and byte strings -/

/-- Reads the next bytes. -/
def take (count : Nat) : ByteReader Bytes := fun bytes =>
  if count ≤ bytes.length then some (bytes.take count, bytes.drop count) else none

/-- Reads a number of that many bytes. -/
def number (width : Nat) : ByteReader Nat := do
  return Bytes.toNatLE (← take width)

/-- Reads a number of that many bytes, which must not be less than the least one. -/
def numberFrom (width least : Nat) : ByteReader Nat := do
  let n ← number width
  if least ≤ n then return n else failure

/-- Reads a size in its shortest form. -/
def size : ByteReader Nat := do
  let first ← number 1
  if first < 0xfd then return first
  else if first = 0xfd then numberFrom 2 0xfd
  else if first = 0xfe then numberFrom 4 UInt16.size
  else numberFrom 8 UInt32.size

/-- Reads a byte string behind its length. -/
def sizedBytes : ByteReader Bytes := do
  take (← size)

theorem reads_take (bytes : Bytes) : (take bytes.length).Reads bytes bytes := by
  intro rest
  simp [take, StateT.run]

theorem reads_number {width n : Nat} (h : n < 1 <<< (8 * width)) :
    (number width).Reads (Bytes.ofNatLE width n) n := by
  have htake := reads_take (Bytes.ofNatLE width n)
  rw [Bytes.length_ofNatLE] at htake
  exact htake.bind_eq_pure (by rw [Bytes.toNatLE_ofNatLE h])

theorem reads_numberFrom {width least n : Nat} (hleast : least ≤ n) (h : n < 1 <<< (8 * width)) :
    (numberFrom width least).Reads (Bytes.ofNatLE width n) n :=
  (reads_number h).bind_eq_pure (if_pos hleast)

/-- A byte is the number of one byte. -/
theorem reads_byte (byte : UInt8) : (number 1).Reads [byte] byte.toNat := by
  have hread : (number 1).Reads (Bytes.ofNatLE 1 byte.toNat) byte.toNat :=
    reads_number byte.toNat_lt
  simpa [Bytes.ofNatLE] using hread

theorem reads_size {n : Nat} (h : n < UInt64.size) : size.Reads (compactSize n) n := by
  unfold compactSize
  split_ifs with hone htwo hfour
  · have hbyte : (UInt8.ofNat n).toNat = n :=
      UInt8.toNat_ofNat_of_lt' (Nat.lt_trans hone (by decide))
    exact (reads_byte (UInt8.ofNat n)).bind_eq_pure (by rw [hbyte, if_pos hone])
  · exact (reads_byte 0xfd).bind (reads_numberFrom (Nat.le_of_not_lt hone) htwo)
  · exact (reads_byte 0xfe).bind (reads_numberFrom (Nat.le_of_not_lt htwo) hfour)
  · exact (reads_byte 0xff).bind (reads_numberFrom (Nat.le_of_not_lt hfour) h)

theorem reads_sizedBytes {bytes : Bytes} (h : bytes.length < UInt64.size) :
    sizedBytes.Reads (sized bytes) bytes :=
  (reads_size h).bind (reads_take bytes)

theorem of_run_take {count : Nat} {bytes a rest : Bytes}
    (h : (take count).run bytes = some (a, rest)) : a.length = count ∧ bytes = a ++ rest := by
  unfold take at h
  dsimp only [StateT.run] at h
  split_ifs at h with hcount
  cases h
  exact ⟨List.length_take_of_le hcount, (List.take_append_drop _ _).symm⟩

theorem onlyReads_number (width : Nat) :
    (number width).OnlyReads (Bytes.ofNatLE width) (· < 1 <<< (8 * width)) := by
  intro bytes n rest h
  obtain ⟨digits, left, htake, hn⟩ := run_bind_eq_some_iff.1 h
  obtain ⟨rfl, rfl⟩ := run_pure_eq_some_iff.1 hn
  obtain ⟨rfl, rfl⟩ := of_run_take htake
  exact ⟨digits.toNatLE_lt, by rw [Bytes.ofNatLE_toNatLE]⟩

theorem onlyReads_numberFrom (width least : Nat) :
    (numberFrom width least).OnlyReads (Bytes.ofNatLE width)
      fun n => least ≤ n ∧ n < 1 <<< (8 * width) := by
  intro bytes n rest h
  obtain ⟨m, left, hnumber, hn⟩ := run_bind_eq_some_iff.1 h
  obtain ⟨hlt, rfl⟩ := onlyReads_number width hnumber
  split_ifs at hn with hleast
  · obtain ⟨rfl, rfl⟩ := run_pure_eq_some_iff.1 hn
    exact ⟨⟨hleast, hlt⟩, rfl⟩
  · cases hn

theorem onlyReads_size : size.OnlyReads compactSize (· < UInt64.size) := by
  intro bytes n rest h
  obtain ⟨first, left, hfirst, hrest⟩ := run_bind_eq_some_iff.1 h
  obtain ⟨hbyte, rfl⟩ := onlyReads_number 1 hfirst
  split_ifs at hrest with hone htwo hfour
  · obtain ⟨rfl, rfl⟩ := run_pure_eq_some_iff.1 hrest
    refine ⟨Nat.lt_trans hone (by decide), ?_⟩
    rw [compactSize, if_pos hone]
    rfl
  · obtain ⟨⟨hleast, hlt⟩, rfl⟩ := onlyReads_numberFrom 2 0xfd hrest
    refine ⟨Nat.lt_trans hlt (by decide), ?_⟩
    rw [compactSize, if_neg (Nat.not_lt_of_le hleast), if_pos (show n < UInt16.size from hlt), htwo]
    rfl
  · obtain ⟨⟨hleast, hlt⟩, rfl⟩ := onlyReads_numberFrom 4 UInt16.size hrest
    refine ⟨Nat.lt_trans hlt (by decide), ?_⟩
    rw [compactSize, if_neg (Nat.not_lt_of_le (Nat.le_trans (by decide) hleast)),
      if_neg (Nat.not_lt_of_le hleast), if_pos (show n < UInt32.size from hlt), hfour]
    rfl
  · obtain ⟨⟨hleast, hlt⟩, rfl⟩ := onlyReads_numberFrom 8 UInt32.size hrest
    have hmark : first = 0xff := by
      have : first < 256 := hbyte
      omega
    refine ⟨hlt, ?_⟩
    rw [compactSize, if_neg (Nat.not_lt_of_le (Nat.le_trans (by decide) hleast)),
      if_neg (Nat.not_lt_of_le (Nat.le_trans (by decide) hleast)),
      if_neg (Nat.not_lt_of_le hleast), hmark]
    rfl

theorem onlyReads_sizedBytes : sizedBytes.OnlyReads sized (·.length < UInt64.size) := by
  intro bytes a rest h
  obtain ⟨count, left, hsize, htake⟩ := run_bind_eq_some_iff.1 h
  obtain ⟨hlt, rfl⟩ := onlyReads_size hsize
  obtain ⟨rfl, rfl⟩ := of_run_take htake
  exact ⟨hlt, by rw [sized, List.append_assoc]⟩

/-! ## Lists -/

/-- Reads as many values as the number says. -/
def many (reader : ByteReader α) : Nat → ByteReader (List α)
  | 0 => pure []
  | count + 1 => do
    let a ← reader
    return a :: (← many reader count)

/-- Reads a list behind its length. -/
def list (reader : ByteReader α) : ByteReader (List α) := do
  many reader (← size)

/-- What is read of each value stands in the place of the value. -/
theorem reads_many {reader : ByteReader α} {encode : β → Bytes} {value : β → α} {bs : List β}
    (h : ∀ b ∈ bs, reader.Reads (encode b) (value b)) :
    (many reader bs.length).Reads (bs.flatMap encode) (bs.map value) := by
  induction bs with
  | nil => exact reads_pure []
  | cons b bs ih =>
    obtain ⟨hb, hbs⟩ := List.forall_mem_cons.1 h
    exact hb.bind ((ih hbs).bind_eq_pure rfl)

theorem reads_list {reader : ByteReader α} {encode : β → Bytes} {value : β → α} {bs : List β}
    (hlength : bs.length < UInt64.size) (h : ∀ b ∈ bs, reader.Reads (encode b) (value b)) :
    (list reader).Reads (compactSize bs.length ++ bs.flatMap encode) (bs.map value) :=
  (reads_size hlength).bind (reads_many h)

/-- A list of values each of which is read back. -/
theorem reads_list_self {reader : ByteReader α} {encode : α → Bytes} {as : List α}
    (hlength : as.length < UInt64.size) (h : ∀ a ∈ as, reader.Reads (encode a) a) :
    (list reader).Reads (compactSize as.length ++ as.flatMap encode) as := by
  have hlist := reads_list hlength h
  rwa [List.map_id'] at hlist

theorem of_run_many {reader : ByteReader α} {encode : α → Bytes} {good : α → Prop}
    (h : reader.OnlyReads encode good) {count : Nat} {bytes rest : Bytes} {as : List α}
    (hrun : (many reader count).run bytes = some (as, rest)) :
    as.length = count ∧ (∀ a ∈ as, good a) ∧ bytes = as.flatMap encode ++ rest := by
  induction count generalizing bytes as with
  | zero =>
    obtain ⟨rfl, rfl⟩ := run_pure_eq_some_iff.1 hrun
    exact ⟨rfl, nofun, rfl⟩
  | succ count ih =>
    obtain ⟨a, left, hfirst, hrun⟩ := run_bind_eq_some_iff.1 hrun
    obtain ⟨others, left', hothers, hrun⟩ := run_bind_eq_some_iff.1 hrun
    obtain ⟨rfl, rfl⟩ := run_pure_eq_some_iff.1 hrun
    obtain ⟨hgood, rfl⟩ := h hfirst
    obtain ⟨rfl, hall, rfl⟩ := ih hothers
    exact ⟨rfl, List.forall_mem_cons.2 ⟨hgood, hall⟩, by simp⟩

theorem onlyReads_list {reader : ByteReader α} {encode : α → Bytes} {good : α → Prop}
    (h : reader.OnlyReads encode good) :
    (list reader).OnlyReads (fun as => compactSize as.length ++ as.flatMap encode)
      fun as => as.length < UInt64.size ∧ ∀ a ∈ as, good a := by
  intro bytes as rest hrun
  obtain ⟨count, left, hsize, hmany⟩ := run_bind_eq_some_iff.1 hrun
  obtain ⟨hlt, rfl⟩ := onlyReads_size hsize
  obtain ⟨rfl, hall, rfl⟩ := of_run_many h hmany
  exact ⟨⟨hlt, hall⟩, by simp⟩

end ByteReader

open ByteReader

/-! ## Parts of a transaction -/

/-- Reads an input without its witness. -/
def TxIn.reader : ByteReader TxIn := do
  let txid ← take 32
  let index ← number 4
  let signatureScript ← sizedBytes
  let sequence ← number 4
  return ⟨⟨txid, UInt32.ofNat index⟩, signatureScript, UInt32.ofNat sequence, []⟩

/-- Reads an output. -/
def TxOut.reader : ByteReader TxOut := do
  let valueSat ← number 8
  let script ← sizedBytes
  return ⟨UInt64.ofNat valueSat, script⟩

/-- Reads the witnesses of inputs, which are there without them. -/
def TxIn.witnessReader : List TxIn → ByteReader (List TxIn)
  | [] => pure []
  | input :: inputs => do
    let witness ← list sizedBytes
    return { input with witness } :: (← witnessReader inputs)

/-- The id has 32 bytes, and all sizes have 64 bits. -/
structure TxIn.Sizable (input : TxIn) : Prop where
  length_txid : input.previous.txid.length = 32
  signatureScript_lt : input.signatureScript.length < UInt64.size
  witness_lt : input.witness.length < UInt64.size
  element_lt : ∀ element ∈ input.witness, element.length < UInt64.size

theorem TxIn.Sizable.reads {input : TxIn} (h : input.Sizable) :
    TxIn.reader.Reads input.encode input.unsigned := by
  have htxid := reads_take input.previous.txid
  rw [h.length_txid] at htxid
  have hbytes : input.encode = input.previous.txid ++ (Bytes.ofNatLE 4 input.previous.index.toNat ++
      (sized input.signatureScript ++ Bytes.ofNatLE 4 input.sequence.toNat)) := by
    simp [encode, OutPoint.encode]
  rw [hbytes]
  refine htxid.bind (.bind (reads_number (UInt32.toNat_lt _))
    (.bind (reads_sizedBytes h.signatureScript_lt)
      (.bind_eq_pure (reads_number (UInt32.toNat_lt _)) ?_)))
  rw [UInt32.ofNat_toNat, UInt32.ofNat_toNat, TxIn.unsigned]

theorem TxIn.onlyReads :
    TxIn.reader.OnlyReads TxIn.encode fun input => input.Sizable ∧ input.witness = [] := by
  intro bytes input rest h
  obtain ⟨txid, left, htxid, h⟩ := run_bind_eq_some_iff.1 h
  obtain ⟨index, left, hindex, h⟩ := run_bind_eq_some_iff.1 h
  obtain ⟨script, left, hscript, h⟩ := run_bind_eq_some_iff.1 h
  obtain ⟨sequence, left, hsequence, h⟩ := run_bind_eq_some_iff.1 h
  obtain ⟨rfl, rfl⟩ := run_pure_eq_some_iff.1 h
  obtain ⟨hlength, rfl⟩ := of_run_take htxid
  obtain ⟨hindexlt, rfl⟩ := onlyReads_number 4 hindex
  obtain ⟨hscriptlt, rfl⟩ := onlyReads_sizedBytes hscript
  obtain ⟨hsequencelt, rfl⟩ := onlyReads_number 4 hsequence
  refine ⟨⟨⟨hlength, hscriptlt, Nat.two_pow_pos 64, nofun⟩, rfl⟩, ?_⟩
  simp [encode, OutPoint.encode, UInt32.toNat_ofNat_of_lt' hindexlt,
    UInt32.toNat_ofNat_of_lt' hsequencelt]

theorem TxOut.onlyReads :
    TxOut.reader.OnlyReads TxOut.encode fun output => output.script.length < UInt64.size := by
  intro bytes output rest h
  obtain ⟨value, left, hvalue, h⟩ := run_bind_eq_some_iff.1 h
  obtain ⟨script, left, hscript, h⟩ := run_bind_eq_some_iff.1 h
  obtain ⟨rfl, rfl⟩ := run_pure_eq_some_iff.1 h
  obtain ⟨hvaluelt, rfl⟩ := onlyReads_number 8 hvalue
  obtain ⟨hscriptlt, rfl⟩ := onlyReads_sizedBytes hscript
  exact ⟨hscriptlt, by simp [encode, UInt64.toNat_ofNat_of_lt' hvaluelt]⟩

theorem TxOut.reads {output : TxOut} (h : output.script.length < UInt64.size) :
    TxOut.reader.Reads output.encode output := by
  refine .bind (reads_number (UInt64.toNat_lt _)) (.bind_eq_pure (reads_sizedBytes h) ?_)
  rw [UInt64.ofNat_toNat]

/-- Witnesses are read back where their inputs are there without them. -/
theorem TxIn.reads_witnesses {inputs : List TxIn} (h : ∀ input ∈ inputs, input.Sizable) :
    (TxIn.witnessReader (inputs.map TxIn.unsigned)).Reads (inputs.flatMap TxIn.encodeWitness)
      inputs := by
  induction inputs with
  | nil => exact reads_pure []
  | cons input inputs ih =>
    obtain ⟨hinput, hinputs⟩ := List.forall_mem_cons.1 h
    have hwitness : (list sizedBytes).Reads input.encodeWitness input.witness :=
      reads_list_self hinput.witness_lt fun element helement =>
        reads_sizedBytes (hinput.element_lt element helement)
    exact hwitness.bind ((ih hinputs).bind_eq_pure rfl)

/-- Witnesses are put to the inputs that are there, and nothing else is taken. -/
theorem TxIn.of_run_witnessReader {bare inputs : List TxIn} {bytes rest : Bytes}
    (hbare : ∀ input ∈ bare, input.Sizable ∧ input.witness = [])
    (h : (TxIn.witnessReader bare).run bytes = some (inputs, rest)) :
    (∀ input ∈ inputs, input.Sizable) ∧ inputs.map TxIn.unsigned = bare ∧
      bytes = inputs.flatMap TxIn.encodeWitness ++ rest := by
  induction bare generalizing bytes inputs with
  | nil =>
    obtain ⟨rfl, rfl⟩ := run_pure_eq_some_iff.1 h
    exact ⟨nofun, rfl, rfl⟩
  | cons input bare ih =>
    obtain ⟨⟨hinput, hwitness⟩, hbare⟩ := List.forall_mem_cons.1 hbare
    obtain ⟨witness, left, hfirst, h⟩ := run_bind_eq_some_iff.1 h
    obtain ⟨others, left', hothers, h⟩ := run_bind_eq_some_iff.1 h
    obtain ⟨rfl, rfl⟩ := run_pure_eq_some_iff.1 h
    obtain ⟨⟨hlt, helements⟩, rfl⟩ := onlyReads_list onlyReads_sizedBytes hfirst
    obtain ⟨hall, hsame, rfl⟩ := ih hbare hothers
    refine ⟨List.forall_mem_cons.2
      ⟨⟨hinput.length_txid, hinput.signatureScript_lt, hlt, helements⟩, hall⟩, ?_, ?_⟩
    · rw [List.map_cons, hsame, TxIn.unsigned, ← hwitness]
    · simp [encodeWitness]

namespace Transaction

/-! ## Transactions -/

/-- Reads what stands behind the mark of the form with witnesses : a flag and the parts of the
transaction. Where there are inputs, some must have a witness. -/
def witnessFormReader (version : UInt32) : ByteReader Transaction := do
  let flag ← number 1
  if flag = 1 then
    let bare ← list TxIn.reader
    let outputs ← list TxOut.reader
    let inputs ← TxIn.witnessReader bare
    let lockTime ← number 4
    let tx : Transaction := ⟨version, inputs, outputs, UInt32.ofNat lockTime⟩
    if tx.hasWitness then return tx else failure
  else failure

/-- Reads a transaction in either form. -/
def reader : ByteReader Transaction := do
  let version ← number 4
  let inputs ← list TxIn.reader
  -- No inputs are the mark of the form with witnesses.
  if inputs.isEmpty then witnessFormReader (UInt32.ofNat version)
  else
    let outputs ← list TxOut.reader
    let lockTime ← number 4
    return ⟨UInt32.ofNat version, inputs, outputs, UInt32.ofNat lockTime⟩

/-- The transaction that bytes spell. -/
def read? (bytes : Bytes) : Option Transaction :=
  match reader.run bytes with
  | some (tx, []) => some tx
  | _ => none

/-- All ids have 32 bytes, and all sizes have 64 bits. -/
structure Sizable (tx : Transaction) : Prop where
  inputs_lt : tx.inputs.length < UInt64.size
  outputs_lt : tx.outputs.length < UInt64.size
  inputs : ∀ input ∈ tx.inputs, input.Sizable
  script_lt : ∀ output ∈ tx.outputs, output.script.length < UInt64.size

variable {tx : Transaction}

theorem Sizable.reads_inputs (h : tx.Sizable) :
    (list TxIn.reader).Reads (compactSize tx.inputs.length ++ tx.inputs.flatMap TxIn.encode)
      (tx.inputs.map TxIn.unsigned) :=
  reads_list h.inputs_lt fun input hinput => (h.inputs input hinput).reads

theorem Sizable.reads_outputs (h : tx.Sizable) :
    (list TxOut.reader).Reads (compactSize tx.outputs.length ++ tx.outputs.flatMap TxOut.encode)
      tx.outputs :=
  reads_list_self h.outputs_lt fun output houtput => TxOut.reads (h.script_lt output houtput)

/-- Where no input has a witness, the inputs are there without them. -/
theorem map_unsigned_of_not_hasWitness (h : tx.hasWitness = false) :
    tx.inputs.map TxIn.unsigned = tx.inputs := by
  have hnone : ∀ input ∈ tx.inputs, input.witness = [] := by
    intro input hinput
    simp only [hasWitness, Bool.or_eq_false_iff, List.any_eq_false] at h
    simpa using h.2 input hinput
  refine (List.map_congr_left fun input hinput => ?_).trans (List.map_id _)
  rw [TxIn.unsigned, ← hnone input hinput]
  rfl

/-- Behind the mark. -/
theorem Sizable.reads_witnessForm (h : tx.Sizable) (hwitness : tx.hasWitness = true) :
    (witnessFormReader tx.version).Reads
      ([1] ++ (tx.encodeBody ++ (tx.inputs.flatMap TxIn.encodeWitness ++
        Bytes.ofNatLE 4 tx.lockTime.toNat))) tx := by
  have hbytes : tx.encodeBody ++ (tx.inputs.flatMap TxIn.encodeWitness ++
      Bytes.ofNatLE 4 tx.lockTime.toNat) =
        (compactSize tx.inputs.length ++ tx.inputs.flatMap TxIn.encode) ++
          ((compactSize tx.outputs.length ++ tx.outputs.flatMap TxOut.encode) ++
            (tx.inputs.flatMap TxIn.encodeWitness ++ Bytes.ofNatLE 4 tx.lockTime.toNat)) := by
    simp [encodeBody]
  rw [hbytes]
  refine (reads_byte 1).bind ?_
  rw [if_pos (by decide)]
  refine .bind h.reads_inputs (.bind h.reads_outputs (.bind (TxIn.reads_witnesses h.inputs)
    (.bind_eq_pure (reads_number (UInt32.toNat_lt _)) ?_)))
  rw [UInt32.ofNat_toNat]
  exact if_pos hwitness

theorem Sizable.reads (h : tx.Sizable) : reader.Reads tx.encode tx := by
  cases hwitness : tx.hasWitness with
  | true =>
    -- The mark is a list of no inputs.
    have hmark : (list TxIn.reader).Reads [0] [] := (reads_byte 0).bind (reads_pure [])
    have hbytes : tx.encode = Bytes.ofNatLE 4 tx.version.toNat ++ ([0] ++ ([1] ++ (tx.encodeBody ++
        (tx.inputs.flatMap TxIn.encodeWitness ++ Bytes.ofNatLE 4 tx.lockTime.toNat)))) := by
      simp [encode, hwitness, encodeVersion]
    rw [hbytes]
    refine .bind (reads_number (UInt32.toNat_lt _)) (hmark.bind ?_)
    rw [UInt32.ofNat_toNat]
    exact h.reads_witnessForm hwitness
  | false =>
    have hbytes : tx.encode = Bytes.ofNatLE 4 tx.version.toNat ++
        ((compactSize tx.inputs.length ++ tx.inputs.flatMap TxIn.encode) ++
          ((compactSize tx.outputs.length ++ tx.outputs.flatMap TxOut.encode) ++
            Bytes.ofNatLE 4 tx.lockTime.toNat)) := by
      simp [encode, hwitness, encodeBase, encodeVersion, encodeBody]
    have hinputs := h.reads_inputs
    rw [map_unsigned_of_not_hasWitness hwitness] at hinputs
    rw [hbytes]
    refine .bind (reads_number (UInt32.toNat_lt _)) (hinputs.bind ?_)
    rw [(Bool.or_eq_false_iff.1 hwitness).1]
    refine .bind h.reads_outputs (.bind_eq_pure (reads_number (UInt32.toNat_lt _)) ?_)
    rw [UInt32.ofNat_toNat, UInt32.ofNat_toNat]

/-- Inputs and outputs, as they stand in both forms. -/
theorem encodeBody_append (tx : Transaction) (rest : Bytes) :
    tx.encodeBody ++ rest =
      (compactSize tx.inputs.length ++ tx.inputs.flatMap TxIn.encode) ++
        ((compactSize tx.outputs.length ++ tx.outputs.flatMap TxOut.encode) ++ rest) := by
  simp [encodeBody]

theorem of_run_witnessFormReader {version : UInt32} {bytes rest : Bytes}
    (h : (witnessFormReader version).run bytes = some (tx, rest)) :
    tx.Sizable ∧ tx.version = version ∧ tx.hasWitness = true ∧
      bytes = [1] ++ (tx.encodeBody ++ (tx.inputs.flatMap TxIn.encodeWitness ++
        (Bytes.ofNatLE 4 tx.lockTime.toNat ++ rest))) := by
  obtain ⟨flag, left, hflag, h⟩ := run_bind_eq_some_iff.1 h
  split_ifs at h with hone
  · obtain ⟨bare, left, hbare, h⟩ := run_bind_eq_some_iff.1 h
    obtain ⟨outputs, left, houtputs, h⟩ := run_bind_eq_some_iff.1 h
    obtain ⟨inputs, left, hinputs, h⟩ := run_bind_eq_some_iff.1 h
    obtain ⟨lockTime, left, hlockTime, h⟩ := run_bind_eq_some_iff.1 h
    dsimp only at h
    split_ifs at h with hwitness
    · obtain ⟨rfl, rfl⟩ := run_pure_eq_some_iff.1 h
      obtain ⟨-, rfl⟩ := onlyReads_number 1 hflag
      obtain ⟨⟨hcount, hgood⟩, rfl⟩ := onlyReads_list TxIn.onlyReads hbare
      obtain ⟨⟨houtcount, hscripts⟩, rfl⟩ := onlyReads_list TxOut.onlyReads houtputs
      obtain ⟨hall, rfl, rfl⟩ := TxIn.of_run_witnessReader hgood hinputs
      obtain ⟨hlt, rfl⟩ := onlyReads_number 4 hlockTime
      rw [List.length_map] at hcount
      refine ⟨⟨hcount, houtcount, hall, hscripts⟩, rfl, hwitness, ?_⟩
      rw [encodeBody_append, hone]
      simp [UInt32.toNat_ofNat_of_lt' hlt, List.flatMap_map, Bytes.ofNatLE]
    · cases h
  · cases h

theorem onlyReads : reader.OnlyReads encode Sizable := by
  intro bytes tx rest h
  obtain ⟨version, left, hversion, h⟩ := run_bind_eq_some_iff.1 h
  obtain ⟨inputs, left, hinputs, h⟩ := run_bind_eq_some_iff.1 h
  obtain ⟨hversionlt, hbytes⟩ := onlyReads_number 4 hversion
  obtain ⟨⟨hcount, hgood⟩, hlist⟩ := onlyReads_list TxIn.onlyReads hinputs
  rw [hbytes, hlist]
  split_ifs at h with hempty
  · obtain ⟨hsizable, hsame, hwitness, rfl⟩ := of_run_witnessFormReader h
    obtain rfl := List.isEmpty_iff.1 hempty
    refine ⟨hsizable, ?_⟩
    simp [encode, hwitness, encodeVersion, hsame, UInt32.toNat_ofNat_of_lt' hversionlt, compactSize]
  · obtain ⟨outputs, left, houtputs, h⟩ := run_bind_eq_some_iff.1 h
    obtain ⟨lockTime, left, hlockTime, h⟩ := run_bind_eq_some_iff.1 h
    obtain ⟨rfl, rfl⟩ := run_pure_eq_some_iff.1 h
    obtain ⟨⟨houtcount, hscripts⟩, rfl⟩ := onlyReads_list TxOut.onlyReads houtputs
    obtain ⟨hlt, rfl⟩ := onlyReads_number 4 hlockTime
    have hany : (inputs.any fun input => !input.witness.isEmpty) = false :=
      List.any_eq_false.2 fun input hinput => by simp [(hgood input hinput).2]
    refine ⟨⟨hcount, houtcount, fun input hinput => (hgood input hinput).1, hscripts⟩, ?_⟩
    simp [encode, hasWitness, hany, hempty, encodeBase, encodeVersion, encodeBody,
      UInt32.toNat_ofNat_of_lt' hversionlt, UInt32.toNat_ofNat_of_lt' hlt]

/-- Bytes are read as a transaction exactly if they are its bytes, and all sizes have 64 bits. -/
theorem read?_eq_some_iff {bytes : Bytes} :
    read? bytes = some tx ↔ tx.Sizable ∧ bytes = tx.encode := by
  unfold read?
  constructor
  · intro h
    split at h
    · next hread =>
      cases h
      obtain ⟨hsizable, hbytes⟩ := onlyReads hread
      rw [List.append_nil] at hbytes
      exact ⟨hsizable, hbytes⟩
    · cases h
  · rintro ⟨hsizable, rfl⟩
    have hread := hsizable.reads []
    rw [List.append_nil] at hread
    rw [hread]

end Transaction

end LiquidityClient
