import LiquidityClient.Client
import LiquidityClient.Proofs.DigitTexts
import LiquidityClient.Proofs.Operations

/-!
# Channel points

The texts that name an output : everything up to the first colon is the transaction's id, and the
rest is the index in decimal (`ChannelPoint.Names`, `ChannelPoint.parse_eq_ok_iff`). The watcher is
asked to watch a text as it stands if the id is one (`ChannelPoint.IsTxid`), and nothing is asked
for any other text (`Client.channelPoint_grammar`).
-/

namespace LiquidityClient

namespace ChannelPoint

theorem splitColon_eq_some_iff {cs before after : List Char} :
    splitColon cs = some (before, after) ↔ cs = before ++ ':' :: after ∧ ':' ∉ before := by
  induction cs generalizing before with
  | nil => simp [splitColon]
  | cons c rest ih =>
    rw [splitColon]
    split_ifs with hcolon
    · subst hcolon
      cases before with
      | nil => simp [eq_comm]
      | cons b before =>
        -- the first colon is not part of the id
        simp +contextual [eq_comm]
    · cases before with
      | nil => simp [hcolon]
      | cons b before =>
        rw [Option.map_eq_some_iff, List.cons_append, List.cons.injEq, List.mem_cons, not_or]
        constructor
        · rintro ⟨⟨_, _⟩, hsplit, hparts⟩
          cases hparts
          obtain ⟨hrest, hnot⟩ := ih.1 hsplit
          exact ⟨⟨rfl, hrest⟩, Ne.symm hcolon, hnot⟩
        · rintro ⟨⟨rfl, hrest⟩, -, hnot⟩
          exact ⟨_, ih.2 ⟨hrest, hnot⟩, rfl⟩

/-- The text is a transaction's id, a colon and the index of one of its outputs in decimal. There
may be a plus sign and zeros in front of the index, and colons only behind the id. -/
structure Names (point txid : String) (index : UInt32) : Prop where
  noColon : ':' ∉ txid.toList
  written : ∃ sign digits : String, point = txid ++ ":" ++ sign ++ digits ∧
    (sign = "" ∨ sign = "+") ∧ Decimal.Spells digits.toList index.toNat

theorem names_iff {point txid : String} {index : UInt32} : Names point txid index ↔
    ∃ rest, splitColon point.toList = some (txid.toList, rest) ∧
      Decimal.readUInt32 (String.ofList rest) = .ok index := by
  simp only [splitColon_eq_some_iff, Decimal.readUInt32_eq_ok_iff, String.toList_ofList]
  constructor
  · rintro ⟨hcolon, sign, digits, rfl, hsign, hspells⟩
    refine ⟨sign.toList ++ digits.toList, ⟨by simp, hcolon⟩, sign.toList, digits.toList, rfl, ?_,
      hspells⟩
    exact hsign.imp (congrArg String.toList) (congrArg String.toList)
  · rintro ⟨_, ⟨hpoint, hcolon⟩, sign, digits, rfl, hsign, hspells⟩
    refine ⟨hcolon, String.ofList sign, String.ofList digits, ?_, ?_, ?_⟩
    · simpa [← String.toList_inj] using hpoint
    · exact hsign.imp (congrArg String.ofList) (congrArg String.ofList)
    · rwa [String.toList_ofList]

/-- A channel point is read as what it names, and no other text is one. -/
theorem parse_eq_ok_iff {point txid : String} {index : UInt32} :
    parse point = .ok (txid, index) ↔ Names point txid index := by
  rw [names_iff, parse]
  cases hsplit : splitColon point.toList with
  | none => simp
  | some parts =>
    obtain ⟨before, after⟩ := parts
    have hbefore : before = txid.toList ↔ String.ofList before = txid := by
      rw [← String.toList_inj, String.toList_ofList]
    have hnamed : (∃ rest, some (before, after) = some (txid.toList, rest) ∧
        Decimal.readUInt32 (String.ofList rest) = .ok index) ↔
          String.ofList before = txid ∧ Decimal.readUInt32 (String.ofList after) = .ok index := by
      simp [hbefore, and_assoc]
    rw [hnamed]
    dsimp only
    cases Decimal.readUInt32 (String.ofList after) <;> simp

/-- An id and an index are read back from their text. -/
theorem parse_written {txid : String} (hcolon : ':' ∉ txid.toList) (index : UInt32) :
    parse (txid ++ ":" ++ Decimal.ofNat index.toNat) = .ok (txid, index) := by
  refine parse_eq_ok_iff.2 ⟨hcolon, "", Decimal.ofNat index.toNat, ?_, Or.inl rfl, ?_⟩
  · rw [String.append_empty]
  · rw [Decimal.ofNat, String.toList_ofList]
    exact Decimal.spells_digits _

/-- The id of a transaction as channel points have it. -/
def IsTxid (text : String) : Prop :=
  text.toList.length = 64 ∧ ∀ c ∈ text.toList, Hex.IsDigit c

/-- 64 bytes that are hexadecimal are 64 digits. -/
theorem isTxid_iff {text : String} :
    text.utf8ByteSize = 64 ∧ Hex.isHex text = true ↔ IsTxid text := by
  rw [Hex.isHex_iff]
  constructor
  · rintro ⟨hsize, -, hdigits⟩
    exact ⟨Hex.length_encode hdigits ▸ hsize, hdigits⟩
  · rintro ⟨hlength, hdigits⟩
    exact ⟨(Hex.length_encode hdigits).trans hlength, by rw [hlength], hdigits⟩

theorem validate_eq_ok_iff {point : String} :
    validate point = .ok () ↔ ∃ txid index, Names point txid index ∧ IsTxid txid := by
  simp only [← parse_eq_ok_iff, ← isTxid_iff]
  unfold validate
  cases parse point with
  | error fault => simp
  | ok named =>
    obtain ⟨txid, index⟩ := named
    dsimp only
    split_ifs with htxid <;> simp [htxid]

/-- A text that is no channel point is an invalid input. -/
theorem exists_of_validate_eq_error {point : String} {cause : Fault}
    (h : validate point = .error cause) : ∃ detail, cause = .invalidInput detail := by
  unfold validate at h
  cases hparse : parse point with
  | ok named =>
    simp only [hparse] at h
    split_ifs at h
    cases h
    exact ⟨_, rfl⟩
  | error fault =>
    rw [hparse] at h
    cases h
    unfold parse at hparse
    split at hparse
    · cases hparse
      exact ⟨_, rfl⟩
    · split at hparse <;> cases hparse
      exact ⟨_, rfl⟩

end ChannelPoint

namespace Client

open Program ChannelPoint

/-- With a watcher, a call to watch a channel asks it to do so, unless the text is no channel
point. -/
theorem program_watchClose (configuration : Configuration) (point : String) (session : Session) :
    (Client.watchClose ⟨configuration, true⟩ point).program session =
      match validate point with
      | .error cause => .pure (.error (.fault cause), session)
      | .ok () =>
        .ask (.watcher (.register point)) fun reply => .pure (reply.mapError .fault, session) := by
  have hwatcher : (requireWatcher ⟨configuration, true⟩).program session =
      .pure (.ok (), session) := rfl
  unfold watchClose
  rw [Operation.program_bind, hwatcher, Program.bind]
  dsimp only
  cases validate point with
  | error cause => rfl
  | ok _ => exact Operation.program_watcher _ session

/-- A call to watch a channel ends with the watcher's reply, or refuses its input. -/
theorem runs_watchClose_cases {configuration : Configuration} {point : String} {session : Session}
    {log : Transcript Collaborators} {result : Option (Except ClientError Unit × Session)}
    (h : Runs ((Client.watchClose ⟨configuration, true⟩ point).program session) log result) :
    (validate point = .ok () ∧ ∃ reply, log = [⟨.watcher (.register point), reply⟩] ∧
        result = reply.map fun reply => (reply.mapError .fault, session)) ∨
      (validate point ≠ .ok () ∧ log = [] ∧
        ∃ detail, result = some (.error (.fault (.invalidInput detail)), session)) := by
  rw [program_watchClose] at h
  cases hvalid : validate point with
  | ok _ =>
    rw [hvalid] at h
    refine Or.inl ⟨rfl, ?_⟩
    rcases h.ask_cases with ⟨reply, rest, rfl, hrest⟩ | ⟨rfl, rfl⟩
    · obtain ⟨rfl, rfl⟩ := runs_pure_iff.1 hrest
      exact ⟨some reply, rfl, rfl⟩
    · exact ⟨none, rfl, rfl⟩
  | error cause =>
    rw [hvalid] at h
    obtain ⟨rfl, rfl⟩ := runs_pure_iff.1 h
    obtain ⟨detail, rfl⟩ := exists_of_validate_eq_error hvalid
    refine Or.inr ⟨fun hok => ?_, rfl, detail, rfl⟩
    cases hok

/-- A channel point is the text of an id without colons, a colon and an index of 32 bits in decimal,
behind a plus sign or not; so an id and an index are read back from their text. A client with a
watcher passes it on as it stands, once, if the id is one of 64 hexadecimal digits, and otherwise
refuses it without asking. -/
theorem channelPoint_grammar :
    (∀ point txid index, parse point = .ok (txid, index) ↔ Names point txid index) ∧
    (∀ (txid : String) (index : UInt32), ':' ∉ txid.toList →
      parse (txid ++ ":" ++ Decimal.ofNat index.toNat) = .ok (txid, index)) ∧
    ∀ (configuration : Configuration) (point : String) (session : Session) (σ : Type)
      (answer : (r : Request) → σ → Option r.Reply × σ) (state : σ),
      let (result, log) :=
        record answer ((Client.watchClose ⟨configuration, true⟩ point).program session) state
      ((∃ txid index, Names point txid index ∧ IsTxid txid) →
        ∃ reply, log = [⟨.watcher (.register point), reply⟩] ∧
          result = reply.map fun reply => (reply.mapError .fault, session)) ∧
      ((¬∃ txid index, Names point txid index ∧ IsTxid txid) →
        log = [] ∧ ∃ detail, result = some (.error (.fault (.invalidInput detail)), session)) := by
  refine ⟨fun point txid index => parse_eq_ok_iff,
    fun txid index hcolon => parse_written hcolon index,
    fun configuration point session σ answer state => ?_⟩
  have hrun := runs_record answer
    ((Client.watchClose ⟨configuration, true⟩ point).program session) state
  generalize record answer ((Client.watchClose ⟨configuration, true⟩ point).program session)
    state = recorded at hrun ⊢
  obtain ⟨result, log⟩ := recorded
  dsimp only at hrun ⊢
  rw [← validate_eq_ok_iff]
  rcases runs_watchClose_cases hrun with ⟨hvalid, hasked⟩ | ⟨hinvalid, hrefused⟩
  · exact ⟨fun _ => hasked, fun hnot => absurd hvalid hnot⟩
  · exact ⟨fun hvalid => absurd hvalid hinvalid, fun _ => hrefused⟩

end Client

end LiquidityClient
