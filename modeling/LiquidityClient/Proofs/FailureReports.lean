import LiquidityClient.Proofs.Operations
import LiquidityClient.Proofs.PaymentSettlement

/-!
# Reports on failed payments

A payment that passes the first checks and fails is reported once, and no other is (`pay_reports`).
What the provider opens tells the level and the reason of the cause for which the payment was given
up, and how many edges it excluded (`Reported`). Whether the report arrives does not change what the
payment ends with (`AlikeButReports.record_pay_fst_eq`).
-/

namespace LiquidityClient

open Program

/-! ## The length of a report -/

theorem length_utf8_le (text : String) : (Utf8.encode text).length ≤ 4 * text.length := by
  rw [Utf8.encode_eq_flatMap, ← String.length_toList]
  generalize text.toList = chars
  induction chars with
  | nil => exact Nat.le_refl 0
  | cons c rest ih =>
    have hc := c.utf8Size_le_four
    rw [List.flatMap_cons, List.length_append, String.length_utf8EncodeChar, List.length_cons]
    omega

theorem length_digits_le (n : Nat) : (Decimal.digits n).length ≤ n + 1 := by
  induction n using Decimal.digits.induct with
  | case1 n hlast =>
    rw [Decimal.digits, if_pos hlast]
    exact Nat.le_add_left 1 n
  | case2 n hmore ih =>
    rw [Decimal.digits, if_neg hmore, List.length_append, List.length_singleton]
    omega

namespace Wire

/-- A field for a text takes little more than the text. -/
theorem length_encode_string_le (number : Nat) (hnumber : number < 16) {value : String}
    (hvalue : value.length < 2 ^ 60) :
    (Kind.string.encode number value).length ≤ 11 + 4 * value.length := by
  have hbytes := length_utf8_le value
  change (if value = "" then [] else
    key number .bytes ++ lengthPrefixed (Utf8.encode value)).length ≤ _
  split_ifs
  · exact Nat.zero_le _
  · have hkey : (key number .bytes).length ≤ 1 :=
      length_varint_le (by decide) (by simp [Form.code]; omega)
    have hlength : (varint (Utf8.encode value).length).length ≤ 10 :=
      length_varint_le (by decide) (by rw [Nat.one_shiftLeft]; omega)
    rw [List.length_append, lengthPrefixed, List.length_append]
    omega

theorem length_encode_int32_le (number : Nat) (hnumber : number < 16) (value : Int32) :
    (Kind.int32.encode number value).length ≤ 11 := by
  change (if value = 0 then [] else
    key number .varint ++ varint value.toInt64.toUInt64.toNat).length ≤ _
  split_ifs
  · exact Nat.zero_le _
  · have hkey : (key number .varint).length ≤ 1 :=
      length_varint_le (by decide) (by simp [Form.code]; omega)
    have hvalue : (varint value.toInt64.toUInt64.toNat).length ≤ 10 :=
      length_varint_le (by decide) (value.toInt64.toUInt64.toNat_lt.trans (by decide))
    rw [List.length_append]
    omega

theorem length_encode_report_le (report : ReportRequest)
    (hcategory : report.category.length < 2 ^ 60) (hmessage : report.message.length < 2 ^ 60) :
    (encode report).length ≤ 33 + 4 * (report.category.length + report.message.length) := by
  have h₁ := length_encode_string_le 1 (by decide) hcategory
  have h₂ := length_encode_int32_le 2 (by decide) report.level
  have h₃ := length_encode_string_le 3 (by decide) hmessage
  change (Kind.string.encode 1 report.category ++ (Kind.int32.encode 2 report.level ++
    (Kind.string.encode 3 report.message ++ []))).length ≤ _
  simp only [List.length_append, List.length_nil]
  omega

end Wire

/-- The text of a report whose payee has a hexadecimal id. -/
theorem failureReport_of_hex {request : PayRequest} {payee : Bytes}
    (h : Hex.decode request.destination = .ok payee) (excluded : Nat) (reason : FailureReason) :
    failureReport request excluded reason =
      "FAIL: hashed_destination=" ++ Hex.encode (Sha256.hash payee) ++ ", errPairs="
        ++ Decimal.ofNat excluded ++ ", last_reason=" ++ reason.name := by
  unfold failureReport
  rw [h]

theorem length_failureReport_le {request : PayRequest} {payee : Bytes}
    (h : Hex.decode request.destination = .ok payee) (excluded : Nat) (reason : FailureReason) :
    (failureReport request excluded reason).length ≤ 200 + excluded := by
  have hhash : (Hex.encode (Sha256.hash payee)).length = 64 := by
    rw [Hex.encode, String.length_ofList, Hex.length_flatMap_pair, Sha256.length_hash]
  have hdigits : (Decimal.ofNat excluded).length ≤ excluded + 1 := by
    rw [Decimal.ofNat, String.length_ofList]
    exact length_digits_le excluded
  have hname : reason.name.length ≤ 40 := by cases reason <;> decide
  rw [failureReport_of_hex h]
  simp only [String.length_append]
  rw [hhash]
  have htexts : "FAIL: hashed_destination=".length = 25 ∧ ", errPairs=".length = 11 ∧
    ", last_reason=".length = 14 := by decide
  omega

/-- A report on a payment fits in a message. -/
theorem length_encode_failureReport_lt {request : PayRequest} (hhex : Hex.isHex request.destination)
    {excluded : Nat} (hexcluded : excluded ≤ maxRounds) (reason : FailureReason)
    (level : Wire.ReportLevel) :
    (Wire.encode (α := Wire.ReportRequest)
      ⟨reportCategory, level.number, failureReport request excluded reason⟩).length <
        UInt64.size := by
  obtain ⟨payee, hpayee⟩ := Hex.isHex_eq_true_iff.1 hhex
  have hmessage := length_failureReport_le hpayee excluded reason
  have hcategory : reportCategory.length = 11 := by decide
  have hrounds : maxRounds = 10 := rfl
  have hlength := Wire.length_encode_report_le
    ⟨reportCategory, level.number, failureReport request excluded reason⟩
    (show reportCategory.length < 2 ^ 60 by omega)
    (show (failureReport request excluded reason).length < 2 ^ 60 by omega)
  refine hlength.trans_lt ?_
  dsimp only
  rw [show UInt64.size = 2 ^ 64 from rfl]
  omega

/-! ## Reports as they are sent -/

/-- Is the provider told something? -/
def Request.isReport : Request → Bool
  | .provider (.reportMessage _) => true
  | _ => false

/-- A report, with the secrets of the one who sends it. -/
structure SentReport where
  ephemeral : SecretKey
  nonce : { bytes : Bytes // bytes.length = Envelope.nonceLength }
  envelope : Wire.Encrypted
  reply : Option (Except Fault Wire.EmptyReply)

namespace SentReport

/-- What is asked for a report : its secrets are drawn, and the provider gets it. -/
def exchanges (sent : SentReport) : Transcript Collaborators :=
  [⟨.freshKey, some sent.ephemeral⟩, ⟨.freshBytes Envelope.nonceLength, some sent.nonce⟩,
    ⟨.provider (.reportMessage sent.envelope), sent.reply⟩]

theorem asked_exchanges (sent : SentReport) : asked Request.isReport sent.exchanges = 1 := rfl

/-- The report is sealed for the provider, and this is what it tells. -/
def Tells (sent : SentReport) (terms : Terms) (report : Wire.ReportRequest) : Prop :=
  ∃ providerKey, parsePublicKey terms.providerKey = .ok providerKey ∧
    sent.envelope = sealMessage providerKey ⟨sent.ephemeral, sent.nonce.val⟩ report

/-- The holder of the provider's key reads what the report tells. -/
theorem Tells.opens {sent : SentReport} {terms : Terms} {report : Wire.ReportRequest}
    (h : sent.Tells terms report) {secret : SecretKey}
    (hkey : parsePublicKey terms.providerKey = .ok secret.publicKey) :
    openBytes secret sent.envelope.data = .ok (Wire.encode report) ∧
      ((Wire.encode report).length < UInt64.size →
        openMessage Wire.ReportRequest secret sent.envelope = .ok report) := by
  obtain ⟨providerKey, hprovider, henvelope⟩ := h
  obtain rfl := Except.ok.inj (hprovider.symm.trans hkey)
  rw [henvelope]
  exact ⟨openBytes_sealBytes secret sent.nonce.2 _,
    openMessage_sealMessage_of_doubleFree secret sent.nonce.2 (by decide) (by decide)⟩

end SentReport

/-- A report draws its secrets and goes to the provider, if the provider's key is one. -/
theorem run_sendReport (terms : Terms) (category : String) (level : Wire.ReportLevel)
    (message : String) :
    (sendReport terms category level message).run =
      match parsePublicKey terms.providerKey with
      | .error e => .pure (.error (.sealing e))
      | .ok providerKey =>
        .ask .freshKey fun ephemeral => .ask (.freshBytes Envelope.nonceLength) fun nonce =>
          .ask (.provider (.reportMessage (sealMessage (α := Wire.ReportRequest) providerKey
              ⟨ephemeral, nonce.val⟩ ⟨category, level.number, message⟩))) fun reply =>
            .pure (reply.mapError .fault |>.map fun _ => ()) := by
  unfold sendReport
  cases parsePublicKey terms.providerKey with
  | error e => rfl
  | ok providerKey =>
    refine congrArg (Program.ask _) (funext fun ephemeral => ?_)
    refine congrArg (Program.ask _) (funext fun nonce => ?_)
    refine congrArg (Program.ask _) (funext fun reply => ?_)
    cases reply <;> rfl

/-! ## The end of a payment -/

namespace PaymentJob

variable {job : PaymentJob} {log part rest : Transcript Collaborators}
  {result : Option (Except RouteError PaymentOutcome)}

/-- What the provider is told of a payment with this note. -/
def told (job : PaymentJob) (note : FailureNote) : Wire.ReportRequest where
  category := reportCategory
  level := note.level.number
  message := failureReport job.request note.excluded note.reason

/-- Without a key of the provider a payment ends unreported. -/
theorem conclude_of_not_key
    (hkey : ∀ providerKey, parsePublicKey job.terms.providerKey ≠ .ok providerKey)
    (settlement : Settlement) : job.conclude settlement = .pure settlement.value := by
  unfold conclude
  cases settlement.note with
  | none => rfl
  | some note =>
    dsimp only
    rw [report, run_sendReport]
    cases hparse : parsePublicKey job.terms.providerKey with
    | error e => rfl
    | ok providerKey => exact absurd hparse (hkey providerKey)

/-- With it a payment with a note ends with a report. -/
theorem conclude_of_key {providerKey : PublicKey}
    (hkey : parsePublicKey job.terms.providerKey = .ok providerKey)
    (value : Except RouteError PaymentOutcome) (note : FailureNote) :
    job.conclude ⟨value, some note⟩ =
      .ask .freshKey fun ephemeral => .ask (.freshBytes Envelope.nonceLength) fun nonce =>
        .ask (.provider (.reportMessage
          (sealMessage providerKey ⟨ephemeral, nonce.val⟩ (job.told note)))) fun _ =>
            .pure value := by
  unfold conclude
  dsimp only
  rw [report, run_sendReport, hkey]
  rfl

/-- A payment ends with what it was settled with. -/
theorem value_of_runs_conclude {settlement : Settlement} {value : Except RouteError PaymentOutcome}
    (h : Runs (job.conclude settlement) log (some value)) : value = settlement.value := by
  unfold conclude at h
  cases hnote : settlement.note with
  | none =>
    rw [hnote] at h
    exact Option.some.inj (runs_pure_iff.1 h).2
  | some note =>
    rw [hnote] at h
    obtain ⟨_, _, _, -, -, hend⟩ := runs_bind_some_iff.1 h
    exact Option.some.inj (runs_pure_iff.1 hend).2

/-- A payment with a note is reported, unless the randomness fails. -/
theorem runs_conclude_cases {providerKey : PublicKey}
    (hkey : parsePublicKey job.terms.providerKey = .ok providerKey)
    {value : Except RouteError PaymentOutcome} {note : FailureNote}
    (h : Runs (job.conclude ⟨value, some note⟩) log result) :
    (result = none ∧ asked Request.isReport log = 0) ∨
      ∃ sent : SentReport, sent.Tells job.terms (job.told note) ∧ log = sent.exchanges := by
  rw [conclude_of_key hkey] at h
  rcases h.ask_cases with ⟨ephemeral, log₁, rfl, hnonce⟩ | ⟨rfl, rfl⟩
  swap
  · exact .inl ⟨rfl, rfl⟩
  rcases hnonce.ask_cases with ⟨nonce, log₂, rfl, hreport⟩ | ⟨rfl, rfl⟩
  swap
  · exact .inl ⟨rfl, rfl⟩
  have hsent (reply : Option (Except Fault Wire.EmptyReply)) :
      ∃ sent : SentReport, sent.Tells job.terms (job.told note) ∧
        [⟨.freshKey, some ephemeral⟩, ⟨.freshBytes Envelope.nonceLength, some nonce⟩,
          ⟨.provider (.reportMessage
            (sealMessage providerKey ⟨ephemeral, nonce.val⟩ (job.told note))), reply⟩] =
          sent.exchanges :=
    ⟨⟨ephemeral, nonce, _, reply⟩, ⟨providerKey, hkey, rfl⟩, rfl⟩
  rcases hreport.ask_cases with ⟨reply, log₃, rfl, hend⟩ | ⟨rfl, rfl⟩
  · obtain ⟨rfl, rfl⟩ := runs_pure_iff.1 hend
    exact .inr (hsent (some reply))
  · exact .inr (hsent none)

/-- The rounds of a payment ask for no report. -/
theorem inOrder_settle (job : PaymentJob) (remaining : Nat) (progress : PaymentProgress) :
    InOrder (fun r => Request.isReport r = false) (job.settle remaining progress) := by
  induction remaining generalizing progress with
  | zero => exact .pure _
  | succ remaining ih =>
    unfold settle
    refine InOrder.bind (@inOrder_findRoute (fun r => Request.isReport r = false) rfl (fun _ => rfl)
      (fun _ => rfl) rfl _ _) fun found => ?_
    cases found with
    | error e => exact .pure _
    | ok route =>
      refine InOrder.bind (@inOrder_sendRoute (fun r => Request.isReport r = false)
        (fun _ _ => rfl) rfl _ _) fun sent => ?_
      obtain cause | _ | ⟨reason, _ | edge⟩ := sent
      · exact .pure _
      · exact .pure _
      · exact .pure _
      · exact ih _

/-- Before the first round nothing is counted. -/
theorem underway_start (job : PaymentJob) (hquiet : Quiet part) : job.Underway part .start where
  excluded_eq := (hquiet.blames_eq _).symm
  attempts_eq := hquiet.sends_eq.symm
  excluded_eq_attempts := rfl
  last hattempts := absurd rfl hattempts

/-- The rounds of a payment settle it without a report. -/
theorem runs_settle_conclude_cases (hquiet : Quiet part)
    (h : Runs ((job.settle maxRounds .start).bind job.conclude) rest result) :
    (result = none ∧ asked Request.isReport rest = 0) ∨
      ∃ settlement mid tail, rest = mid ++ tail ∧ asked Request.isReport mid = 0 ∧
        job.Settled (part ++ mid) settlement ∧ Runs (job.conclude settlement) tail result := by
  rcases h.bind_cases with ⟨settlement, mid, tail, rfl, hsettle, hend⟩ | ⟨hcrash, rfl⟩
  · exact .inr ⟨settlement, mid, tail, rfl, (job.inOrder_settle _ _).asked_eq_zero hsettle,
      settled_of_runs_settle maxRounds (job.underway_start hquiet) rfl hsettle, hend⟩
  · exact .inl ⟨rfl, (job.inOrder_settle _ _).asked_eq_zero hcrash⟩

end PaymentJob

/-- A payment is checked, then settled, and then it ends. -/
theorem run_pay_eq (terms : Terms) (invoice : String) (feeLimitSat amountSat : Int64) :
    (pay terms invoice feeLimitSat amountSat).run =
      (preparePayment terms invoice feeLimitSat amountSat).run.bind fun
        | .error e => .pure (.error e)
        | .ok job => (job.settle maxRounds .start).bind job.conclude := by
  unfold pay
  refine congrArg (Program.bind _) (funext fun prepared => ?_)
  cases prepared with
  | error e => rfl
  | ok job => exact job.run_rounds_eq maxRounds .start

/-- A payment for which the first search fails is reported, and ends without a route. -/
theorem runs_pay_of_not_found {terms : Terms} {invoice : String} {feeLimitSat amountSat : Int64}
    {job : PaymentJob} {part search : Transcript Collaborators} {cause : RouteError}
    {sent : SentReport} {reply : Except Fault Wire.EmptyReply}
    (hprepare : Runs (preparePayment terms invoice feeLimitSat amountSat).run part (some (.ok job)))
    (hfind : Runs (findRoute job.terms (job.query [])).run search (some (.error cause)))
    (hsent : sent.Tells job.terms (job.told ⟨0, .noRoute, .notify⟩))
    (hreply : sent.reply = some reply) :
    Runs (pay terms invoice feeLimitSat amountSat).run (part ++ (search ++ sent.exchanges))
      (some (.ok ⟨job.request.paymentHash, .failed, .noRoute, 0, 0⟩)) := by
  obtain ⟨providerKey, hkey, henvelope⟩ := hsent
  refine hprepare.bind (Action.runs_outcome_bind hfind ?_)
  dsimp only
  rw [job.run_giveUp, PaymentJob.lost, PaymentJob.conclude_of_key hkey, SentReport.exchanges,
    hreply, henvelope]
  exact .answered (.answered (.answered (.pure _)))

/-! ## What the provider learns -/

/-- A payment of a decoded invoice has asked this, was given up for this cause and with this reason,
and ended with this value; the report that is sent tells of it. -/
structure Reported (terms : Terms) (invoice : String) (request : PayRequest) (paymentHash : Bytes)
    (log : Transcript Collaborators) (cause : GiveUpCause) (reason : FailureReason)
    (value : Except RouteError PaymentOutcome) (sent : SentReport) (report : Wire.ReportRequest) :
    Prop where
  gaveUp_iff : ∀ cause' reason', GaveUp terms invoice paymentHash log cause' reason' ↔
    cause' = cause ∧ reason' = reason
  opens : ∀ secret : SecretKey, parsePublicKey terms.providerKey = .ok secret.publicKey →
    openBytes secret sent.envelope.data = .ok (Wire.encode report) ∧
      (Hex.isHex request.destination ∨ (Wire.encode report).length < UInt64.size →
        openMessage Wire.ReportRequest secret sent.envelope = .ok report)
  category_eq : report.category = "QueryRoutes"
  level_eq : report.level = cause.level.number
  message_eq : ∀ payee, Hex.decode request.destination = .ok payee →
    report.message = "FAIL: hashed_destination=" ++ Hex.encode (Sha256.hash payee) ++ ", errPairs="
      ++ Decimal.ofNat (blames paymentHash log) ++ ", last_reason=" ++ reason.name
  outcome_eq : ∀ outcome, value = .ok outcome → outcome.status = .failed ∧
    outcome.excludedPairs = blames paymentHash log ∧ outcome.failureReason = reason
  error_eq : ∀ e, value = .error e → reason = .error ∧
    ∃ fault, e = .fault fault ∧ cause = .callFailed fault

/-- A failed call is an error. -/
theorem GaveUp.reason_of_callFailed {terms : Terms} {invoice : String} {paymentHash : Bytes}
    {log : Transcript Collaborators} {fault : Fault} {reason : FailureReason}
    (h : GaveUp terms invoice paymentHash log (.callFailed fault) reason) : reason = .error := by
  cases h <;> rfl

/-- A report on a payment that was given up tells why, and what the payment ended with. -/
theorem PaymentJob.reported_of_tells {job : PaymentJob} {request : PayRequest}
    {log : Transcript Collaborators} {cause : GiveUpCause} {reason : FailureReason}
    {providerKey : PublicKey} {sent : SentReport}
    (hkey : parsePublicKey job.terms.providerKey = .ok providerKey)
    (hdestination : job.request.destination = request.destination)
    (hcause : GaveUp job.terms job.invoice job.paymentHash log cause reason)
    (hbound : blames job.paymentHash log ≤ maxRounds)
    (hsent : sent.Tells job.terms (job.told (noteAfter job.paymentHash log cause reason))) :
    Reported job.terms job.invoice request job.paymentHash log cause reason
      (cause.value (failureAfter job.request job.paymentHash log reason)) sent
      (job.told (noteAfter job.paymentHash log cause reason)) where
  gaveUp_iff cause' reason' := ⟨hcause.unique hkey, by rintro ⟨rfl, rfl⟩; exact hcause⟩
  opens secret hsecret := by
    obtain ⟨hbytes, hmessage⟩ := hsent.opens hsecret
    -- ten excluded edges at most : the text on a hexadecimal payee is short
    refine ⟨hbytes, fun hfits => hmessage (hfits.elim (fun hhex => ?_) id)⟩
    rw [← hdestination] at hhex
    exact length_encode_failureReport_lt hhex hbound reason cause.level
  category_eq := rfl
  level_eq := rfl
  message_eq payee hpayee := failureReport_of_hex (hdestination ▸ hpayee) _ _
  outcome_eq outcome houtcome := by
    cases cause <;> cases houtcome <;> exact ⟨rfl, rfl, rfl⟩
  error_eq e he := by
    cases cause <;> cases he
    exact ⟨hcause.reason_of_callFailed, _, rfl, rfl⟩

/-! ## Collaborators that differ in reports -/

/-- Both answer alike to all but reports, and both answer to these. -/
structure AlikeButReports {σ : Type} (answer answer' : Answering Collaborators σ) : Prop where
  alike : ∀ request state, Request.isReport request = false →
    answer request state = answer' request state
  answered : ∀ envelope state, (answer (.provider (.reportMessage envelope)) state).1.isSome ∧
    (answer' (.provider (.reportMessage envelope)) state).1.isSome

namespace AlikeButReports

variable {σ : Type} {answer answer' : Answering Collaborators σ}

theorem recording (h : AlikeButReports answer answer') :
    AlikeButReports (Program.recording answer) (Program.recording answer') where
  alike request state hrequest := by
    rw [Program.recording, h.alike request state.1 hrequest, Program.recording]
  answered envelope state := h.answered envelope state.1

/-- Programs that ask for no report do not tell them apart. -/
theorem run_eq {α : Type} {p : Program Collaborators α}
    (hp : InOrder (fun r => Request.isReport r = false) p) (h : AlikeButReports answer answer')
    (state : σ) : p.run answer state = p.run answer' state :=
  hp.run_eq answer answer' id (fun r hr state => h.alike r state hr) state

/-- What follows such a program ends alike if it does so from every state. -/
theorem run_bind_fst_eq {α β : Type} {p : Program Collaborators α} {f : α → Program Collaborators β}
    (hp : InOrder (fun r => Request.isReport r = false) p) (h : AlikeButReports answer answer')
    (hf : ∀ a state, ((f a).run answer state).1 = ((f a).run answer' state).1) (state : σ) :
    ((p.bind f).run answer state).1 = ((p.bind f).run answer' state).1 := by
  rw [run_bind, run_bind, h.run_eq hp]
  rcases p.run answer' state with ⟨_ | a, after⟩
  · rfl
  · exact hf a after

/-- So does what follows a request that is not a report. -/
theorem run_ask_fst_eq {α : Type} {request : Request} (hrequest : Request.isReport request = false)
    {next : request.Reply → Program Collaborators α} (h : AlikeButReports answer answer')
    (hnext : ∀ reply state, ((next reply).run answer state).1 = ((next reply).run answer' state).1)
    (state : σ) :
    (run answer (.ask request next) state).1 = (run answer' (.ask request next) state).1 :=
  h.run_bind_fst_eq (.ask hrequest .pure) hnext state

/-- The provider's word on a report is not heard. -/
theorem run_report_fst_eq {α : Type} (h : AlikeButReports answer answer')
    (envelope : Wire.Encrypted) (value : α) (state : σ) :
    (run answer (.ask (.provider (.reportMessage envelope)) fun _ => .pure value) state).1 =
      (run answer' (.ask (.provider (.reportMessage envelope)) fun _ => .pure value) state).1 := by
  obtain ⟨hanswered, hanswered'⟩ := h.answered envelope state
  rw [run, run]
  generalize answer (.provider (.reportMessage envelope)) state = given at hanswered ⊢
  generalize answer' (.provider (.reportMessage envelope)) state = given' at hanswered' ⊢
  obtain ⟨_ | reply, after⟩ := given
  · cases hanswered
  obtain ⟨_ | reply', after'⟩ := given'
  · cases hanswered'
  rfl

/-- A payment ends alike, whatever the provider says to the report. -/
theorem run_conclude_fst_eq (h : AlikeButReports answer answer') (job : PaymentJob)
    (settlement : Settlement) (state : σ) : ((job.conclude settlement).run answer state).1 =
      ((job.conclude settlement).run answer' state).1 := by
  obtain ⟨value, _ | note⟩ := settlement
  · rfl
  cases hkey : parsePublicKey job.terms.providerKey with
  | error e =>
    rw [PaymentJob.conclude_of_not_key (by rw [hkey]; exact fun _ => nofun)]
    rfl
  | ok providerKey =>
    -- both draw the same secrets, and what the provider answers after that is thrown away
    rw [PaymentJob.conclude_of_key hkey]
    refine h.run_ask_fst_eq rfl (fun ephemeral state => ?_) state
    refine h.run_ask_fst_eq rfl (fun nonce state => ?_) state
    exact h.run_report_fst_eq _ value state

theorem record_pay_fst_eq (h : AlikeButReports answer answer') (terms : Terms) (invoice : String)
    (feeLimitSat amountSat : Int64) (state : σ) :
    (record answer (pay terms invoice feeLimitSat amountSat).run state).1 =
      (record answer' (pay terms invoice feeLimitSat amountSat).run state).1 := by
  have hprepare : InOrder (fun r => Request.isReport r = false)
      (preparePayment terms invoice feeLimitSat amountSat).run :=
    @inOrder_preparePayment (fun r => Request.isReport r = false) (fun _ => rfl) rfl _ _ _ _
  unfold record
  rw [run_pay_eq]
  refine h.recording.run_bind_fst_eq hprepare (fun prepared state => ?_) (state, [])
  cases prepared with
  | error e => rfl
  | ok job =>
    exact h.recording.run_bind_fst_eq (job.inOrder_settle _ _)
      (h.recording.run_conclude_fst_eq job) state

end AlikeButReports

/-! ## Whole payments -/

/-- A payment that does not pass the first checks asks for neither a report nor a route, and sends
nothing. -/
theorem quiet_of_not_admitted {terms : Terms} {invoice : String} {feeLimitSat amountSat : Int64}
    {log : Transcript Collaborators} {result : Option (Except RouteError PaymentOutcome)}
    (h : Runs (pay terms invoice feeLimitSat amountSat).run log result)
    (hrefused : ∀ request, ¬Admitted invoice amountSat request log) :
    asked Request.isReport log = 0 ∧ asked Request.isRouteQuery log = 0 ∧
      asked Request.isSend log = 0 := by
  have hsilent {r : Option (Except RouteError PaymentJob)}
      (hprepare : Runs (preparePayment terms invoice feeLimitSat amountSat).run log r) :
      asked Request.isReport log = 0 ∧ asked Request.isRouteQuery log = 0 ∧
        asked Request.isSend log = 0 :=
    ⟨Nat.le_zero.1 (asksAtMost_preparePayment (fun _ => rfl) rfl _ _ _ _ log r hprepare),
      Nat.le_zero.1 (asksAtMost_preparePayment (fun _ => rfl) rfl _ _ _ _ log r hprepare),
      Nat.le_zero.1 (asksAtMost_preparePayment (fun _ => rfl) rfl _ _ _ _ log r hprepare)⟩
  rcases Action.runs_bind_cases h with
    ⟨job, part, rest, rfl, hprepare, -⟩ | ⟨e, hprepare, -⟩ | ⟨hprepare, -⟩
  · obtain ⟨request, hadmitted⟩ := exists_admitted hprepare rest
    exact absurd hadmitted (hrefused request)
  · exact hsilent hprepare
  · exact hsilent hprepare

section

variable {terms : Terms} {invoice : String} {feeLimitSat amountSat : Int64} {request : PayRequest}
  {log part tail : Transcript Collaborators} {result : Option (Except RouteError PaymentOutcome)}
  {job : PaymentJob} {settlement : Settlement} {providerKey : PublicKey}

/-- A payment of a decoded invoice is settled by the part of the run in front, and then ends. -/
structure Concluded (terms : Terms) (invoice : String) (request : PayRequest)
    (log : Transcript Collaborators) (result : Option (Except RouteError PaymentOutcome))
    (job : PaymentJob) (settlement : Settlement) (part tail : Transcript Collaborators) : Prop where
  log_eq : log = part ++ tail
  terms_eq : job.terms = terms
  invoice_eq : job.invoice = invoice
  paymentHash_eq : job.paymentHash = invoiceHash log
  destination_eq : job.request.destination = request.destination
  unreported : asked Request.isReport part = 0
  settled : job.Settled part settlement
  concludes : Runs (job.conclude settlement) tail result

/-- A payment that passes the first checks is settled before it is reported, unless it crashes. -/
theorem exists_concluded (h : Runs (pay terms invoice feeLimitSat amountSat).run log result)
    (hadmitted : Admitted invoice amountSat request log) :
    (result = none ∧ asked Request.isReport log = 0) ∨ ∃ job settlement part tail,
      Concluded terms invoice request log result job settlement part tail := by
  obtain ⟨job, front, rest, rfl, hprepare, hdestination⟩ := hadmitted.exists_job terms feeLimitSat
  obtain ⟨hterms, hinvoice, -, -⟩ := job_of_runs_preparePayment hprepare
  have hquiet : Quiet front :=
    Nat.le_zero.1 (asksAtMost_preparePayment (fun _ => rfl) rfl _ _ _ _ _ _ hprepare)
  have hunreported : asked Request.isReport front = 0 :=
    Nat.le_zero.1 (asksAtMost_preparePayment (fun _ => rfl) rfl _ _ _ _ _ _ hprepare)
  -- the job comes from the front of this very run, so the rest of it are the rounds
  have hrounds := Action.runs_of_runs_bind h hprepare
  rw [job.run_rounds_eq] at hrounds
  rcases PaymentJob.runs_settle_conclude_cases hquiet hrounds with
    ⟨rfl, hrest⟩ | ⟨settlement, mid, tail, rfl, hmid, hsettled, hconclude⟩
  · exact .inl ⟨rfl, by rw [asked_append, hunreported, hrest]⟩
  · exact .inr ⟨job, settlement, front ++ mid, tail, (List.append_assoc ..).symm, hterms, hinvoice,
      (invoiceHash_of_runs_preparePayment hprepare _).symm, hdestination,
      by rw [asked_append, hunreported, hmid], hsettled, hconclude⟩

namespace Concluded

variable (h : Concluded terms invoice request log result job settlement part tail)

include h

theorem reports_eq : asked Request.isReport log = asked Request.isReport tail := by
  rw [h.log_eq, asked_append, h.unreported, Nat.zero_add]

/-- Without a note there is no report. -/
theorem reports_of_none (hnote : settlement.note = none) : asked Request.isReport log = 0 := by
  have hend := h.concludes
  unfold PaymentJob.conclude at hend
  rw [hnote] at hend
  rw [h.reports_eq, (runs_pure_iff.1 hend).1, asked_nil]

theorem reports_of_not_key
    (hkey : ∀ providerKey, parsePublicKey terms.providerKey ≠ .ok providerKey) :
    asked Request.isReport log = 0 := by
  have hend := h.concludes
  rw [PaymentJob.conclude_of_not_key (h.terms_eq ▸ hkey)] at hend
  rw [h.reports_eq, (runs_pure_iff.1 hend).1, asked_nil]

/-- What succeeds is not reported. -/
theorem reports_of_success {outcome : PaymentOutcome} (hresult : result = some (.ok outcome))
    (hsuccess : outcome.isSuccess) : asked Request.isReport log = 0 := by
  subst hresult
  have hvalue := PaymentJob.value_of_runs_conclude h.concludes
  obtain hpaid | @⟨cause, reason, -, -⟩ := h.settled
  · exact h.reports_of_none rfl
  · cases cause <;> cases hvalue <;> cases hsuccess

/-- What does not is reported once, unless it crashes. -/
theorem reports_of_note {note : FailureNote} (hnote : settlement.note = some note)
    (hkey : parsePublicKey terms.providerKey = .ok providerKey) :
    (result = none ∧ asked Request.isReport log = 0) ∨
      ∃ sent : SentReport, sent.Tells terms (job.told note) ∧ tail = sent.exchanges := by
  obtain ⟨value, _⟩ := settlement
  obtain rfl := hnote
  have hcases := PaymentJob.runs_conclude_cases (h.terms_eq ▸ hkey) h.concludes
  rwa [h.terms_eq, ← h.reports_eq] at hcases

theorem reports_le_one : asked Request.isReport log ≤ 1 := by
  cases hnote : settlement.note with
  | none => exact (h.reports_of_none hnote).le.trans (Nat.zero_le 1)
  | some note =>
    by_cases hkey : ∃ providerKey, parsePublicKey terms.providerKey = .ok providerKey
    · obtain ⟨providerKey, hkey⟩ := hkey
      rcases h.reports_of_note hnote hkey with ⟨-, hnone⟩ | ⟨sent, -, htail⟩
      · exact hnone.le.trans (Nat.zero_le 1)
      · rw [h.reports_eq, htail, sent.asked_exchanges]
    · rw [h.reports_of_not_key (not_exists.1 hkey)]
      exact Nat.zero_le 1

/-- The report on a payment that has failed. -/
theorem exists_reported {value : Except RouteError PaymentOutcome} (hresult : result = some value)
    (hfailed : ∀ outcome, value = .ok outcome → ¬outcome.isSuccess)
    (hkey : parsePublicKey terms.providerKey = .ok providerKey) :
    asked Request.isReport log = 1 ∧ ∃ sent cause reason report, log = part ++ sent.exchanges ∧
      Reported terms invoice request (invoiceHash log) part cause reason value sent report := by
  subst hresult
  obtain rfl := PaymentJob.value_of_runs_conclude h.concludes
  rcases h.settled with ⟨-, -, hsuccess⟩ | @⟨cause, reason, hcause, hbound⟩
  · exact absurd hsuccess (hfailed _ rfl)
  rcases h.reports_of_note rfl hkey with ⟨hne, -⟩ | ⟨sent, htells, rfl⟩
  · cases hne
  have htold := PaymentJob.reported_of_tells (h.terms_eq ▸ hkey) h.destination_eq hcause hbound
    (h.terms_eq ▸ htells)
  rw [h.terms_eq, h.invoice_eq] at htold
  rw [← h.paymentHash_eq]
  exact ⟨h.reports_eq.trans sent.asked_exchanges, sent, cause, reason, _, h.log_eq, htold⟩

end Concluded

/-- A payment that passes the first checks and fails is reported, as the last thing it asks. -/
theorem reported_of_runs_pay {value : Except RouteError PaymentOutcome}
    (h : Runs (pay terms invoice feeLimitSat amountSat).run log result)
    (hadmitted : Admitted invoice amountSat request log)
    (hkey : parsePublicKey terms.providerKey = .ok providerKey) (hresult : result = some value)
    (hfailed : ∀ outcome, value = .ok outcome → ¬outcome.isSuccess) :
    asked Request.isReport log = 1 ∧ ∃ part sent cause reason report, log = part ++ sent.exchanges ∧
      Reported terms invoice request (invoiceHash log) part cause reason value sent report := by
  rcases exists_concluded h hadmitted with ⟨hcrash, -⟩ | ⟨job, settlement, part, tail, hconcluded⟩
  · cases hresult.symm.trans hcrash
  · obtain ⟨hone, htold⟩ := hconcluded.exists_reported hresult hfailed hkey
    exact ⟨hone, part, htold⟩

end

namespace Refused

/-- The report on a payment for which the provider has no route. -/
def sent : SentReport :=
  let report := Retried.job.told ⟨0, .noRoute, .notify⟩
  let drawn := sevenfold report
  { ephemeral := drawn.ephemeral
    nonce := drawn.nonce
    envelope := sealMessage ⟨Secp256k1.generator⟩ ⟨drawn.ephemeral, drawn.nonce.val⟩ report
    reply := some (.error (.transport "")) }

/-- A payment for which the provider has no route. -/
def log : Transcript Collaborators :=
  [⟨.node (.decodePayRequest "invoice"), some (.ok Retried.request)⟩, ⟨.now, some 0⟩] ++
    ((Retried.round "aa" "").queryExchanges ⟨Secp256k1.generator⟩ (Retried.job.query [])
      (some (.error (.transport ""))) ++ sent.exchanges)

theorem runs_pay : Runs (pay unitTerms "invoice" 10 1).run log
    (some (.ok ⟨"01", .failed, .noRoute, 0, 0⟩)) := by
  have hkey : parsePublicKey Retried.job.terms.providerKey = .ok ⟨Secp256k1.generator⟩ :=
    parsePublicKey_unitKey
  have hfind : Runs (findRoute Retried.job.terms (Retried.job.query [])).run _ _ :=
    (Retried.round "aa" "").runs_findRoute_of_refused hkey (.transport "")
  have hsent : sent.Tells Retried.job.terms (Retried.job.told ⟨0, .noRoute, .notify⟩) :=
    ⟨_, hkey, rfl⟩
  exact runs_pay_of_not_found Retried.runs_preparePayment hfind hsent rfl

end Refused

end LiquidityClient
