import LiquidityClient.Proofs.ExcludedEdges
import LiquidityClient.Proofs.PaymentRegistration

/-!
# Settled payments

The rounds of a payment settle what it ends with and what is reported of it (`PaymentJob.settle`);
the report comes after them (`PaymentJob.run_rounds_eq`). A payment is settled by what it has asked
: its last send went through, or it is given up for one of four causes (`GaveUp`). The rounds show
this by what they count (`PaymentJob.settled_of_runs_settle`), and the last exchange tells which
cause it is (`GaveUp.unique`). `Admitted` says what a payment must see to get past its first checks,
which depends on the first two answers alone (`admitted_record_iff`).
-/

namespace LiquidityClient

open Program

/-! ## Settlements -/

/-- What the report on a payment that failed tells. -/
structure FailureNote where
  excluded : Nat
  reason : FailureReason
  level : Wire.ReportLevel
  deriving DecidableEq, Repr

/-- What the rounds of a payment lead to : the value that it ends with and, if it failed, what is
reported. -/
structure Settlement where
  value : Except RouteError PaymentOutcome
  note : Option FailureNote

namespace PaymentJob

variable (job : PaymentJob)

/-- The settlement of a payment that is given up. -/
def lost (progress : PaymentProgress) : Settlement where
  value := .ok (progress.failure job.request)
  note := some ⟨progress.excluded.length, progress.reason, progress.level⟩

/-- Settles a payment after a send, or starts again by `retry` with the failed edge excluded. -/
def settleSend (progress : PaymentProgress)
    (retry : PaymentProgress → Program Collaborators Settlement) :
    Except Fault SendOutcome → Program Collaborators Settlement
  | .error cause =>
    .pure ⟨.error (.fault cause), some ⟨progress.excluded.length, .error, .normal⟩⟩
  | .ok .succeeded => .pure ⟨.ok (progress.success job.request), none⟩
  | .ok (.failed reason none) => .pure (job.lost { progress with reason, level := .normal })
  | .ok (.failed reason (some edge)) =>
    retry { progress with excluded := progress.excluded ++ [edge], reason, level := .notify }

/-- The rounds that are left, without the report. -/
def settle : Nat → PaymentProgress → Program Collaborators Settlement
  | 0, progress => .pure (job.lost progress)
  | remaining + 1, progress =>
    (findRoute job.terms (job.query progress.excluded)).run.bind fun
      | .error _ => .pure (job.lost { progress with reason := .noRoute, level := .notify })
      | .ok route =>
        (sendRoute job.paymentHash route).run.bind
          (job.settleSend { progress with attempts := progress.attempts + 1 } (settle remaining))

/-- The report on a payment with this note. -/
def report (note : FailureNote) : Action RouteError Unit :=
  sendReport job.terms reportCategory note.level
    (failureReport job.request note.excluded note.reason)

/-- Reports a settled payment, if it failed, and ends it whether or not the report arrives. -/
def conclude (settlement : Settlement) : Program Collaborators (Except RouteError PaymentOutcome) :=
  match settlement.note with
  | none => .pure settlement.value
  | some note => (job.report note).run.bind fun _ => .pure settlement.value

end PaymentJob

/-! ## The report comes last -/

/-- A report goes before what follows it, and does not change it. -/
theorem run_reportFailure_bind {α : Type} (terms : Terms) (request : PayRequest) (excluded : Nat)
    (reason : FailureReason) (level : Wire.ReportLevel) (x : Action RouteError α) :
    (reportFailure terms request excluded reason level >>= fun _ => x).run =
      (sendReport terms reportCategory level (failureReport request excluded reason)).run.bind
        fun _ => x.run := by
  unfold reportFailure
  rw [LawfulMonad.bind_assoc, Action.run_outcome_bind]
  rfl

namespace PaymentJob

variable (job : PaymentJob)

theorem run_giveUp (progress : PaymentProgress) :
    (job.giveUp progress).run = job.conclude (job.lost progress) :=
  run_reportFailure_bind _ _ _ _ _ _

theorem run_afterSend {progress : PaymentProgress}
    {retry : PaymentProgress → Action RouteError PaymentOutcome}
    {settleRest : PaymentProgress → Program Collaborators Settlement}
    (hretry : ∀ progress, (retry progress).run = (settleRest progress).bind job.conclude)
    (sent : Except Fault SendOutcome) :
    (job.afterSend progress retry sent).run =
      (job.settleSend progress settleRest sent).bind job.conclude := by
  rcases sent with cause | (_ | ⟨reason, _ | edge⟩)
  · exact run_reportFailure_bind _ _ _ _ _ _
  · rfl
  · exact job.run_giveUp _
  · exact hretry _

/-- The rounds of a payment settle it, and then it is reported if it failed. -/
theorem run_rounds_eq (remaining : Nat) (progress : PaymentProgress) :
    (job.rounds remaining progress).run = (job.settle remaining progress).bind job.conclude := by
  induction remaining generalizing progress with
  | zero => exact job.run_giveUp progress
  | succ remaining ih =>
    unfold rounds settle
    rw [Action.run_outcome_bind, bind_assoc]
    refine congrArg (Program.bind _) (funext fun found => ?_)
    cases found with
    | error cause => exact job.run_giveUp _
    | ok route =>
      dsimp only
      rw [Action.run_outcome_bind, bind_assoc]
      exact congrArg (Program.bind _) (funext fun sent => job.run_afterSend ih sent)

end PaymentJob

/-! ## Why a payment is given up -/

/-- What ends a payment that does not succeed. -/
inductive GiveUpCause where
  /-- No route could be built. -/
  | noRoute
  | roundsSpent
  /-- A call of the node failed. -/
  | callFailed (cause : Fault)
  /-- The node's record names no edge. -/
  | unattributed
  deriving DecidableEq, Repr

namespace GiveUpCause

/-- The level at which the provider is told. -/
def level : GiveUpCause → Wire.ReportLevel
  | .noRoute => .notify
  | .roundsSpent => .notify
  | .callFailed _ => .normal
  | .unattributed => .normal

/-- What the payment ends with : the failed call, or else its failure. -/
def value (failure : PaymentOutcome) : GiveUpCause → Except RouteError PaymentOutcome
  | .callFailed cause => .error (.fault cause)
  | _ => .ok failure

end GiveUpCause

/-- By what it has asked, a payment is given up for this cause, and its last failure has this
reason. -/
inductive GaveUp (terms : Terms) (invoice : String) (paymentHash : Bytes)
    (log : Transcript Collaborators) : GiveUpCause → FailureReason → Prop
  | noRoute {before search : Transcript Collaborators} {query : RouteQuery} {e : RouteError}
      (hlog : log = before ++ search) (hinvoice : query.invoice = invoice)
      (hsearch : Runs (findRoute terms query).run search (some (.error e))) :
      GaveUp terms invoice paymentHash log .noRoute .noRoute
  | roundsSpent {before : Transcript Collaborators} {payments : List Payment} {edge : Edge}
      (hlog : log = before ++ [.recordOf (some (.ok payments))])
      (hblames : Blames paymentHash payments edge) (hsends : asked Request.isSend log = maxRounds) :
      GaveUp terms invoice paymentHash log .roundsSpent (recordedReason paymentHash payments)
  | sendFailed {before : Transcript Collaborators} {route : Route} {cause : Fault}
      (hlog : log = before ++ [.sending paymentHash route (some (.error cause))]) :
      GaveUp terms invoice paymentHash log (.callFailed cause) .error
  | recordFailed {before : Transcript Collaborators} {cause : Fault}
      (hlog : log = before ++ [.recordOf (some (.error cause))]) :
      GaveUp terms invoice paymentHash log (.callFailed cause) .error
  | unattributed {before : Transcript Collaborators} {payments : List Payment}
      (hlog : log = before ++ [.recordOf (some (.ok payments))])
      (hunattributed : Unattributed paymentHash payments) :
      GaveUp terms invoice paymentHash log .unattributed (recordedReason paymentHash payments)

/-- The failure of a payment that has asked this. -/
def failureAfter (request : PayRequest) (paymentHash : Bytes) (log : Transcript Collaborators)
    (reason : FailureReason) : PaymentOutcome where
  paymentHash := request.paymentHash
  status := .failed
  failureReason := reason
  excludedPairs := blames paymentHash log
  attempts := asked Request.isSend log

/-- The note on a payment that has asked this. -/
def noteAfter (paymentHash : Bytes) (log : Transcript Collaborators) (cause : GiveUpCause)
    (reason : FailureReason) : FailureNote where
  excluded := blames paymentHash log
  reason
  level := cause.level

namespace PaymentJob

variable (job : PaymentJob)

/-- A payment that has asked this is settled so : its last send went through, or it is given up. -/
inductive Settled (log : Transcript Collaborators) : Settlement → Prop
  | paid {before : Transcript Collaborators} {route : Route} {sent : SendResult}
      {outcome : PaymentOutcome}
      (hlog : log = before ++ [.sending job.paymentHash route (some (.ok sent))])
      (hsent : sent.paymentError = "") (hsuccess : outcome.isSuccess) :
      Settled log ⟨.ok outcome, none⟩
  | lost {cause : GiveUpCause} {reason : FailureReason}
      (hcause : GaveUp job.terms job.invoice job.paymentHash log cause reason)
      (hbound : blames job.paymentHash log ≤ maxRounds) :
      Settled log ⟨cause.value (failureAfter job.request job.paymentHash log reason),
        some (noteAfter job.paymentHash log cause reason)⟩

/-- Between two rounds the progress of a payment counts what it has asked so far : each send has
failed at an edge. -/
structure Counted (log : Transcript Collaborators) (progress : PaymentProgress) : Prop where
  excluded_eq : progress.excluded.length = blames job.paymentHash log
  attempts_eq : progress.attempts = asked Request.isSend log
  excluded_eq_attempts : progress.excluded.length = progress.attempts

/-- A payment is under way : it has asked this, and its level and reason are those of the last send,
if there is one. -/
structure Underway (log : Transcript Collaborators) (progress : PaymentProgress) : Prop extends
    Counted job log progress where
  last : progress.attempts ≠ 0 → progress.level = .notify ∧
    ∃ before payments edge, log = before ++ [.recordOf (some (.ok payments))] ∧
      Blames job.paymentHash payments edge ∧
      progress.reason = recordedReason job.paymentHash payments

variable {job} {before log : Transcript Collaborators} {progress : PaymentProgress}
  {settlement : Settlement}

/-- A quiet part does not count. -/
theorem Counted.append_quiet (h : job.Counted before progress) (hquiet : Quiet log) :
    job.Counted (before ++ log) progress where
  excluded_eq := by
    rw [blames_append, hquiet.blames_eq]
    exact h.excluded_eq
  attempts_eq := by
    rw [asked_append, hquiet.sends_eq]
    exact h.attempts_eq
  excluded_eq_attempts := h.excluded_eq_attempts

/-- Giving up settles a payment by what it has asked. -/
theorem Settled.of_lost {cause : GiveUpCause} {reason : FailureReason}
    (hcause : GaveUp job.terms job.invoice job.paymentHash log cause reason)
    (hvalue : ∀ failure, cause.value failure = .ok failure)
    (hexcluded : progress.excluded.length = blames job.paymentHash log)
    (hattempts : progress.attempts = asked Request.isSend log)
    (hbound : progress.excluded.length ≤ maxRounds) (hreason : progress.reason = reason)
    (hlevel : progress.level = cause.level) : job.Settled log (job.lost progress) := by
  have hsettled : job.Settled log _ := .lost hcause (hexcluded ▸ hbound)
  rw [hvalue] at hsettled
  unfold PaymentJob.lost PaymentProgress.failure
  rw [hexcluded, hattempts, hreason, hlevel]
  exact hsettled

/-- A send of which a call fails settles the payment. -/
theorem Settled.of_call {route : Route} {send : Transcript Collaborators} {cause : Fault}
    (hcounted : job.Counted before progress) (hattempts : progress.attempts ≤ maxRounds)
    (hsend : SendRun job.paymentHash route send (some (.error cause))) :
    job.Settled (before ++ send)
      ⟨.error (.fault cause), some ⟨progress.excluded.length, .error, .normal⟩⟩ := by
  have hexcluded : progress.excluded.length = blames job.paymentHash (before ++ send) := by
    rw [blames_append, (failedSend_of_run hsend nofun nofun).blames_eq]
    exact hcounted.excluded_eq
  have hbound : progress.excluded.length ≤ maxRounds :=
    hcounted.excluded_eq_attempts.le.trans hattempts
  rw [hexcluded] at hbound ⊢
  suffices hcause : GaveUp job.terms job.invoice job.paymentHash (before ++ send)
      (.callFailed cause) .error from .lost hcause hbound
  cases hsend with
  | sendFailed => exact .sendFailed rfl
  | recordFailed sent => exact .recordFailed (List.append_cons ..)

/-- A send that fails without an edge settles the payment. -/
theorem Settled.of_unattributed {route : Route} {send : Transcript Collaborators}
    {reason : FailureReason} (hcounted : job.Counted before progress)
    (hattempts : progress.attempts ≤ maxRounds)
    (hsend : SendRun job.paymentHash route send (some (.ok (.failed reason none)))) :
    job.Settled (before ++ send) (job.lost
      { progress with attempts := progress.attempts + 1, reason, level := .normal }) := by
  have hfailed := failedSend_of_run hsend nofun (by simp)
  obtain ⟨result, payments, -, rfl, hblame, hlog⟩ := hsend.failed_cases
  have hunattributed : Unattributed job.paymentHash payments :=
    unattributed_iff.2 fun ⟨edge, hblames⟩ => by
      rw [blamedEdge?_eq_some_iff.2 hblames] at hblame
      cases hblame
  have hlast : before ++ send = (before ++ [.sending job.paymentHash route (some (.ok result))]) ++
      [.recordOf (some (.ok payments))] := by
    rw [hlog]
    exact List.append_cons ..
  refine .of_lost (.unattributed hlast hunattributed) (fun _ => rfl) ?_ ?_
    (hcounted.excluded_eq_attempts.le.trans hattempts) rfl rfl
  · rw [blames_append, hfailed.blames_eq]
    exact hcounted.excluded_eq
  · rw [asked_append, hfailed.sends_eq]
    exact congrArg (· + 1) hcounted.attempts_eq

/-- A send that fails at an edge leaves the payment under way. -/
theorem Underway.of_blame {route : Route} {send : Transcript Collaborators}
    {reason : FailureReason} {edge : Edge} (hcounted : job.Counted before progress)
    (hsend : SendRun job.paymentHash route send (some (.ok (.failed reason (some edge))))) :
    job.Underway (before ++ send)
      { progress with
        attempts := progress.attempts + 1
        excluded := progress.excluded ++ [edge]
        reason
        level := .notify } := by
  obtain ⟨result, payments, -, rfl, hblame, rfl⟩ := hsend.failed_cases
  have hone : blames job.paymentHash [.sending job.paymentHash route (some (.ok result)),
      .recordOf (some (.ok payments))] = 1 := by
    simp [blames, Exchange.isBlame, hblame]
  refine ⟨⟨?_, ?_, ?_⟩, fun _ => ⟨rfl, _, payments, edge, List.append_cons ..,
    blamedEdge?_eq_some_iff.1 hblame, rfl⟩⟩
  · rw [blames_append, hone, List.length_append, hcounted.excluded_eq]
    rfl
  · rw [asked_append, hcounted.attempts_eq]
    rfl
  · rw [List.length_append, hcounted.excluded_eq_attempts]
    rfl

/-- Any number of rounds settle a payment that is under way by what it has asked in all. -/
theorem settled_of_runs_settle (remaining : Nat) (hunderway : job.Underway before progress)
    (hrounds : progress.attempts + remaining = maxRounds)
    (h : Runs (job.settle remaining progress) log (some settlement)) :
    job.Settled (before ++ log) settlement := by
  -- Rounds and sends add up to ten, so that the last round is spent only after a send, and this
  -- send failed at an edge.
  have hattempts : progress.attempts ≤ maxRounds := hrounds ▸ Nat.le_add_right _ _
  induction remaining generalizing before progress log with
  | zero =>
    obtain ⟨rfl, hvalue⟩ := runs_pure_iff.1 h
    cases hvalue
    rw [List.append_nil]
    have hsends : progress.attempts = maxRounds := hrounds
    obtain ⟨hlevel, front, payments, edge, hlog, hblames, hreason⟩ :=
      hunderway.last (by rw [hsends]; decide)
    exact .of_lost (.roundsSpent hlog hblames (hunderway.attempts_eq ▸ hsends)) (fun _ => rfl)
      hunderway.excluded_eq hunderway.attempts_eq
      (hunderway.excluded_eq_attempts.le.trans hattempts) hreason hlevel
  | succ remaining ih =>
    obtain ⟨found, search, rest, rfl, hfind, hrest⟩ := runs_bind_some_iff.1 h
    have hcounted := hunderway.toCounted.append_quiet (quiet_of_runs_findRoute hfind)
    cases found with
    | error e =>
      obtain ⟨rfl, hvalue⟩ := runs_pure_iff.1 hrest
      cases hvalue
      rw [List.append_nil]
      exact .of_lost (.noRoute rfl rfl hfind) (fun _ => rfl) hcounted.excluded_eq
        hcounted.attempts_eq (hcounted.excluded_eq_attempts.le.trans hattempts) rfl rfl
    | ok route =>
      obtain ⟨sent, send, log', rfl, hsend, hend⟩ := runs_bind_some_iff.1 hrest
      have hrun := sendRun_of_runs hsend
      rw [← List.append_assoc, ← List.append_assoc]
      rcases sent with cause | (_ | ⟨reason, _ | edge⟩)
      · obtain ⟨rfl, hvalue⟩ := runs_pure_iff.1 hend
        cases hvalue
        rw [List.append_nil]
        have hsettled := Settled.of_call hcounted hattempts hrun
        exact hsettled
      · obtain ⟨rfl, hvalue⟩ := runs_pure_iff.1 hend
        cases hvalue
        obtain ⟨result, hpaid, rfl⟩ := hrun.succeeded_cases
        rw [List.append_nil]
        exact .paid rfl hpaid rfl
      · obtain ⟨rfl, hvalue⟩ := runs_pure_iff.1 hend
        cases hvalue
        rw [List.append_nil]
        have hsettled := Settled.of_unattributed hcounted hattempts hrun
        exact hsettled
      · -- the only send that lets the rounds go on
        refine ih (.of_blame hcounted hrun) ?_ hend ?_ <;> dsimp only <;> omega

end PaymentJob

/-! ## The last exchange tells the cause -/

section

variable {terms : Terms} {invoice : String} {paymentHash : Bytes} {log : Transcript Collaborators}
  {providerKey : PublicKey}

/-- The cause for which a payment is given up, and the reason of its last failure, by the last
exchange before. -/
def GiveUpCause.ofLast (paymentHash : Bytes) : Exchange Collaborators → GiveUpCause × FailureReason
  | ⟨.node (.sendToRoute _ _), some (.error cause)⟩ => (.callFailed cause, .error)
  | ⟨.node .listPayments, some (.error cause)⟩ => (.callFailed cause, .error)
  | ⟨.node .listPayments, some (.ok payments)⟩ =>
    (if (blamedEdge? paymentHash payments).isSome then .roundsSpent else .unattributed,
      recordedReason paymentHash payments)
  | _ => (.noRoute, .noRoute)

theorem GiveUpCause.ofLast_of_quiet {e : Exchange Collaborators}
    (h : Request.isSendOrRecord e.request = false) :
    ofLast paymentHash e = (.noRoute, .noRoute) := by
  unfold ofLast
  split
  · cases h
  · cases h
  · cases h
  · rfl

/-- A search for a route asks something, if the provider's key is one. -/
theorem ne_nil_of_runs_findRoute {query : RouteQuery} {result : Option (Except RouteError Route)}
    (hkey : parsePublicKey terms.providerKey = .ok providerKey)
    (h : Runs (findRoute terms query).run log result) : log ≠ [] := by
  change Runs ((requestRoute terms query).run.bind _) log result at h
  rw [run_requestRoute, hkey] at h
  rcases h.ask_cases with ⟨reply, rest, rfl, -⟩ | ⟨rfl, -⟩ <;> exact List.cons_ne_nil _ _

theorem GaveUp.exists_last {cause : GiveUpCause} {reason : FailureReason}
    (hkey : parsePublicKey terms.providerKey = .ok providerKey)
    (h : GaveUp terms invoice paymentHash log cause reason) :
    ∃ before last, log = before ++ [last] ∧
      GiveUpCause.ofLast paymentHash last = (cause, reason) := by
  cases h with
  | @noRoute before search query e hlog hinvoice hsearch =>
    -- with a key of the provider the search has asked something, and nothing of it is a send
    rcases List.eq_nil_or_concat search with rfl | ⟨front, last, rfl⟩
    · exact absurd rfl (ne_nil_of_runs_findRoute hkey hsearch)
    · rw [List.concat_eq_append] at hlog hsearch
      have hquiet := (quiet_of_runs_findRoute hsearch).silent_of_mem (e := last) (by simp)
      exact ⟨before ++ front, last, by rw [hlog, List.append_assoc],
        GiveUpCause.ofLast_of_quiet hquiet⟩
  | roundsSpent hlog hblames hsends =>
    refine ⟨_, _, hlog, ?_⟩
    simp [GiveUpCause.ofLast, blamedEdge?_eq_some_iff.2 hblames]
  | sendFailed hlog => exact ⟨_, _, hlog, rfl⟩
  | recordFailed hlog => exact ⟨_, _, hlog, rfl⟩
  | unattributed hlog hunattributed =>
    refine ⟨_, _, hlog, ?_⟩
    have hnone : ¬(blamedEdge? paymentHash _).isSome := fun hsome => by
      obtain ⟨edge, hblame⟩ := Option.isSome_iff_exists.1 hsome
      exact unattributed_iff.1 hunattributed ⟨edge, blamedEdge?_eq_some_iff.1 hblame⟩
    simp [GiveUpCause.ofLast, hnone]

/-- What was asked tells one cause and one reason. -/
theorem GaveUp.unique {cause cause' : GiveUpCause} {reason reason' : FailureReason}
    (hkey : parsePublicKey terms.providerKey = .ok providerKey)
    (h : GaveUp terms invoice paymentHash log cause reason)
    (h' : GaveUp terms invoice paymentHash log cause' reason') :
    cause' = cause ∧ reason' = reason := by
  obtain ⟨before, last, rfl, hlast⟩ := h.exists_last hkey
  obtain ⟨before', last', hlog, hlast'⟩ := h'.exists_last hkey
  obtain ⟨-, hsame⟩ := List.append_inj' hlog rfl
  cases hsame
  exact Prod.mk.inj (hlast'.symm.trans hlast)

end

/-! ## The first checks -/

section

variable {terms : Terms} {invoice : String} {feeLimitSat amountSat : Int64}
  {log part : Transcript Collaborators} {request : PayRequest}

/-- The payment passes the first checks : the invoice is decoded and not expired, the given amount
fits in millisatoshis if it counts, and the payment hash is hexadecimal. -/
structure Admitted (invoice : String) (amountSat : Int64) (request : PayRequest)
    (log : Transcript Collaborators) : Prop where
  opening : ∃ now, now ≤ request.timestamp + request.expiry ∧
    [⟨.node (.decodePayRequest invoice), some (.ok request)⟩, ⟨.now, some now⟩] <+: log
  amount_fits : request.amountMsat = 0 → Word.IsInt64 (1000 * amountSat.toInt)
  hash_isHex : Hex.isHex request.paymentHash

theorem withAmount_isOk_iff : (∃ request', request.withAmount amountSat = .ok request') ↔
    (request.amountMsat = 0 → Word.IsInt64 (1000 * amountSat.toInt)) := by
  simp only [withAmount_eq_ok_iff]
  constructor
  · rintro ⟨request', ⟨hnamed, -⟩ | ⟨-, amountMsat, hmsat, -⟩⟩ hnone
    · exact absurd hnone hnamed
    · exact (toMsat_eq_ok_iff.1 hmsat).1
  · intro hfits
    by_cases hnamed : request.amountMsat = 0
    · have hmsat := toMsat_eq_ok_iff.2 ⟨hfits hnamed,
        Int64.toInt_ofInt_of_le (hfits hnamed).1 (hfits hnamed).2⟩
      exact ⟨_, .inr ⟨hnamed, _, hmsat, rfl⟩⟩
    · exact ⟨request, .inl ⟨hnamed, rfl⟩⟩

theorem destination_of_withAmount {request' : PayRequest}
    (h : request.withAmount amountSat = .ok request') :
    request'.destination = request.destination := by
  rcases withAmount_eq_ok_iff.1 h with ⟨-, rfl⟩ | ⟨-, _, -, rfl⟩ <;> rfl

/-- An invoice that is in time, with an amount that fits and a hexadecimal hash, becomes a job for
its payee. -/
theorem exists_runs_preparePayment {now : Int64}
    (hunexpired : now ≤ request.timestamp + request.expiry)
    (hfits : request.amountMsat = 0 → Word.IsInt64 (1000 * amountSat.toInt))
    (hhex : Hex.isHex request.paymentHash) (terms : Terms) (feeLimitSat : Int64) :
    ∃ job, Runs (preparePayment terms invoice feeLimitSat amountSat).run
        [⟨.node (.decodePayRequest invoice), some (.ok request)⟩, ⟨.now, some now⟩]
        (some (.ok job)) ∧
      job.request.destination = request.destination := by
  obtain ⟨request', hamount⟩ := withAmount_isOk_iff.2 hfits
  obtain ⟨paymentHash, hhash⟩ := Hex.isHex_eq_true_iff.1 hhex
  rw [← paymentHash_of_withAmount hamount] at hhash
  exact ⟨_, runs_preparePayment_ok_iff.2
    ⟨request, now, request', paymentHash, rfl, hunexpired, hamount, hhash, rfl⟩,
    destination_of_withAmount hamount⟩

/-- So a payment that passes the first checks becomes one. -/
theorem Admitted.exists_job (h : Admitted invoice amountSat request log) (terms : Terms)
    (feeLimitSat : Int64) : ∃ job part rest, log = part ++ rest ∧
      Runs (preparePayment terms invoice feeLimitSat amountSat).run part (some (.ok job)) ∧
      job.request.destination = request.destination := by
  obtain ⟨⟨now, hunexpired, rest, rfl⟩, hfits, hhex⟩ := h
  obtain ⟨job, hprepare, hpayee⟩ :=
    exists_runs_preparePayment hunexpired hfits hhex terms feeLimitSat
  exact ⟨job, _, rest, rfl, hprepare, hpayee⟩

theorem exists_admitted {job : PaymentJob}
    (h : Runs (preparePayment terms invoice feeLimitSat amountSat).run part (some (.ok job)))
    (rest : Transcript Collaborators) :
    ∃ request, Admitted invoice amountSat request (part ++ rest) := by
  obtain ⟨request, now, request', paymentHash, rfl, hunexpired, hamount, hhash, -⟩ :=
    runs_preparePayment_ok_iff.1 h
  rw [paymentHash_of_withAmount hamount] at hhash
  exact ⟨request, ⟨now, hunexpired, List.prefix_append _ _⟩,
    withAmount_isOk_iff.1 ⟨request', hamount⟩, Hex.isHex_eq_true_iff.2 ⟨_, hhash⟩⟩

/-- It depends on the first two answers whether a payment passes the first checks : the invoice that
the node decodes, and the time. -/
theorem admitted_record_iff {σ : Type} {answer : Answering Collaborators σ} {state : σ} :
    Admitted invoice amountSat request
        (record answer (pay terms invoice feeLimitSat amountSat).run state).2 ↔
      (∃ now, now ≤ request.timestamp + request.expiry ∧
        Gives answer [⟨.node (.decodePayRequest invoice), some (.ok request)⟩, ⟨.now, some now⟩]
          state) ∧
      (request.amountMsat = 0 → Word.IsInt64 (1000 * amountSat.toInt)) ∧
      Hex.isHex request.paymentHash := by
  constructor
  · rintro ⟨⟨now, hunexpired, hopening⟩, hfits, hhex⟩
    exact ⟨⟨now, hunexpired, (gives_record answer _ state).mono hopening⟩, hfits, hhex⟩
  · rintro ⟨⟨now, hunexpired, hgives⟩, hfits, hhex⟩
    obtain ⟨job, hprepare, -⟩ :=
      exists_runs_preparePayment hunexpired hfits hhex terms feeLimitSat
    exact ⟨⟨now, hunexpired, hprepare.prefix_record_bind_iff.2 hgives⟩, hfits, hhex⟩

end

end LiquidityClient
