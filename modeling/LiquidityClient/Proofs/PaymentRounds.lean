import LiquidityClient.Proofs.AnsweredPayments

/-!
# The rounds of a payment

Whatever the provider and the node answer, a payment looks for a route and sends at most ten times,
and sends nothing more once a round has ended it : a payment that went through, a call of the node
that failed, or a failure that names no edge. `RoundsRun` says what any number of rounds ask and end
with, and `pay_transcript` says it of a whole payment, read off its transcript.
-/

namespace LiquidityClient

open Program

/-! ## What a payment asks -/

namespace Request

/-- Is the provider asked for a route? -/
def isRouteQuery : Request → Bool
  | .provider (.queryRoutes _) => true
  | _ => false

/-- Is a payment sent over a route? -/
def isSend : Request → Bool
  | .node (.sendToRoute _ _) => true
  | _ => false

/-- Is it a send, or the look at the node's record that can follow one? -/
def isSendOrRecord : Request → Bool
  | .node (.sendToRoute _ _) => true
  | .node .listPayments => true
  | _ => false

end Request

/-- The edge at which the payment with this hash failed, by the node's record. -/
def blamedEdge? (paymentHash : Bytes) (payments : List Payment) : Option Edge :=
  match payments.find? fun p => p.paymentHash = Hex.encode paymentHash with
  | none => none
  | some payment => if payment.failureReason = .none then none else payment.failingEdge?

namespace Exchange

/-- A payment is sent over a route. -/
abbrev sending (paymentHash : Bytes) (route : Route) (reply : Option (Except Fault SendResult)) :
    Exchange Collaborators :=
  ⟨.node (.sendToRoute paymentHash route), reply⟩

/-- The node's record of payments is looked at. -/
abbrev recordOf (reply : Option (Except Fault (List Payment))) : Exchange Collaborators :=
  ⟨.node .listPayments, reply⟩

/-- Did a payment go through? -/
def isPaid : Exchange Collaborators → Bool
  | ⟨.node (.sendToRoute _ _), some (.ok result)⟩ => result.paymentError = ""
  | _ => false

/-- Does the node's record name the edge at which the payment with this hash failed? -/
def isBlame (paymentHash : Bytes) : Exchange Collaborators → Bool
  | ⟨.node .listPayments, some (.ok payments)⟩ => (blamedEdge? paymentHash payments).isSome
  | _ => false

/-- Does it end the payment with this hash : did the payment go through, did a call fail, or does
the node's record name no edge? -/
def isFinal (paymentHash : Bytes) : Exchange Collaborators → Bool
  | ⟨.node (.sendToRoute _ _), some (.ok result)⟩ => result.paymentError = ""
  | ⟨.node (.sendToRoute _ _), some (.error _)⟩ => true
  | ⟨.node .listPayments, some (.ok payments)⟩ => (blamedEdge? paymentHash payments).isNone
  | ⟨.node .listPayments, some (.error _)⟩ => true
  | _ => false

/-- The hash of the payment that a decoded invoice asks for. -/
def invoiceHash? : Exchange Collaborators → Option Bytes
  | ⟨.node (.decodePayRequest _), some (.ok request)⟩ => (Hex.decode request.paymentHash).toOption
  | _ => none

/-- An exchange that is neither a send nor a look at the node's record tells nothing of a
payment. -/
theorem silent {e : Exchange Collaborators} (h : Request.isSendOrRecord e.request = false)
    (paymentHash : Bytes) : e.isPaid = false ∧ e.isBlame paymentHash = false ∧
      e.isFinal paymentHash = false ∧ Request.isSend e.request = false := by
  rcases e with ⟨request, reply⟩
  rcases request with _ | request | _ | _ | _ | _ | _
  case node => cases request <;> first | exact ⟨rfl, rfl, rfl, rfl⟩ | cases h
  all_goals exact ⟨rfl, rfl, rfl, rfl⟩

end Exchange

/-- The hash of the payment in the first invoice that was decoded. -/
def invoiceHash (log : Transcript Collaborators) : Bytes :=
  (log.findSome? Exchange.invoiceHash?).getD []

/-- The number of failures of the payment with this hash for which the node's record names an
edge. -/
def blames (paymentHash : Bytes) (log : Transcript Collaborators) : Nat :=
  log.countP fun e => e.isBlame paymentHash

theorem blames_append (paymentHash : Bytes) (log₁ log₂ : Transcript Collaborators) :
    blames paymentHash (log₁ ++ log₂) = blames paymentHash log₁ + blames paymentHash log₂ :=
  List.countP_append

/-- A part of a run in which no payment is sent, and the node's record is not looked at. -/
def Quiet (log : Transcript Collaborators) : Prop :=
  asked Request.isSendOrRecord log = 0

namespace Quiet

variable {log : Transcript Collaborators} {e : Exchange Collaborators}

theorem silent_of_mem (h : Quiet log) (he : e ∈ log) :
    Request.isSendOrRecord e.request = false := by
  simpa using List.countP_eq_zero.1 h e he

theorem sends_eq (h : Quiet log) : asked Request.isSend log = 0 :=
  List.countP_eq_zero.2 fun e he => by simp [(Exchange.silent (h.silent_of_mem he) []).2.2.2]

theorem blames_eq (h : Quiet log) (paymentHash : Bytes) : blames paymentHash log = 0 :=
  List.countP_eq_zero.2 fun e he => by simp [(Exchange.silent (h.silent_of_mem he) paymentHash).2.1]

theorem not_paid (h : Quiet log) (he : e ∈ log) : e.isPaid = false :=
  (Exchange.silent (h.silent_of_mem he) []).1

theorem not_final (h : Quiet log) (he : e ∈ log) (paymentHash : Bytes) :
    e.isFinal paymentHash = false :=
  (Exchange.silent (h.silent_of_mem he) paymentHash).2.2.1

end Quiet

/-! ## The parts of a round -/

section Parts

variable {allowed : Request → Prop} {kind : Request → Bool}

/-- A message is sealed for the provider and sent, and the reply decides how the action goes on. -/
theorem inOrder_sealedCall_bind {ε α β : Type} [Wire.Message α] (hkey : allowed .freshKey)
    (hbytes : ∀ count, allowed (.freshBytes count)) {recipient : PublicKey} {message : α}
    {request : Wire.Encrypted → ProviderRequest} {wrap : Fault → ε}
    {next : (envelope : Wire.Encrypted) → (request envelope).Answer → Action ε β}
    (hrequest : ∀ envelope, allowed (.provider (request envelope)))
    (hnext : ∀ envelope reply, InOrder allowed (next envelope reply).run) :
    InOrder allowed (sealFresh recipient message >>= fun envelope =>
      Action.mapError wrap (Action.provider (request envelope)) >>= next envelope).run :=
  Action.inOrder_bind (inOrder_sealFresh hkey hbytes) fun envelope =>
    Action.inOrder_bind (Action.inOrder_mapError (Action.inOrder_provider (hrequest envelope)))
      (hnext envelope)

theorem inOrder_findRoute (hkey : allowed .freshKey) (hbytes : ∀ count, allowed (.freshBytes count))
    (hquery : ∀ envelope, allowed (.provider (.queryRoutes envelope)))
    (hchannels : allowed (.node .listChannels)) (terms : Terms) (query : RouteQuery) :
    InOrder allowed (findRoute terms query).run := by
  unfold findRoute requestRoute
  refine Action.inOrder_bind ?_ fun route => ?_
  · refine Action.inOrder_bind (Action.inOrder_ofExcept _) fun providerKey => ?_
    refine Action.inOrder_bind (Action.inOrder_ask hkey) fun replyKey => ?_
    refine inOrder_sealedCall_bind hkey hbytes hquery fun envelope reply => ?_
    exact Action.inOrder_bind (Action.inOrder_ofExcept _) fun response => Action.inOrder_ofExcept _
  · refine Action.inOrder_bind (Action.inOrder_mapError (Action.inOrder_node hchannels))
      fun channels => ?_
    exact Action.inOrder_bind (Action.inOrder_ofExcept _) fun spliced => Action.inOrder_pure _

/-- A report asks for randomness, and the provider to take it. -/
theorem inOrder_sendReport (hkey : allowed .freshKey)
    (hbytes : ∀ count, allowed (.freshBytes count))
    (hreport : ∀ envelope, allowed (.provider (.reportMessage envelope))) (terms : Terms)
    (category : String) (level : Wire.ReportLevel) (message : String) :
    InOrder allowed (sendReport terms category level message).run := by
  unfold sendReport
  refine Action.inOrder_bind (Action.inOrder_ofExcept _) fun providerKey => ?_
  exact inOrder_sealedCall_bind hkey hbytes hreport fun _ _ => Action.inOrder_pure _

theorem inOrder_sendRoute (hsend : ∀ hash route, allowed (.node (.sendToRoute hash route)))
    (hrecord : allowed (.node .listPayments)) (paymentHash : Bytes) (route : Route) :
    InOrder allowed (sendRoute paymentHash route).run := by
  unfold sendRoute
  refine Action.inOrder_bind (Action.inOrder_node (hsend _ _)) fun result => ?_
  split
  · exact Action.inOrder_pure _
  · exact Action.inOrder_bind (Action.inOrder_node hrecord) fun payments => Action.inOrder_pure _

/-- The first checks ask for the decoded invoice and for the time. -/
theorem inOrder_preparePayment (hdecode : ∀ invoice, allowed (.node (.decodePayRequest invoice)))
    (hnow : allowed .now) (terms : Terms) (invoice : String) (feeLimitSat amountSat : Int64) :
    InOrder allowed (preparePayment terms invoice feeLimitSat amountSat).run := by
  unfold preparePayment
  refine Action.inOrder_bind (Action.inOrder_mapError (Action.inOrder_node (hdecode _)))
    fun request => ?_
  refine Action.inOrder_bind (Action.inOrder_ask hnow) fun now => ?_
  have hrest : InOrder allowed (do
      let request ← request.withAmount amountSat
      let paymentHash ← request.hashBytes
      return { terms, invoice, feeLimitSat, amountSat, request, paymentHash } :
        Action RouteError PaymentJob).run :=
    Action.inOrder_bind (Action.inOrder_ofExcept _) fun _ =>
      Action.inOrder_bind (Action.inOrder_ofExcept _) fun _ => Action.inOrder_pure _
  split
  · exact Action.inOrder_bind (Action.inOrder_throw _) fun _ => hrest
  · exact hrest

/-- The search for a route asks for randomness, asks the provider once, and asks for the
channels. -/
theorem asksAtMost_findRoute {n : Nat} (hkey : kind .freshKey = false)
    (hbytes : ∀ n, kind (.freshBytes n) = false) (hchannels : kind (.node .listChannels) = false)
    (hquery : ∀ envelope, AsksAtMost kind n (Action.provider (.queryRoutes envelope)).run)
    (terms : Terms) (query : RouteQuery) : AsksAtMost kind n (findRoute terms query).run := by
  unfold findRoute requestRoute
  refine Action.asksAtMost_bind_right ?_ fun _ => ?_
  · refine Action.asksAtMost_bind_left (Action.asksAtMost_ofExcept _) fun _ => ?_
    refine Action.asksAtMost_bind_left (Action.asksAtMost_ask_of_not hkey) fun _ => ?_
    refine Action.asksAtMost_bind_left (inOrder_sealFresh hkey hbytes).asksAtMost_zero fun _ => ?_
    refine Action.asksAtMost_bind_right (Action.asksAtMost_mapError (hquery _)) fun _ => ?_
    exact Action.asksAtMost_bind_left (Action.asksAtMost_ofExcept _) fun _ =>
      Action.asksAtMost_ofExcept _
  · refine Action.asksAtMost_bind_left
      (Action.asksAtMost_mapError (asksAtMost_request_of_not hchannels)) fun _ => ?_
    exact Action.asksAtMost_bind_left (Action.asksAtMost_ofExcept _) fun _ =>
      Action.asksAtMost_pure _

theorem asksAtMost_sendReport (hkey : kind .freshKey = false)
    (hbytes : ∀ n, kind (.freshBytes n) = false)
    (hreport : ∀ envelope, kind (.provider (.reportMessage envelope)) = false) (terms : Terms)
    (category : String) (level : Wire.ReportLevel) (message : String) :
    AsksAtMost kind 0 (sendReport terms category level message).run :=
  (inOrder_sendReport hkey hbytes hreport terms category level message).asksAtMost_zero

theorem asksAtMost_preparePayment
    (hdecode : ∀ invoice, kind (.node (.decodePayRequest invoice)) = false)
    (hnow : kind .now = false) (terms : Terms) (invoice : String) (feeLimitSat amountSat : Int64) :
    AsksAtMost kind 0 (preparePayment terms invoice feeLimitSat amountSat).run :=
  (inOrder_preparePayment hdecode hnow terms invoice feeLimitSat amountSat).asksAtMost_zero

end Parts

variable {log : Transcript Collaborators}

theorem quiet_of_runs_findRoute {terms : Terms} {query : RouteQuery}
    {result : Option (Except RouteError Route)} (h : Runs (findRoute terms query).run log result) :
    Quiet log :=
  Nat.le_zero.1 (asksAtMost_findRoute (n := 0) rfl (fun _ => rfl) rfl
    (fun _ => asksAtMost_request_of_not rfl) terms query log result h)

theorem routeQueries_le_of_runs_findRoute {terms : Terms} {query : RouteQuery}
    {result : Option (Except RouteError Route)} (h : Runs (findRoute terms query).run log result) :
    asked Request.isRouteQuery log ≤ 1 :=
  asksAtMost_findRoute rfl (fun _ => rfl) rfl (fun _ => asksAtMost_request _) terms query
    log result h

/-- A report is quiet, asks for no route, and fails only by a crash. -/
theorem runs_reportFailure_cases {terms : Terms} {request : PayRequest} {excluded : Nat}
    {reason : FailureReason} {level : Wire.ReportLevel} {result : Option (Except RouteError Unit)}
    (h : Runs (reportFailure terms request excluded reason level).run log result) :
    Quiet log ∧ asked Request.isRouteQuery log = 0 ∧ (result = none ∨ result = some (.ok ())) := by
  have hsilent {r : Option (Except RouteError Unit)}
      (hr : Runs (sendReport terms reportCategory level (failureReport request excluded reason)).run
        log r) : Quiet log ∧ asked Request.isRouteQuery log = 0 :=
    ⟨Nat.le_zero.1 (asksAtMost_sendReport rfl (fun _ => rfl) (fun _ => rfl) _ _ _ _ log r hr),
      Nat.le_zero.1 (asksAtMost_sendReport rfl (fun _ => rfl) (fun _ => rfl) _ _ _ _ log r hr)⟩
  rcases Action.runs_outcome_bind_cases h with
    ⟨_, log₁, log₂, rfl, hreport, hend⟩ | ⟨hreport, rfl⟩
  · obtain ⟨rfl, rfl⟩ := Action.runs_pure_iff.1 hend
    rw [List.append_nil] at hsilent ⊢
    exact ⟨(hsilent hreport).1, (hsilent hreport).2, Or.inr rfl⟩
  · exact ⟨(hsilent hreport).1, (hsilent hreport).2, Or.inl rfl⟩

/-- A report before an error is quiet, asks for no route, and leaves no outcome. -/
theorem runs_report_throw_cases {terms : Terms} {request : PayRequest} {excluded : Nat}
    {reason : FailureReason} {level : Wire.ReportLevel} {error : RouteError}
    {result : Option (Except RouteError PaymentOutcome)}
    (h : Runs (do reportFailure terms request excluded reason level; throw error :
      Action RouteError PaymentOutcome).run log result) :
    Quiet log ∧ asked Request.isRouteQuery log = 0 ∧ ∀ outcome, result ≠ some (.ok outcome) := by
  rcases Action.runs_bind_cases h with
    ⟨_, log₁, log₂, rfl, hreport, hend⟩ | ⟨e, hreport, rfl⟩ | ⟨hreport, rfl⟩
  · obtain ⟨hquiet, hqueries, -⟩ := runs_reportFailure_cases hreport
    obtain ⟨rfl, rfl⟩ := Action.runs_throw_iff.1 hend
    rw [List.append_nil]
    exact ⟨hquiet, hqueries, nofun⟩
  all_goals
    obtain ⟨hquiet, hqueries, -⟩ := runs_reportFailure_cases hreport
    exact ⟨hquiet, hqueries, nofun⟩

/-- Giving up is quiet, asks for no route, and ends with the failure unless it crashes. -/
theorem runs_giveUp_cases {job : PaymentJob} {progress : PaymentProgress}
    {result : Option (Except RouteError PaymentOutcome)}
    (h : Runs (job.giveUp progress).run log result) :
    Quiet log ∧ asked Request.isRouteQuery log = 0 ∧
      (result = none ∨ result = some (.ok (progress.failure job.request))) := by
  rcases Action.runs_bind_cases h with
    ⟨_, log₁, log₂, rfl, hreport, hend⟩ | ⟨e, hreport, -⟩ | ⟨hreport, rfl⟩
  · obtain ⟨hquiet, hqueries, -⟩ := runs_reportFailure_cases hreport
    obtain ⟨rfl, rfl⟩ := Action.runs_pure_iff.1 hend
    rw [List.append_nil]
    exact ⟨hquiet, hqueries, Or.inr rfl⟩
  · obtain ⟨-, -, hne | hne⟩ := runs_reportFailure_cases hreport <;> cases hne
  · obtain ⟨hquiet, hqueries, -⟩ := runs_reportFailure_cases hreport
    exact ⟨hquiet, hqueries, Or.inl rfl⟩

/-- The runs of sending a payment over a route. -/
inductive SendRun (paymentHash : Bytes) (route : Route) :
    Transcript Collaborators → Option (Except Fault SendOutcome) → Prop
  | sendCrashed : SendRun paymentHash route [.sending paymentHash route none] none
  | sendFailed (cause : Fault) :
      SendRun paymentHash route [.sending paymentHash route (some (.error cause))]
        (some (.error cause))
  | paid (sent : SendResult) (hsent : sent.paymentError = "") :
      SendRun paymentHash route [.sending paymentHash route (some (.ok sent))]
        (some (.ok .succeeded))
  | recordCrashed (sent : SendResult) (hsent : sent.paymentError ≠ "") :
      SendRun paymentHash route
        [.sending paymentHash route (some (.ok sent)), .recordOf none] none
  | recordFailed (sent : SendResult) (hsent : sent.paymentError ≠ "") (cause : Fault) :
      SendRun paymentHash route
        [.sending paymentHash route (some (.ok sent)), .recordOf (some (.error cause))]
        (some (.error cause))
  | recorded (sent : SendResult) (hsent : sent.paymentError ≠ "") (payments : List Payment) :
      SendRun paymentHash route
        [.sending paymentHash route (some (.ok sent)), .recordOf (some (.ok payments))]
        (some (.ok (.ofPayments paymentHash payments)))

theorem sendRun_of_runs {paymentHash : Bytes} {route : Route}
    {result : Option (Except Fault SendOutcome)}
    (h : Runs (sendRoute paymentHash route).run log result) :
    SendRun paymentHash route log result := by
  rcases Action.runs_bind_cases h with
    ⟨sent, log₁, log₂, rfl, hsend, hrest⟩ | ⟨cause, hsend, rfl⟩ | ⟨hsend, rfl⟩
  · rw [Action.runs_node_cases hsend]
    split at hrest
    · next hempty =>
      obtain ⟨rfl, rfl⟩ := Action.runs_pure_iff.1 hrest
      exact .paid sent (by simpa using hempty)
    · next hempty =>
      have hsent : sent.paymentError ≠ "" := by simpa using hempty
      rcases Action.runs_bind_cases hrest with
        ⟨payments, log₃, log₄, rfl, hlist, hend⟩ | ⟨cause, hlist, rfl⟩ | ⟨hlist, rfl⟩
      · rw [Action.runs_node_cases hlist]
        obtain ⟨rfl, rfl⟩ := Action.runs_pure_iff.1 hend
        exact .recorded sent hsent payments
      · rw [Action.runs_node_cases hlist]
        exact .recordFailed sent hsent cause
      · rw [Action.runs_node_cases hlist]
        exact .recordCrashed sent hsent
  · rw [Action.runs_node_cases hsend]
    exact .sendFailed cause
  · rw [Action.runs_node_cases hsend]
    exact .sendCrashed

/-- The reason of a failed payment by the node's record; without one there it is an error. -/
def recordedReason (paymentHash : Bytes) (payments : List Payment) : FailureReason :=
  match payments.find? fun p => p.paymentHash = Hex.encode paymentHash with
  | none => .error
  | some payment => if payment.failureReason = .none then .error else payment.failureReason

theorem recordedReason_ne_none (paymentHash : Bytes) (payments : List Payment) :
    recordedReason paymentHash payments ≠ .none := by
  unfold recordedReason
  cases payments.find? fun p => p.paymentHash = Hex.encode paymentHash with
  | none => exact nofun
  | some payment => by_cases hreason : payment.failureReason = .none <;> simp [hreason]

/-- What the node's record tells of a failure is its reason and the edge it blames. -/
theorem ofPayments_eq (paymentHash : Bytes) (payments : List Payment) :
    SendOutcome.ofPayments paymentHash payments =
      .failed (recordedReason paymentHash payments) (blamedEdge? paymentHash payments) := by
  unfold SendOutcome.ofPayments recordedReason blamedEdge?
  cases payments.find? fun p => p.paymentHash = Hex.encode paymentHash with
  | none => rfl
  | some payment => by_cases hreason : payment.failureReason = .none <;> simp [hreason]

/-- A send that goes through is the last exchange. -/
theorem SendRun.succeeded_cases {paymentHash : Bytes} {route : Route}
    (h : SendRun paymentHash route log (some (.ok .succeeded))) :
    ∃ sent : SendResult, sent.paymentError = "" ∧
      log = [.sending paymentHash route (some (.ok sent))] := by
  generalize hresult : some (Except.ok SendOutcome.succeeded) = result at h
  cases h with
  | paid sent hsent => exact ⟨sent, hsent, rfl⟩
  | recorded sent hsent payments =>
    rw [ofPayments_eq] at hresult
    cases hresult
  | _ => cases hresult

/-- A send that fails by the node's record has its reason and its edge from there. -/
theorem SendRun.failed_cases {paymentHash : Bytes} {route : Route} {reason : FailureReason}
    {edge : Option Edge} (h : SendRun paymentHash route log (some (.ok (.failed reason edge)))) :
    ∃ (sent : SendResult) (payments : List Payment), sent.paymentError ≠ "" ∧
      reason = recordedReason paymentHash payments ∧ blamedEdge? paymentHash payments = edge ∧
      log = [.sending paymentHash route (some (.ok sent)), .recordOf (some (.ok payments))] := by
  generalize hresult : some (Except.ok (SendOutcome.failed reason edge)) = result at h
  cases h with
  | recorded sent hsent payments =>
    rw [ofPayments_eq] at hresult
    cases hresult
    exact ⟨sent, payments, hsent, rfl, rfl, rfl⟩
  | _ => cases hresult

/-- One send that did not go through and for which no edge is blamed. -/
structure FailedSend (paymentHash : Bytes) (log : Transcript Collaborators) : Prop where
  sends_eq : asked Request.isSend log = 1
  queries_eq : asked Request.isRouteQuery log = 0
  blames_eq : blames paymentHash log = 0
  unpaid : log.any Exchange.isPaid = false
  final : log.Pairwise fun e later => e.isFinal paymentHash → Request.isSend later.request = false

theorem failedSend_of_run {paymentHash : Bytes} {route : Route}
    {result : Option (Except Fault SendOutcome)} (h : SendRun paymentHash route log result)
    (hunpaid : result ≠ some (.ok .succeeded))
    (hunblamed : ∀ reason edge, result ≠ some (.ok (.failed reason (some edge)))) :
    FailedSend paymentHash log := by
  cases h with
  | sendCrashed => exact ⟨rfl, rfl, rfl, rfl, List.pairwise_singleton _ _⟩
  | sendFailed cause => exact ⟨rfl, rfl, rfl, rfl, List.pairwise_singleton _ _⟩
  | paid sent hsent => exact absurd rfl hunpaid
  | recordCrashed sent hsent =>
    exact ⟨rfl, rfl, rfl, by simp [Exchange.isPaid, hsent], by simp [Request.isSend]⟩
  | recordFailed sent hsent cause =>
    exact ⟨rfl, rfl, rfl, by simp [Exchange.isPaid, hsent], by simp [Request.isSend]⟩
  | recorded sent hsent payments =>
    rw [ofPayments_eq] at hunblamed
    cases hblame : blamedEdge? paymentHash payments with
    | some edge => exact absurd (by rw [hblame]) (hunblamed _ edge)
    | none =>
      exact ⟨rfl, rfl, by simp [blames, Exchange.isBlame, hblame], by simp [Exchange.isPaid, hsent],
        by simp [Request.isSend]⟩

/-! ## Any number of rounds -/

/-- The outcome counts what happened since `progress` : it tells of a success if a payment went
through, and of a failure with its reason otherwise. -/
structure PaymentOutcome.Fits (outcome : PaymentOutcome) (progress : PaymentProgress)
    (sends blamed : Nat) (paid : Bool) : Prop where
  excludedPairs_eq : outcome.excludedPairs = progress.excluded.length + blamed
  attempts_eq : outcome.attempts = progress.attempts + sends
  status_eq : outcome.status = if paid then .succeeded else .failed
  failureReason_eq_none : outcome.failureReason = .none ↔ paid
  sends_eq : sends = blamed + 1 ∨ paid = false ∧ sends = blamed

/-- The outcome of giving up fits if the failure does. -/
theorem fits_of_giveUp {failure : PaymentOutcome} {progress : PaymentProgress} {sends blamed : Nat}
    {paid : Bool} {result : Option (Except RouteError PaymentOutcome)}
    (hresult : result = none ∨ result = some (.ok failure))
    (hfits : failure.Fits progress sends blamed paid) (outcome : PaymentOutcome)
    (h : result = some (.ok outcome)) : outcome.Fits progress sends blamed paid := by
  rcases hresult with rfl | rfl
  · cases h
  · cases h
    exact hfits

/-- A failure with a reason fits, after at most one more send for which no edge is blamed. -/
theorem fits_failure {progress progress' : PaymentProgress} {sends : Nat} (request : PayRequest)
    (hexcluded : progress'.excluded = progress.excluded)
    (hattempts : progress'.attempts = progress.attempts + sends) (hsends : sends ≤ 1)
    (hreason : progress'.reason ≠ .none) :
    (progress'.failure request).Fits progress sends 0 false where
  excludedPairs_eq := congrArg List.length hexcluded
  attempts_eq := hattempts
  status_eq := rfl
  failureReason_eq_none := by simpa [PaymentProgress.failure] using hreason
  sends_eq := by
    rcases Nat.le_one_iff_eq_zero_or_eq_one.1 hsends with rfl | rfl
    · exact Or.inr ⟨rfl, rfl⟩
    · exact Or.inl rfl

/-- A success after one more send. -/
theorem fits_success {progress : PaymentProgress} (request : PayRequest) :
    (PaymentProgress.success { progress with attempts := progress.attempts + 1 } request).Fits
      progress 1 0 true where
  excludedPairs_eq := rfl
  attempts_eq := rfl
  status_eq := rfl
  failureReason_eq_none := by simp [PaymentProgress.success]
  sends_eq := Or.inl rfl

/-- A send at whose failure an edge was blamed counts on both sides. -/
theorem PaymentOutcome.Fits.after_blame {outcome : PaymentOutcome}
    {progress progress' : PaymentProgress} {sends blamed : Nat} {paid : Bool}
    (h : outcome.Fits progress' sends blamed paid)
    (hattempts : progress'.attempts = progress.attempts + 1)
    (hexcluded : progress'.excluded.length = progress.excluded.length + 1) :
    outcome.Fits progress (sends + 1) (blamed + 1) paid where
  excludedPairs_eq := by
    have := h.excludedPairs_eq
    omega
  attempts_eq := by
    have := h.attempts_eq
    omega
  status_eq := h.status_eq
  failureReason_eq_none := h.failureReason_eq_none
  sends_eq := by
    rcases h.sends_eq with hsends | ⟨hpaid, hsends⟩
    · exact Or.inl (by omega)
    · exact Or.inr ⟨hpaid, by omega⟩

/-- What rounds ask and end with : at most `queries` searches for a route and `sends` sends, none of
them after the payment has ended, and an outcome that fits. -/
structure RoundsRun (paymentHash : Bytes) (queries sends : Nat) (progress : PaymentProgress)
    (log : Transcript Collaborators) (result : Option (Except RouteError PaymentOutcome)) :
    Prop where
  queries_le : asked Request.isRouteQuery log ≤ queries
  sends_le : asked Request.isSend log ≤ sends
  final : log.Pairwise fun e later => e.isFinal paymentHash → Request.isSend later.request = false
  paid : log.any Exchange.isPaid → ∃ outcome, result = some (.ok outcome)
  fits : ∀ outcome, result = some (.ok outcome) → outcome.Fits progress
    (asked Request.isSend log) (blames paymentHash log) (log.any Exchange.isPaid)

namespace RoundsRun

variable {paymentHash : Bytes} {queries sends : Nat} {progress : PaymentProgress}
  {result : Option (Except RouteError PaymentOutcome)}

theorem any_isPaid_of_quiet (h : Quiet log) : log.any Exchange.isPaid = false :=
  List.any_eq_false.2 fun _ he => by simp [h.not_paid he]

theorem pairwise_of_quiet (h : Quiet log) : log.Pairwise fun e later =>
    e.isFinal paymentHash → Request.isSend later.request = false :=
  List.pairwise_of_forall_mem_list fun _ he _ _ hfinal => by simp [h.not_final he] at hfinal

theorem mono {queries' sends' : Nat} (h : RoundsRun paymentHash queries sends progress log result)
    (hqueries : queries ≤ queries') (hsends : sends ≤ sends') :
    RoundsRun paymentHash queries' sends' progress log result :=
  { h with
    queries_le := Nat.le_trans h.queries_le hqueries
    sends_le := Nat.le_trans h.sends_le hsends }

/-- A run that sends nothing and does not succeed. -/
theorem of_quiet (hquiet : Quiet log) (hqueries : asked Request.isRouteQuery log = 0)
    (hresult : ∀ outcome, result = some (.ok outcome) → outcome.Fits progress 0 0 false) :
    RoundsRun paymentHash 0 0 progress log result where
  queries_le := Nat.le_of_eq hqueries
  sends_le := Nat.le_of_eq hquiet.sends_eq
  final := pairwise_of_quiet hquiet
  paid h := by simp [any_isPaid_of_quiet hquiet] at h
  fits outcome h := by
    rw [hquiet.sends_eq, hquiet.blames_eq, any_isPaid_of_quiet hquiet]
    exact hresult outcome h

/-- A quiet part in front adds its searches for a route. -/
theorem quiet_append {quiet : Transcript Collaborators} {n : Nat} (hquiet : Quiet quiet)
    (hqueries : asked Request.isRouteQuery quiet ≤ n)
    (h : RoundsRun paymentHash queries sends progress log result) :
    RoundsRun paymentHash (queries + n) sends progress (quiet ++ log) result where
  queries_le := by
    have := h.queries_le
    rw [asked_append]
    omega
  sends_le := by simpa [hquiet.sends_eq] using h.sends_le
  final := by
    refine List.pairwise_append.2 ⟨pairwise_of_quiet hquiet, h.final, fun e he _ _ hfinal => ?_⟩
    simp [hquiet.not_final he] at hfinal
  paid hpaid := by
    rw [List.any_append, any_isPaid_of_quiet hquiet, Bool.false_or] at hpaid
    exact h.paid hpaid
  fits outcome hresult := by
    rw [asked_append, hquiet.sends_eq, Nat.zero_add, blames_append, hquiet.blames_eq, Nat.zero_add,
      List.any_append, any_isPaid_of_quiet hquiet, Bool.false_or]
    exact h.fits outcome hresult

/-- A send that goes through, after which nothing is asked. -/
theorem of_paid {route : Route} {sent : SendResult} (request : PayRequest)
    (hsent : sent.paymentError = "") :
    RoundsRun paymentHash 0 1 progress [.sending paymentHash route (some (.ok sent))]
      (some (.ok (PaymentProgress.success
        { progress with attempts := progress.attempts + 1 } request))) where
  queries_le := Nat.le_refl 0
  sends_le := Nat.le_refl 1
  final := List.pairwise_singleton _ _
  paid _ := ⟨_, rfl⟩
  fits outcome h := by
    cases h
    simpa [Request.isSend, blames, Exchange.isBlame, Exchange.isPaid, hsent] using
      fits_success request

/-- A send that fails without blame, after which nothing is sent. -/
theorem of_failed_send {failed : Transcript Collaborators} (hfailed : FailedSend paymentHash failed)
    (hquiet : Quiet log) (hqueries : asked Request.isRouteQuery log = 0)
    (hresult : ∀ outcome, result = some (.ok outcome) → outcome.Fits progress 1 0 false) :
    RoundsRun paymentHash 0 1 progress (failed ++ log) result where
  queries_le := by simp [hfailed.queries_eq, hqueries]
  sends_le := by simp [hfailed.sends_eq, hquiet.sends_eq]
  final := by
    refine List.pairwise_append.2
      ⟨hfailed.final, pairwise_of_quiet hquiet, fun e _ later hlater _ => ?_⟩
    exact (Exchange.silent (hquiet.silent_of_mem hlater) []).2.2.2
  paid h := by
    rw [List.any_append, hfailed.unpaid, any_isPaid_of_quiet hquiet] at h
    cases h
  fits outcome h := by
    rw [asked_append, hfailed.sends_eq, hquiet.sends_eq, blames_append, hfailed.blames_eq,
      hquiet.blames_eq, List.any_append, hfailed.unpaid, any_isPaid_of_quiet hquiet]
    exact hresult outcome h

/-- A send that fails at an edge, and the rounds after it. -/
theorem blamed_append {progress' : PaymentProgress} {route : Route} {sent : SendResult}
    {payments : List Payment} {edge : Edge} (hsent : sent.paymentError ≠ "")
    (hblame : blamedEdge? paymentHash payments = some edge)
    (hattempts : progress'.attempts = progress.attempts + 1)
    (hexcluded : progress'.excluded.length = progress.excluded.length + 1)
    (h : RoundsRun paymentHash queries sends progress' log result) :
    RoundsRun paymentHash queries (sends + 1) progress
      (.sending paymentHash route (some (.ok sent)) :: .recordOf (some (.ok payments)) :: log)
      result where
  queries_le := by simpa [Request.isRouteQuery] using h.queries_le
  sends_le := by simpa [Request.isSend] using h.sends_le
  final := by simpa [Exchange.isFinal, hsent, hblame] using h.final
  paid hpaid := h.paid (by simpa [Exchange.isPaid, hsent] using hpaid)
  fits outcome hresult := by
    have hsends : asked Request.isSend
        (.sending paymentHash route (some (.ok sent)) :: .recordOf (some (.ok payments)) :: log) =
          asked Request.isSend log + 1 := by
      simp [Request.isSend]
    have hblames : blames paymentHash
        (.sending paymentHash route (some (.ok sent)) :: .recordOf (some (.ok payments)) :: log) =
          blames paymentHash log + 1 := by
      unfold blames
      rw [List.countP_cons_of_neg (by simp [Exchange.isBlame]), List.countP_cons_of_pos]
      simp [Exchange.isBlame, hblame]
    have hpaid : List.any
        (.sending paymentHash route (some (.ok sent)) :: .recordOf (some (.ok payments)) :: log)
          Exchange.isPaid = log.any Exchange.isPaid := by
      simp [Exchange.isPaid, hsent]
    rw [hsends, hblames, hpaid]
    exact (h.fits outcome hresult).after_blame hattempts hexcluded

end RoundsRun

/-- What follows a send : the end of the payment, or the rounds that are left. -/
theorem roundsRun_of_send {job : PaymentJob} {route : Route} {remaining : Nat}
    {progress : PaymentProgress} {retry : PaymentProgress → Action RouteError PaymentOutcome}
    {sent : Except Fault SendOutcome} {log₁ log₂ : Transcript Collaborators}
    {result : Option (Except RouteError PaymentOutcome)}
    (hretry : ∀ progress' : PaymentProgress, progress'.reason ≠ .none →
      Runs (retry progress').run log₂ result →
      RoundsRun job.paymentHash remaining remaining progress' log₂ result)
    (hsend : SendRun job.paymentHash route log₁ (some sent))
    (hend : Runs (job.afterSend { progress with attempts := progress.attempts + 1 } retry sent).run
      log₂ result) :
    RoundsRun job.paymentHash remaining (remaining + 1) progress (log₁ ++ log₂) result := by
  have hone := Nat.le_add_left 1 remaining
  cases sent with
  | error cause =>
    obtain ⟨hquiet, hqueries, hresult⟩ := runs_report_throw_cases hend
    exact (RoundsRun.of_failed_send (failedSend_of_run hsend nofun nofun) hquiet hqueries
      fun outcome h => absurd h (hresult outcome)).mono (Nat.zero_le _) hone
  | ok outcome =>
    cases outcome with
    | succeeded =>
      obtain ⟨sent, hpaid, rfl⟩ := hsend.succeeded_cases
      obtain ⟨rfl, rfl⟩ := Action.runs_pure_iff.1 hend
      rw [List.append_nil]
      exact (RoundsRun.of_paid job.request hpaid).mono (Nat.zero_le _) hone
    | failed reason edge =>
      obtain ⟨sent, payments, hunpaid, hrecorded, hblame, hlog⟩ := hsend.failed_cases
      have hreason : reason ≠ .none := hrecorded ▸ recordedReason_ne_none job.paymentHash payments
      cases edge with
      | none =>
        obtain ⟨hquiet, hqueries, hresult⟩ := runs_giveUp_cases hend
        have hfits : ∀ outcome, result = some (.ok outcome) → outcome.Fits progress 1 0 false :=
          fits_of_giveUp hresult (fits_failure _ rfl rfl (Nat.le_refl 1) hreason)
        exact (RoundsRun.of_failed_send (failedSend_of_run hsend nofun nofun) hquiet hqueries
          hfits).mono (Nat.zero_le _) hone
      | some edge =>
        subst hlog
        exact .blamed_append hunpaid hblame rfl (by simp) (hretry _ hreason hend)

/-- Rounds as many as are left, started with a reason to fail, ask and end as they should. -/
theorem roundsRun_of_runs (job : PaymentJob) :
    ∀ (remaining : Nat) (progress : PaymentProgress) {log : Transcript Collaborators}
      {result : Option (Except RouteError PaymentOutcome)}, progress.reason ≠ .none →
      Runs (job.rounds remaining progress).run log result →
      RoundsRun job.paymentHash remaining remaining progress log result
  -- A round that goes on has one less to follow and one edge more to avoid, so that the bounds and
  -- the counts of the outcome are carried by the number of rounds that are left.
  | 0, progress, log, result, hreason, h => by
    obtain ⟨hquiet, hqueries, hresult⟩ := runs_giveUp_cases h
    exact .of_quiet hquiet hqueries
      (fits_of_giveUp hresult (fits_failure _ rfl rfl (Nat.zero_le 1) hreason))
  | remaining + 1, progress, log, result, hreason, h => by
    unfold PaymentJob.rounds at h
    rcases Action.runs_outcome_bind_cases h with
      ⟨found, log₁, log₂, rfl, hfind, hrest⟩ | ⟨hfind, rfl⟩
    · refine .quiet_append (quiet_of_runs_findRoute hfind)
        (routeQueries_le_of_runs_findRoute hfind) ?_
      cases found with
      | error cause =>
        obtain ⟨hquiet, hqueries, hresult⟩ := runs_giveUp_cases hrest
        have hfits : ∀ outcome, result = some (.ok outcome) → outcome.Fits progress 0 0 false :=
          fits_of_giveUp hresult (fits_failure _ rfl rfl (Nat.zero_le 1) nofun)
        exact (RoundsRun.of_quiet hquiet hqueries hfits).mono (Nat.zero_le _) (Nat.zero_le _)
      | ok route =>
        rcases Action.runs_outcome_bind_cases hrest with
          ⟨sent, log₃, log₄, rfl, hsend, hend⟩ | ⟨hsend, rfl⟩
        · exact roundsRun_of_send
            (fun progress' hreason => roundsRun_of_runs job remaining progress' hreason)
            (sendRun_of_runs hsend) hend
        · have hend : RoundsRun job.paymentHash 0 1 progress (log₂ ++ []) none :=
            .of_failed_send (failedSend_of_run (sendRun_of_runs hsend) nofun nofun) rfl rfl nofun
          rw [List.append_nil] at hend
          exact hend.mono (Nat.zero_le _) (Nat.le_add_left 1 remaining)
    · have hend : RoundsRun job.paymentHash 1 0 progress (log ++ []) none :=
        .quiet_append (quiet_of_runs_findRoute hfind) (routeQueries_le_of_runs_findRoute hfind)
          (.of_quiet rfl rfl nofun)
      rw [List.append_nil] at hend
      exact hend.mono (Nat.le_add_left 1 remaining) (Nat.zero_le _)

/-! ## The first checks -/

section

variable {terms : Terms} {invoice : String} {feeLimitSat amountSat : Int64} {request : PayRequest}
  {job : PaymentJob}

/-- A payment that passes the first checks has the hash of its invoice. -/
theorem invoiceHash_of_runs_preparePayment
    (h : Runs (preparePayment terms invoice feeLimitSat amountSat).run log (some (.ok job)))
    (rest : Transcript Collaborators) : invoiceHash (log ++ rest) = job.paymentHash := by
  obtain ⟨request, now, request', paymentHash, rfl, -, hamount, hhash, rfl⟩ :=
    runs_preparePayment_ok_iff.1 h
  rw [paymentHash_of_withAmount hamount] at hhash
  simp [invoiceHash, Exchange.invoiceHash?, hhash, Except.toOption]

end

/-! ## A whole payment -/

/-- A whole payment asks and ends as ten rounds should. -/
theorem roundsRun_of_runs_pay {terms : Terms} {invoice : String} {feeLimitSat amountSat : Int64}
    {result : Option (Except RouteError PaymentOutcome)}
    (h : Runs (pay terms invoice feeLimitSat amountSat).run log result) :
    RoundsRun (invoiceHash log) 10 10 .start log result := by
  have hquiet {log₁ : Transcript Collaborators} {r : Option (Except RouteError PaymentJob)}
      (hprepare : Runs (preparePayment terms invoice feeLimitSat amountSat).run log₁ r) :
      Quiet log₁ ∧ asked Request.isRouteQuery log₁ = 0 :=
    ⟨Nat.le_zero.1 (asksAtMost_preparePayment (fun _ => rfl) rfl _ _ _ _ log₁ r hprepare),
      Nat.le_zero.1 (asksAtMost_preparePayment (fun _ => rfl) rfl _ _ _ _ log₁ r hprepare)⟩
  rcases Action.runs_bind_cases h with
    ⟨job, log₁, log₂, rfl, hprepare, hrounds⟩ | ⟨e, hprepare, rfl⟩ | ⟨hprepare, rfl⟩
  · rw [invoiceHash_of_runs_preparePayment hprepare log₂]
    exact .quiet_append (hquiet hprepare).1 (Nat.le_of_eq (hquiet hprepare).2)
      (roundsRun_of_runs job maxRounds .start nofun hrounds)
  · exact (RoundsRun.of_quiet (hquiet hprepare).1 (hquiet hprepare).2 fun _ h => by cases h).mono
      (Nat.zero_le _) (Nat.zero_le _)
  · exact (RoundsRun.of_quiet (hquiet hprepare).1 (hquiet hprepare).2 fun _ h => by cases h).mono
      (Nat.zero_le _) (Nat.zero_le _)

/-- An outcome that counts from the start of a payment that went through is a success. -/
theorem PaymentOutcome.Fits.success {outcome : PaymentOutcome} {sends blamed : Nat}
    (h : outcome.Fits .start sends blamed true) :
    outcome.status = .succeeded ∧ outcome.failureReason = .none ∧
      outcome.attempts = outcome.excludedPairs + 1 := by
  refine ⟨h.status_eq, h.failureReason_eq_none.2 rfl, ?_⟩
  obtain hsends | ⟨hpaid, -⟩ := h.sends_eq
  · rw [h.attempts_eq, h.excludedPairs_eq, hsends]
    rfl
  · cases hpaid

/-- An outcome that counts from the start of a payment that did not go through is a failure. -/
theorem PaymentOutcome.Fits.failure {outcome : PaymentOutcome} {sends blamed : Nat}
    (h : outcome.Fits .start sends blamed false) :
    outcome.status = .failed ∧ outcome.failureReason ≠ .none ∧ outcome.attempts = sends ∧
      outcome.excludedPairs = blamed ∧
      (outcome.attempts = outcome.excludedPairs ∨
        outcome.attempts = outcome.excludedPairs + 1) := by
  have hattempts : outcome.attempts = sends := h.attempts_eq.trans (Nat.zero_add sends)
  have hexcluded : outcome.excludedPairs = blamed := h.excludedPairs_eq.trans (Nat.zero_add blamed)
  refine ⟨h.status_eq, fun hnone => ?_, hattempts, hexcluded, ?_⟩
  · cases h.failureReason_eq_none.1 hnone
  · rw [hattempts, hexcluded]
    obtain hsends | ⟨-, hsends⟩ := h.sends_eq
    · exact Or.inr hsends
    · exact Or.inl hsends

/-- Whatever the provider and the node answer, a payment makes at most ten searches for a route and
ten sends, and no send after the payment has ended. It succeeds exactly when a send went through,
and then each send but the last has excluded an edge; any other outcome is a failure with a reason
that counts the sends and the blamed edges. -/
theorem pay_transcript {σ : Type} (answer : (r : Request) → σ → Option r.Reply × σ) (state : σ)
    (terms : Terms) (invoice : String) (feeLimitSat amountSat : Int64) :
    let (result, log) := record answer (pay terms invoice feeLimitSat amountSat).run state
    asked Request.isRouteQuery log ≤ 10 ∧ asked Request.isSend log ≤ 10 ∧
      (log.Pairwise fun e later =>
        e.isFinal (invoiceHash log) → Request.isSend later.request = false) ∧
      ((∃ outcome, result = some (.ok outcome) ∧ outcome.status = .succeeded ∧
          outcome.failureReason = .none ∧ outcome.attempts = outcome.excludedPairs + 1) ↔
        ∃ e ∈ log, e.isPaid) ∧
      ∀ outcome, result = some (.ok outcome) → (¬∃ e ∈ log, e.isPaid) →
        outcome.status = .failed ∧ outcome.failureReason ≠ .none ∧
          outcome.attempts = asked Request.isSend log ∧
          outcome.excludedPairs = blames (invoiceHash log) log ∧
          (outcome.attempts = outcome.excludedPairs ∨
            outcome.attempts = outcome.excludedPairs + 1) := by
  have hrun := roundsRun_of_runs_pay
    (runs_record answer (pay terms invoice feeLimitSat amountSat).run state)
  generalize record answer (pay terms invoice feeLimitSat amountSat).run state = recorded at hrun ⊢
  obtain ⟨result, log⟩ := recorded
  refine ⟨hrun.queries_le, hrun.sends_le, hrun.final, ⟨?_, ?_⟩, ?_⟩
  · rintro ⟨outcome, rfl, hstatus, -, -⟩
    refine List.any_eq_true.1 (Bool.of_not_eq_false fun hunpaid => ?_)
    have hfits := hrun.fits outcome rfl
    rw [hunpaid] at hfits
    simp [hfits.failure.1] at hstatus
  · intro hpaid
    obtain ⟨outcome, rfl⟩ := hrun.paid (List.any_eq_true.2 hpaid)
    have hfits := hrun.fits outcome rfl
    rw [List.any_eq_true.2 hpaid] at hfits
    exact ⟨outcome, rfl, hfits.success⟩
  · intro outcome hresult hunpaid
    have hfits := hrun.fits outcome hresult
    rw [Bool.eq_false_iff.2 fun hpaid => hunpaid (List.any_eq_true.1 hpaid)] at hfits
    exact hfits.failure

/-- With two retries the third send goes through. -/
theorem pay_transcript_retried :
    ∃ result log,
      record (I := Collaborators) replayed (pay unitTerms "invoice" 10 1).run Retried.log =
        (result, log) ∧
      asked Request.isRouteQuery log = 3 ∧ asked Request.isSend log = 3 ∧
      ∃ outcome, result = some (.ok outcome) ∧ outcome.status = .succeeded ∧
        outcome.failureReason = .none ∧ outcome.attempts = outcome.excludedPairs + 1 := by
  have hqueries : asked Request.isRouteQuery Retried.log = 3 := by decide
  have hsends : asked Request.isSend Retried.log = 3 := by decide
  have hpaid : ∃ e ∈ Retried.log, e.isPaid := List.any_eq_true.1 (by decide)
  have hrun := Retried.runs_pay
  generalize Retried.log = log at hqueries hsends hpaid hrun
  have hpay := pay_transcript (replayed (I := Collaborators)) log unitTerms "invoice" 10 1
  rw [hrun.record_replayed] at hpay
  exact ⟨_, log, hrun.record_replayed, hqueries, hsends, hpay.2.2.2.1.2 hpaid⟩

end LiquidityClient
