import LiquidityClient.Payment.Pay
import LiquidityClient.Proofs.SealedEnvelope
import LiquidityClient.Proofs.Transcript

/-!
# Payments that are answered

What a payment asks can be answered so that it goes through. The first checks pass with an invoice
that is in time, has a hexadecimal hash and an amount that fits (`runs_preparePayment_ok_iff`). A
search finds what the provider sealed, if a hop fits in front of it (`SearchAnswers.Finds.runs`). A
send that fails at an edge starts another round (`PaymentJob.runs_rounds_of_retry`), and one that
goes through ends the payment. So a payment goes through after any number of retries under ten
(`runs_pay_of_retries`), and counts them.
-/

namespace LiquidityClient

open Program

/-! ## The first checks -/

section

variable {terms : Terms} {invoice : String} {feeLimitSat amountSat : Int64} {request : PayRequest}
  {job : PaymentJob} {log : Transcript Collaborators}

/-- A given amount replaces none, and changes nothing else. -/
theorem withAmount_eq_ok_iff {request' : PayRequest} : request.withAmount amountSat = .ok request' ↔
    (request.amountMsat ≠ 0 ∧ request' = request) ∨
      request.amountMsat = 0 ∧ ∃ amountMsat, toMsat amountSat = .ok amountMsat ∧
        request' = { request with amountMsat } := by
  unfold PayRequest.withAmount
  by_cases hamount : request.amountMsat = 0
  · cases toMsat amountSat <;> simp [hamount, eq_comm]
  · simp [hamount, eq_comm]

/-- An amount of its own does not change the hash of a request. -/
theorem paymentHash_of_withAmount {request' : PayRequest}
    (h : request.withAmount amountSat = .ok request') :
    request'.paymentHash = request.paymentHash := by
  rcases withAmount_eq_ok_iff.1 h with ⟨-, rfl⟩ | ⟨-, _, -, rfl⟩ <;> rfl

theorem hashBytes_eq_ok_iff {bytes : Bytes} :
    request.hashBytes = .ok bytes ↔ Hex.decode request.paymentHash = .ok bytes := by
  unfold PayRequest.hashBytes
  cases Hex.decode request.paymentHash <;> simp

/-- The first checks ask for the decoded invoice and for the time. -/
theorem runs_preparePayment_ok_iff :
    Runs (preparePayment terms invoice feeLimitSat amountSat).run log (some (.ok job)) ↔
      ∃ request now request' paymentHash,
        log = [⟨.node (.decodePayRequest invoice), some (.ok request)⟩, ⟨.now, some now⟩] ∧
        now ≤ request.timestamp + request.expiry ∧
        request.withAmount amountSat = .ok request' ∧
        Hex.decode request'.paymentHash = .ok paymentHash ∧
        job = ⟨terms, invoice, feeLimitSat, amountSat, request', paymentHash⟩ := by
  constructor
  · intro h
    unfold preparePayment at h
    obtain ⟨request, log₁, rfl, hchecks⟩ := Action.runs_node_bind_ok h
    obtain ⟨now, log₂, rfl, htime⟩ := Action.runs_ask_bind_ok hchecks
    split at htime
    · obtain ⟨_, _, _, -, hthrow, -⟩ := Action.runs_bind_ok htime
      cases (Action.runs_throw_iff.1 hthrow).2
    · next hunexpired =>
      obtain ⟨request', hamount, hrest⟩ := Action.runs_ofExcept_mapError_bind_ok htime
      obtain ⟨paymentHash, hhash, hjob⟩ := Action.runs_ofExcept_mapError_bind_ok hrest
      obtain ⟨rfl, hvalue⟩ := Action.runs_pure_iff.1 hjob
      cases hvalue
      exact ⟨request, now, request', paymentHash, rfl, Int64.not_lt.1 hunexpired, hamount,
        hashBytes_eq_ok_iff.1 hhash, rfl⟩
  · rintro ⟨request, now, request', paymentHash, rfl, hunexpired, hamount, hhash, rfl⟩
    unfold preparePayment
    refine .answered (.answered ?_)
    have hchecks : Runs (do
        let request ← request.withAmount amountSat
        let paymentHash ← request.hashBytes
        return { terms, invoice, feeLimitSat, amountSat, request, paymentHash } :
          Action RouteError PaymentJob).run []
        (some (.ok ⟨terms, invoice, feeLimitSat, amountSat, request', paymentHash⟩)) := by
      refine Action.runs_ofExcept_mapError_bind hamount ?_
      exact Action.runs_ofExcept_mapError_bind (hashBytes_eq_ok_iff.2 hhash) (.pure _)
    change Runs (ExceptT.run (if request.timestamp + request.expiry < now then _ else _)) _ _
    rw [if_neg (Int64.not_lt.2 hunexpired)]
    exact hchecks

end

/-! ## Searches -/

/-- The message of a query, sealed. -/
def RouteQuery.sealed (query : RouteQuery) (providerKey : PublicKey) (replyKey : SecretKey)
    (seed : SealSeed) : Wire.Encrypted :=
  sealMessage (α := Wire.QueryRoutesRequest) providerKey seed
    { encryptPubkey := replyKey.publicKey.compressed
      invoice := query.invoice
      ignoredPairs := query.ignored
      amount := query.amountSat }

/-- What becomes of the provider's reply to a query. -/
def RouteQuery.received (replyKey : SecretKey) :
    Except Fault Wire.Encrypted → Except RouteError Route
  | .error cause => .error (.fault cause)
  | .ok reply =>
    match openMessage Wire.QueryRoutesResponse replyKey reply with
    | .error e => .error (.sealing e)
    | .ok response => firstRoute response

/-- A search for a route draws its secrets and asks the provider once. -/
theorem run_requestRoute (terms : Terms) (query : RouteQuery) :
    (requestRoute terms query).run =
      match parsePublicKey terms.providerKey with
      | .error e => .pure (.error (.sealing e))
      | .ok providerKey =>
        .ask .freshKey fun replyKey => .ask .freshKey fun ephemeral =>
          .ask (.freshBytes Envelope.nonceLength) fun nonce =>
            .ask (.provider
              (.queryRoutes (query.sealed providerKey replyKey ⟨ephemeral, nonce.val⟩)))
              fun reply => .pure (RouteQuery.received replyKey reply) := by
  unfold requestRoute
  cases parsePublicKey terms.providerKey with
  | error e => rfl
  | ok providerKey =>
    refine congrArg (Program.ask _) (funext fun replyKey => ?_)
    refine congrArg (Program.ask _) (funext fun ephemeral => ?_)
    refine congrArg (Program.ask _) (funext fun nonce => ?_)
    refine congrArg (Program.ask _) (funext fun reply => ?_)
    rcases reply with cause | reply
    · rfl
    · change (Action.ofExcept
        ((openMessage Wire.QueryRoutesResponse replyKey reply).mapError .sealing)
        >>= fun response => Action.ofExcept (RouteQuery.firstRoute response) :
          Action RouteError Route).run = _
      unfold RouteQuery.received
      dsimp only
      cases openMessage Wire.QueryRoutesResponse replyKey reply <;> rfl

/-- What the collaborators answer to a search for a route. -/
structure SearchAnswers extends SealedAnswer Wire.QueryRoutesResponse where
  channels : List Channel

namespace SearchAnswers

variable {answers : SearchAnswers} {terms : Terms} {providerKey : PublicKey} {query : RouteQuery}
  {route : Route}

/-- The query for the route, with this reply. -/
def queryExchanges (answers : SearchAnswers) (providerKey : PublicKey) (query : RouteQuery)
    (reply : Option (Except Fault Wire.Encrypted)) : Transcript Collaborators :=
  [⟨.freshKey, some answers.replyKey⟩, ⟨.freshKey, some answers.ephemeral⟩,
    ⟨.freshBytes Envelope.nonceLength, some answers.nonce⟩,
    ⟨.provider (.queryRoutes
      (query.sealed providerKey answers.replyKey ⟨answers.ephemeral, answers.nonce.val⟩)), reply⟩]

/-- The search with these answers. -/
def exchanges (answers : SearchAnswers) (providerKey : PublicKey) (query : RouteQuery) :
    Transcript Collaborators :=
  answers.queryExchanges providerKey query (some (.ok answers.reply)) ++
    [⟨.node .listChannels, some (.ok answers.channels)⟩]

/-- The answers lead to the route : the provider's response fits in an envelope, and the route is
the one it offers behind a hop over one of the channels. -/
structure Finds (answers : SearchAnswers) (terms : Terms) (query : RouteQuery) (route : Route) :
    Prop where
  fits : answers.Fits
  spliced : ∃ offered channelId, RouteQuery.firstRoute answers.response = .ok offered ∧
    spliceLocalHop terms (query.mark offered) answers.channels query.feeLimitSat =
      .ok (channelId, route)

/-- The signs of zeros do not matter for the routes of a response. -/
theorem routes_positiveZeros (response : Wire.QueryRoutesResponse) :
    (Wire.positiveZeros response).routes = response.routes := by
  have hfree := Wire.Kind.positiveZeros_of_doubleFree (.repeated (Wire.Message.schema Route))
    (by decide) (response.routes.map Wire.Message.toRecord)
  change (Wire.Kind.positiveZeros (.repeated (Wire.Message.schema Route))
    (response.routes.map Wire.Message.toRecord)).map Wire.Message.ofRecord = response.routes
  rw [hfree]
  simp [Function.comp_def, Wire.Message.ofRecord_toRecord]

theorem firstRoute_positiveZeros (response : Wire.QueryRoutesResponse) :
    RouteQuery.firstRoute (Wire.positiveZeros response) = RouteQuery.firstRoute response := by
  unfold RouteQuery.firstRoute
  rw [routes_positiveZeros]

/-- The query comes to what becomes of the reply. -/
theorem runs_requestRoute (answers : SearchAnswers)
    (hkey : parsePublicKey terms.providerKey = .ok providerKey)
    (reply : Except Fault Wire.Encrypted) :
    Runs (requestRoute terms query).run (answers.queryExchanges providerKey query (some reply))
      (some (RouteQuery.received answers.replyKey reply)) := by
  rw [run_requestRoute, hkey]
  exact .answered (.answered (.answered (.answered (.pure _))))

theorem Finds.runs (h : answers.Finds terms query route)
    (hkey : parsePublicKey terms.providerKey = .ok providerKey) :
    Runs (findRoute terms query).run (answers.exchanges providerKey query) (some (.ok route)) := by
  obtain ⟨offered, channelId, hoffered, hspliced⟩ := h.spliced
  have hreceived : RouteQuery.received answers.replyKey (.ok answers.reply) = .ok offered := by
    rw [RouteQuery.received, h.fits.opens (by decide)]
    exact (firstRoute_positiveZeros _).trans hoffered
  have hrequest : Runs (requestRoute terms query).run _ _ :=
    answers.runs_requestRoute hkey (.ok answers.reply)
  rw [hreceived] at hrequest
  refine hrequest.bind (.answered ?_)
  exact Action.runs_ofExcept_bind hspliced (.pure _)

/-- A query that the provider refuses ends the search. -/
theorem runs_findRoute_of_refused (answers : SearchAnswers)
    (hkey : parsePublicKey terms.providerKey = .ok providerKey) (cause : Fault) :
    Runs (findRoute terms query).run
      (answers.queryExchanges providerKey query (some (.error cause)))
      (some (.error (.fault cause))) := by
  have hrequest : Runs (requestRoute terms query).run _ _ :=
    answers.runs_requestRoute hkey (.error cause)
  rw [← List.append_nil (answers.queryExchanges _ _ _)]
  exact hrequest.bind (.pure _)

end SearchAnswers

/-! ## Rounds -/

/-- What the collaborators answer in a round : the route that is found, and how the send ends. -/
structure RoundAnswers extends SearchAnswers where
  route : Route
  sent : SendResult

/-- The same in a round that is followed by another one, with the node's record. -/
structure RetryAnswers extends RoundAnswers where
  payments : List Payment
  reason : FailureReason
  edge : Edge

namespace PaymentJob

variable (job : PaymentJob) {providerKey : PublicKey} {round : RoundAnswers} {retry : RetryAnswers}

/-- The rounds that begin with these edges excluded : each of the first ones excludes another edge,
and the last one sends once more. -/
def roundExchanges (providerKey : PublicKey) (last : RoundAnswers) :
    List Edge → List RetryAnswers → Transcript Collaborators
  | excluded, [] =>
    last.exchanges providerKey (job.query excluded) ++
      [⟨.node (.sendToRoute job.paymentHash last.route), some (.ok last.sent)⟩]
  | excluded, retry :: rest =>
    retry.exchanges providerKey (job.query excluded) ++
      ([⟨.node (.sendToRoute job.paymentHash retry.route), some (.ok retry.sent)⟩,
        ⟨.node .listPayments, some (.ok retry.payments)⟩] ++
      roundExchanges providerKey last (excluded ++ [retry.edge]) rest)

/-- The round finds its route, and the send goes through. -/
structure Pays (round : RoundAnswers) : Prop where
  finds : round.Finds job.terms (job.query []) round.route
  paid : round.sent.paymentError = ""

/-- The round finds its route, and the send fails at an edge by the node's record. -/
structure Retries (retry : RetryAnswers) : Prop where
  finds : retry.Finds job.terms (job.query []) retry.route
  unpaid : retry.sent.paymentError ≠ ""
  blamed : SendOutcome.ofPayments job.paymentHash retry.payments =
    .failed retry.reason (some retry.edge)

variable {job}

theorem runs_sendRoute_of_paid {paymentHash : Bytes} {route : Route} {sent : SendResult}
    (hsent : sent.paymentError = "") :
    Runs (sendRoute paymentHash route).run
      [⟨.node (.sendToRoute paymentHash route), some (.ok sent)⟩] (some (.ok .succeeded)) := by
  have hrest : Runs (if sent.paymentError.isEmpty then pure .succeeded else do
      let payments ← Action.node .listPayments
      return SendOutcome.ofPayments paymentHash payments : Action Fault SendOutcome).run []
      (some (.ok .succeeded)) := by
    rw [if_pos (by simpa using hsent)]
    exact .pure _
  exact .answered hrest

theorem runs_sendRoute_of_recorded {paymentHash : Bytes} {route : Route} {sent : SendResult}
    (hsent : sent.paymentError ≠ "") (payments : List Payment) :
    Runs (sendRoute paymentHash route).run
      [⟨.node (.sendToRoute paymentHash route), some (.ok sent)⟩,
        ⟨.node .listPayments, some (.ok payments)⟩]
      (some (.ok (.ofPayments paymentHash payments))) := by
  have hrest : Runs (if sent.paymentError.isEmpty then pure .succeeded else do
      let payments ← Action.node .listPayments
      return SendOutcome.ofPayments paymentHash payments : Action Fault SendOutcome).run
      [⟨.node .listPayments, some (.ok payments)⟩]
      (some (.ok (.ofPayments paymentHash payments))) := by
    rw [if_neg (by simpa using hsent)]
    exact .answered (.pure _)
  exact .answered hrest

/-- A send that goes through ends the payment. -/
theorem runs_rounds_of_paid (hkey : parsePublicKey job.terms.providerKey = .ok providerKey)
    (h : job.Pays round) (remaining : Nat) (progress : PaymentProgress) :
    Runs (job.rounds (remaining + 1) progress).run
      (job.roundExchanges providerKey round progress.excluded [])
      (some (.ok (PaymentProgress.success { progress with attempts := progress.attempts + 1 }
        job.request))) := by
  have hfind : Runs (findRoute job.terms (job.query progress.excluded)).run
      (round.exchanges providerKey (job.query progress.excluded)) (some (.ok round.route)) :=
    SearchAnswers.Finds.runs ⟨h.finds.fits, h.finds.spliced⟩ hkey
  refine Action.runs_outcome_bind hfind ?_
  exact Action.runs_outcome_bind (runs_sendRoute_of_paid h.paid) (.pure _)

/-- A send that fails at an edge is followed by the rounds that are left, with the edge excluded. -/
theorem runs_rounds_of_retry (hkey : parsePublicKey job.terms.providerKey = .ok providerKey)
    (h : job.Retries retry) {remaining : Nat} {progress : PaymentProgress}
    {log : Transcript Collaborators} {result : Option (Except RouteError PaymentOutcome)}
    (hrest : Runs (job.rounds remaining ⟨progress.excluded ++ [retry.edge], retry.reason, .notify,
      progress.attempts + 1⟩).run log result) :
    Runs (job.rounds (remaining + 1) progress).run
      (retry.exchanges providerKey (job.query progress.excluded) ++
        ([⟨.node (.sendToRoute job.paymentHash retry.route), some (.ok retry.sent)⟩,
          ⟨.node .listPayments, some (.ok retry.payments)⟩] ++ log)) result := by
  have hfind : Runs (findRoute job.terms (job.query progress.excluded)).run
      (retry.exchanges providerKey (job.query progress.excluded)) (some (.ok retry.route)) :=
    SearchAnswers.Finds.runs ⟨h.finds.fits, h.finds.spliced⟩ hkey
  have hsend : Runs (sendRoute job.paymentHash retry.route).run _ (some (.ok (.ofPayments _ _))) :=
    runs_sendRoute_of_recorded h.unpaid retry.payments
  rw [h.blamed] at hsend
  refine Action.runs_outcome_bind hfind ?_
  exact Action.runs_outcome_bind hsend hrest

/-- Rounds that fail at an edge, and one that goes through. -/
theorem runs_rounds_of_retries {last : RoundAnswers} {retries : List RetryAnswers}
    (hkey : parsePublicKey job.terms.providerKey = .ok providerKey)
    (hretries : ∀ retry ∈ retries, job.Retries retry) (hlast : job.Pays last) {remaining : Nat}
    (hlength : retries.length < remaining) (progress : PaymentProgress) :
    Runs (job.rounds remaining progress).run
      (job.roundExchanges providerKey last progress.excluded retries)
      (some (.ok ⟨job.request.paymentHash, .succeeded, .none,
        progress.excluded.length + retries.length, progress.attempts + retries.length + 1⟩)) := by
  -- a retry hands on one round less and one excluded edge more, so both are general
  induction retries generalizing remaining progress with
  | nil =>
    obtain ⟨remaining, rfl⟩ := Nat.exists_eq_succ_of_ne_zero (Nat.ne_of_gt hlength)
    exact runs_rounds_of_paid hkey hlast remaining progress
  | cons retry rest ih =>
    obtain ⟨hretry, hrest⟩ := List.forall_mem_cons.1 hretries
    obtain ⟨remaining, rfl⟩ := Nat.exists_eq_succ_of_ne_zero (Nat.ne_zero_of_lt hlength)
    have hrounds := ih hrest (Nat.lt_of_succ_lt_succ hlength)
      ⟨progress.excluded ++ [retry.edge], retry.reason, .notify, progress.attempts + 1⟩
    have hexcluded : progress.excluded.length + (retry :: rest).length =
        (progress.excluded ++ [retry.edge]).length + rest.length := by
      simp only [List.length_append, List.length_cons, List.length_nil]
      omega
    have hattempts : progress.attempts + (retry :: rest).length =
        progress.attempts + 1 + rest.length := by
      rw [List.length_cons]
      omega
    rw [hexcluded, hattempts]
    exact runs_rounds_of_retry hkey hretry hrounds

/-- A payment goes through after any number of retries under ten, and counts them. -/
theorem runs_pay_of_retries {terms : Terms} {invoice : String} {feeLimitSat amountSat : Int64}
    {part : Transcript Collaborators} {last : RoundAnswers} {retries : List RetryAnswers}
    (hprepare : Runs (preparePayment terms invoice feeLimitSat amountSat).run part (some (.ok job)))
    (hkey : parsePublicKey job.terms.providerKey = .ok providerKey)
    (hretries : ∀ retry ∈ retries, job.Retries retry) (hlast : job.Pays last)
    (hlength : retries.length < maxRounds) :
    Runs (pay terms invoice feeLimitSat amountSat).run
      (part ++ job.roundExchanges providerKey last [] retries)
      (some (.ok ⟨job.request.paymentHash, .succeeded, .none, retries.length,
        retries.length + 1⟩)) := by
  have hrounds := runs_rounds_of_retries hkey hretries hlast hlength .start
  simp only [PaymentProgress.start, List.length_nil, Nat.zero_add] at hrounds
  exact hprepare.bind hrounds

end PaymentJob

/-! ## A payment with two retries -/

namespace Retried

/-- An invoice over a satoshi. -/
def request : PayRequest :=
  ⟨"ff", "01", 1000, 1, 0, 3600, []⟩

/-- Its payment under a fee limit of ten satoshis. -/
def job : PaymentJob :=
  ⟨unitTerms, "invoice", 10, 1, request, [1]⟩

/-- The route from the provider's node to the payee by way of a third node. -/
def offered (via : String) : Route where
  hops := [⟨1, 1000, 0, 100, via, true, none⟩, ⟨2, 1000, 0, 100, "ff", true, none⟩]
  totalTimeLock := 100
  totalFeesMsat := 0
  totalAmountMsat := 1000

/-- The same behind a hop to the provider's node. -/
def route (via : String) : Route where
  hops := ⟨9, 1000, 0, 100, "02", true, none⟩ :: (offered via).hops
  totalTimeLock := 140
  totalFeesMsat := 0
  totalAmountMsat := 1000

/-- A round whose send ends with this error. -/
def round (via error : String) : RoundAnswers where
  toSealedAnswer := sevenfold ⟨[offered via], ⟨0⟩⟩
  channels := [⟨9, 9, "02", "", 10, 5, 5, 0, 0, 0⟩]
  route := route via
  sent := ⟨error, [], []⟩

/-- A round whose send fails at the edge from the third node to the payee. -/
def retry (via : String) (source : Bytes) : RetryAnswers where
  toRoundAnswers := round via "failed"
  payments := [⟨"01", .failed, .noRoute, [⟨route via, some ⟨"", 2⟩⟩]⟩]
  reason := .noRoute
  edge := ⟨source, [0xff]⟩

/-- Two nodes fail to forward, and a third one does not. -/
def log : Transcript Collaborators :=
  [⟨.node (.decodePayRequest "invoice"), some (.ok request)⟩, ⟨.now, some 0⟩] ++
    job.roundExchanges ⟨Secp256k1.generator⟩ (round "cc" "") []
      [retry "aa" [0xaa], retry "bb" [0xbb]]

/-- The node's record tells of the route that was sent. -/
theorem route_of_recorded (via : String) (source : Bytes) (payment : Payment)
    (hfind : ((retry via source).payments.find? fun p => p.paymentHash = Hex.encode [1]) =
      some payment) : ∀ attempt ∈ payment.attempts, attempt.route = route via := by
  intro attempt hattempt
  cases List.mem_singleton.1 (List.mem_of_find?_eq_some hfind)
  rw [List.mem_singleton.1 hattempt]

/-- The first search. -/
def search : Transcript Collaborators :=
  (round "aa" "").exchanges ⟨Secp256k1.generator⟩ (job.query [])

theorem finds : ∀ via ∈ ["aa", "bb", "cc"],
    (round via "").Finds unitTerms (job.query []) (route via) := by
  have hlength : ∀ via ∈ ["aa", "bb", "cc"],
      (Wire.encode (round via "").response).length < UInt64.size := by decide +kernel
  have hspliced : ∀ via ∈ ["aa", "bb", "cc"],
      spliceLocalHop unitTerms ((job.query []).mark (offered via)) (round via "").channels 10 =
        .ok (9, route via) := by decide
  exact fun via hvia =>
    ⟨⟨List.length_replicate, hlength via hvia⟩, offered via, 9, rfl, hspliced via hvia⟩

theorem runs_preparePayment : Runs (preparePayment unitTerms "invoice" 10 1).run
    [⟨.node (.decodePayRequest "invoice"), some (.ok request)⟩, ⟨.now, some 0⟩]
    (some (.ok job)) :=
  runs_preparePayment_ok_iff.2
    ⟨request, 0, request, [1], rfl, by decide, by decide, by decide, rfl⟩

theorem runs_pay :
    Runs (pay unitTerms "invoice" 10 1).run log (some (.ok ⟨"01", .succeeded, .none, 2, 3⟩)) := by
  have hfirst : job.Retries (retry "aa" [0xaa]) :=
    ⟨finds "aa" (by decide), by decide, by decide⟩
  have hsecond : job.Retries (retry "bb" [0xbb]) :=
    ⟨finds "bb" (by decide), by decide, by decide⟩
  have hlast : job.Pays (round "cc" "") := ⟨finds "cc" (by decide), rfl⟩
  refine PaymentJob.runs_pay_of_retries runs_preparePayment parsePublicKey_unitKey ?_ hlast
    (by decide)
  simp only [List.forall_mem_cons]
  exact ⟨hfirst, hsecond, nofun⟩

end Retried

end LiquidityClient
