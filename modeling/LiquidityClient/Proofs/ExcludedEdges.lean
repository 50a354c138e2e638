import LiquidityClient.Proofs.SentRoutes
import Mathlib.Data.List.Basic

/-!
# The edges that a payment excludes

The trail of a payment (`paymentTrail`) is what it asks about routes, sends and records. It falls
into rounds that fail at an edge (`FailedRound`) and what comes after them (`LastRound`). A round
follows those before it (`FailedRound.Follows`) if it asks the provider to avoid the edges at which
they failed, and fails itself at an edge that the node's record names (`Payment.FailedAt`).
`pay_excludes` says that every payment goes this way, and that no edge fails twice if the provider
avoids what it is asked to.
-/

namespace LiquidityClient

open Program

variable {log : Transcript Collaborators}

/-! ## The edge that a record names -/

/-- The payment's single attempt failed at the edge : a node of its route after the first one
reported the failure, and the edge leads into this node from the one before it. -/
def Payment.FailedAt (payment : Payment) (edge : Edge) : Prop :=
  ∃ (route : Route) (failure : HtlcFailure) (source target : Hop),
    payment.attempts = [⟨route, some failure⟩] ∧ 1 ≤ failure.sourceIndex.toNat ∧
      route.hops[failure.sourceIndex.toNat - 1]? = some source ∧
      route.hops[failure.sourceIndex.toNat]? = some target ∧
      Hex.decode source.nodeKey = .ok edge.source ∧ Hex.decode target.nodeKey = .ok edge.target

theorem Edge.ofHex_eq_ok_iff {source target : String} {edge : Edge} :
    Edge.ofHex source target = .ok edge ↔
      Hex.decode source = .ok edge.source ∧ Hex.decode target = .ok edge.target := by
  obtain ⟨s, t⟩ := edge
  unfold Edge.ofHex
  cases Hex.decode source with
  | error e => simp
  | ok s' => cases Hex.decode target <;> simp

theorem Payment.failingEdge?_eq_some_iff {payment : Payment} {edge : Edge} :
    payment.failingEdge? = some edge ↔ payment.FailedAt edge := by
  unfold failingEdge? FailedAt
  constructor
  · intro h
    split at h
    · next route failure hattempts =>
      split at h
      · cases h
      · next i hindex =>
        split at h
        · next source target hsource htarget =>
          refine ⟨route, failure, source, target, hattempts, by omega, ?_, ?_,
            Edge.ofHex_eq_ok_iff.1 (Route.toOption_eq_some_iff.1 h)⟩
          · rwa [hindex, Nat.succ_sub_one]
          · rwa [hindex]
        · cases h
    · cases h
  · rintro ⟨route, failure, source, target, hattempts, hindex, hsource, htarget, hedge⟩
    obtain ⟨i, hi⟩ := Nat.exists_eq_add_of_le' hindex
    rw [hi, Nat.add_sub_cancel] at hsource
    rw [hi] at htarget
    simp only [hattempts, hi, hsource, htarget]
    exact Route.toOption_eq_some_iff.2 (Edge.ofHex_eq_ok_iff.2 hedge)

/-- By the node's record, the payment with this hash failed at the edge : the first payment with the
hash failed for a reason, and at this edge. -/
def Blames (paymentHash : Bytes) (payments : List Payment) (edge : Edge) : Prop :=
  ∃ payment, (payments.find? fun p => p.paymentHash = Hex.encode paymentHash) = some payment ∧
    payment.failureReason ≠ .none ∧ payment.FailedAt edge

theorem blamedEdge?_eq_some_iff {paymentHash : Bytes} {payments : List Payment} {edge : Edge} :
    blamedEdge? paymentHash payments = some edge ↔ Blames paymentHash payments edge := by
  unfold blamedEdge? Blames
  cases payments.find? fun p => p.paymentHash = Hex.encode paymentHash with
  | none => simp
  | some payment =>
    by_cases hreason : payment.failureReason = .none
    · simp [hreason]
    · simp [hreason, Payment.failingEdge?_eq_some_iff]

/-- Why the node's record names no edge for the payment with this hash. -/
inductive Unattributed (paymentHash : Bytes) (payments : List Payment) : Prop
  | noRecord (hfind : (payments.find? fun p => p.paymentHash = Hex.encode paymentHash) = none)
  | noReason {payment : Payment}
      (hfind : (payments.find? fun p => p.paymentHash = Hex.encode paymentHash) = some payment)
      (hreason : payment.failureReason = .none)
  | notSingle {payment : Payment}
      (hfind : (payments.find? fun p => p.paymentHash = Hex.encode paymentHash) = some payment)
      (hattempts : payment.attempts.length ≠ 1)
  | noFailure {payment : Payment} {route : Route}
      (hfind : (payments.find? fun p => p.paymentHash = Hex.encode paymentHash) = some payment)
      (hattempts : payment.attempts = [⟨route, none⟩])
  | badIndex {payment : Payment} {route : Route} {failure : HtlcFailure}
      (hfind : (payments.find? fun p => p.paymentHash = Hex.encode paymentHash) = some payment)
      (hattempts : payment.attempts = [⟨route, some failure⟩])
      (hindex : failure.sourceIndex = 0 ∨ route.hops.length ≤ failure.sourceIndex.toNat)
  | notHex {payment : Payment} {route : Route} {failure : HtlcFailure} {source target : Hop}
      (hfind : (payments.find? fun p => p.paymentHash = Hex.encode paymentHash) = some payment)
      (hattempts : payment.attempts = [⟨route, some failure⟩])
      (hsource : route.hops[failure.sourceIndex.toNat - 1]? = some source)
      (htarget : route.hops[failure.sourceIndex.toNat]? = some target)
      (hhex : Hex.isHex source.nodeKey = false ∨ Hex.isHex target.nodeKey = false)

/-- The record names no edge exactly for one of these reasons. -/
theorem unattributed_iff {paymentHash : Bytes} {payments : List Payment} :
    Unattributed paymentHash payments ↔ ¬∃ edge, Blames paymentHash payments edge := by
  constructor
  · rintro h ⟨edge, payment, hfind, hreason, route, failure, source, target, hattempts, hindex,
      hsource, htarget, hfrom, hto⟩
    cases h with
    | noRecord hfind' => cases hfind'.symm.trans hfind
    | noReason hfind' hreason' =>
      cases hfind'.symm.trans hfind
      exact hreason hreason'
    | notSingle hfind' hattempts' =>
      cases hfind'.symm.trans hfind
      exact hattempts' (by rw [hattempts]; rfl)
    | noFailure hfind' hattempts' =>
      cases hfind'.symm.trans hfind
      cases hattempts'.symm.trans hattempts
    | badIndex hfind' hattempts' hindex' =>
      cases hfind'.symm.trans hfind
      cases hattempts'.symm.trans hattempts
      rcases hindex' with hzero | hend
      · simp [hzero] at hindex
      · rw [List.getElem?_eq_none hend] at htarget
        cases htarget
    | notHex hfind' hattempts' hsource' htarget' hhex =>
      cases hfind'.symm.trans hfind
      cases hattempts'.symm.trans hattempts
      cases hsource'.symm.trans hsource
      cases htarget'.symm.trans htarget
      rcases hhex with hhex | hhex
      · rw [Hex.isHex_eq_true_iff.2 ⟨_, hfrom⟩] at hhex
        cases hhex
      · rw [Hex.isHex_eq_true_iff.2 ⟨_, hto⟩] at hhex
        cases hhex
  · intro h
    cases hfind : payments.find? fun p => p.paymentHash = Hex.encode paymentHash with
    | none => exact .noRecord hfind
    | some payment =>
    by_cases hreason : payment.failureReason = .none
    · exact .noReason hfind hreason
    by_cases hsingle : payment.attempts.length = 1
    swap
    · exact .notSingle hfind hsingle
    obtain ⟨⟨route, _ | failure⟩, hattempts⟩ := List.length_eq_one_iff.1 hsingle
    · exact .noFailure hfind hattempts
    by_cases hindex : failure.sourceIndex = 0 ∨ route.hops.length ≤ failure.sourceIndex.toNat
    · exact .badIndex hfind hattempts hindex
    obtain ⟨hpos, hlt⟩ := not_or.1 hindex
    have hpos : failure.sourceIndex.toNat ≠ 0 := fun hzero => hpos (UInt32.toNat_inj.1 hzero)
    have hsource := List.getElem?_eq_getElem (l := route.hops)
      (show failure.sourceIndex.toNat - 1 < route.hops.length by omega)
    have htarget := List.getElem?_eq_getElem (l := route.hops)
      (show failure.sourceIndex.toNat < route.hops.length by omega)
    refine .notHex hfind hattempts hsource htarget ?_
    by_contra hhex
    obtain ⟨hfrom, hto⟩ := not_or.1 hhex
    obtain ⟨s, hs⟩ := Hex.isHex_eq_true_iff.1 (Bool.of_not_eq_false hfrom)
    obtain ⟨t, ht⟩ := Hex.isHex_eq_true_iff.1 (Bool.of_not_eq_false hto)
    exact h ⟨⟨s, t⟩, payment, hfind, hreason, route, failure, _, _, hattempts, by omega, hsource,
      htarget, hs, ht⟩

/-! ## What a query asks for -/

/-- A query for a route, with the secrets of the one who asks. -/
structure RouteAsk where
  replyKey : SecretKey
  ephemeral : SecretKey
  nonce : { bytes : Bytes // bytes.length = Envelope.nonceLength }
  envelope : Wire.Encrypted
  reply : Option (Except Fault Wire.Encrypted)

namespace RouteAsk

/-- The query as the provider sees it. -/
abbrev exchange (ask : RouteAsk) : Exchange Collaborators :=
  ⟨.provider (.queryRoutes ask.envelope), ask.reply⟩

/-- The query after the secrets were drawn. -/
def search (ask : RouteAsk) : Transcript Collaborators :=
  [⟨.freshKey, some ask.replyKey⟩, ⟨.freshKey, some ask.ephemeral⟩,
    ⟨.freshBytes Envelope.nonceLength, some ask.nonce⟩, ask.exchange]

/-- The query is sealed for the provider and asks for a route to the payee of the invoice that
avoids exactly these edges. -/
def Avoids (ask : RouteAsk) (terms : Terms) (invoice : String) (amountSat : Int64)
    (edges : List Edge) : Prop :=
  ∃ providerKey, parsePublicKey terms.providerKey = .ok providerKey ∧
    ask.envelope = sealMessage (α := Wire.QueryRoutesRequest) providerKey
      ⟨ask.ephemeral, ask.nonce.val⟩
      { encryptPubkey := ask.replyKey.publicKey.compressed
        invoice
        ignoredPairs := edges
        amount := amountSat }

/-- The route that the provider offers : the first one in the reply, opened with the reply key. -/
def offered? (ask : RouteAsk) : Option Route :=
  match ask.reply with
  | some (.ok reply) =>
    match openMessage Wire.QueryRoutesResponse ask.replyKey reply with
    | .ok response => response.routes.head?
    | .error _ => none
  | _ => none

end RouteAsk

theorem RouteAsk.offered?_of_received {ask : RouteAsk} {reply : Except Fault Wire.Encrypted}
    {route : Route} (hreply : ask.reply = some reply)
    (h : RouteQuery.received ask.replyKey reply = .ok route) : ask.offered? = some route := by
  rcases reply with cause | reply
  · cases h
  · unfold RouteQuery.received at h
    unfold offered?
    rw [hreply]
    dsimp only at h ⊢
    split at h
    · cases h
    · next response hopen =>
      rw [hopen]
      exact (firstRoute_eq_ok h).1

namespace Request

/-- Is it a query for a route, a send, or a look at the node's record? -/
def isPayment (request : Request) : Bool :=
  isRouteQuery request || isSendOrRecord request

end Request

/-- The queries for routes, the sends and the looks at the node's record, in order. -/
def paymentTrail (log : Transcript Collaborators) : Transcript Collaborators :=
  log.filter fun e => Request.isPayment e.request

theorem paymentTrail_append (log₁ log₂ : Transcript Collaborators) :
    paymentTrail (log₁ ++ log₂) = paymentTrail log₁ ++ paymentTrail log₂ :=
  List.filter_append ..

theorem paymentTrail_eq_nil_iff : paymentTrail log = [] ↔ asked Request.isPayment log = 0 := by
  simp [paymentTrail, asked, List.countP_eq_zero]

theorem paymentTrail_of_quiet (hquiet : Quiet log) (hqueries : asked Request.isRouteQuery log = 0) :
    paymentTrail log = [] := by
  refine List.filter_eq_nil_iff.2 fun e he => ?_
  have hquery : Request.isRouteQuery e.request = false := by
    simpa using List.countP_eq_zero.1 hqueries e he
  simp [Request.isPayment, hquery, hquiet.silent_of_mem he]

theorem SendRun.paymentTrail_eq {paymentHash : Bytes} {route : Route}
    {result : Option (Except Fault SendOutcome)} (h : SendRun paymentHash route log result) :
    paymentTrail log = log := by
  cases h <;> rfl

/-- A search for a route asks for it at most once, and a route that it finds was offered. -/
theorem search_of_runs_requestRoute {terms : Terms} {query : RouteQuery}
    {result : Option (Except RouteError Route)}
    (h : Runs (requestRoute terms query).run log result) :
    (paymentTrail log = [] ∧ ∀ route, result ≠ some (.ok route)) ∨
      ∃ ask : RouteAsk, ask.Avoids terms query.invoice query.amountSat query.ignored ∧
        log = ask.search ∧ ∀ route, result = some (.ok route) → ask.offered? = some route := by
  rw [run_requestRoute] at h
  split at h
  · obtain ⟨rfl, rfl⟩ := Program.runs_pure_iff.1 h
    exact Or.inl ⟨rfl, nofun⟩
  · next providerKey hkey =>
    rcases h.ask_cases with ⟨replyKey, log₁, rfl, hseal⟩ | ⟨rfl, rfl⟩
    swap
    · exact Or.inl ⟨rfl, nofun⟩
    rcases hseal.ask_cases with ⟨ephemeral, log₂, rfl, hnonce⟩ | ⟨rfl, rfl⟩
    swap
    · exact Or.inl ⟨rfl, nofun⟩
    rcases hnonce.ask_cases with ⟨nonce, log₃, rfl, hcall⟩ | ⟨rfl, rfl⟩
    swap
    · exact Or.inl ⟨rfl, nofun⟩
    rcases hcall.ask_cases with ⟨reply, log₄, rfl, hend⟩ | ⟨rfl, rfl⟩
    · obtain ⟨rfl, rfl⟩ := Program.runs_pure_iff.1 hend
      exact Or.inr ⟨⟨replyKey, ephemeral, nonce, _, some reply⟩, ⟨providerKey, hkey, rfl⟩, rfl,
        fun route hroute => RouteAsk.offered?_of_received rfl (Option.some.inj hroute)⟩
    · exact Or.inr ⟨⟨replyKey, ephemeral, nonce, _, none⟩, ⟨providerKey, hkey, rfl⟩, rfl, nofun⟩

theorem RouteQuery.map_nodeKey_mark (query : RouteQuery) (route : Route) :
    (query.mark route).hops.map Hop.nodeKey = route.hops.map Hop.nodeKey := by
  have hkeys (hops : List Hop) : hops.map Hop.nodeKey =
      (hops.map Hop.unmarked).map Hop.nodeKey := by
    rw [List.map_map]
    rfl
  unfold mark
  split_ifs
  · rfl
  · cases hmark : route.attachMultiPath? ⟨query.paymentAddress, query.totalAmountMsat⟩ with
    | none => rfl
    | some marked =>
      obtain ⟨-, rfl⟩ := Route.attachMultiPath?_eq_some hmark
      rw [Option.getD_some, hkeys, Route.map_unmarked_markLast, ← hkeys]

/-- A route that is found leads to the provider's node and from there along the offered route. -/
theorem search_of_runs_findRoute {terms : Terms} {query : RouteQuery}
    {result : Option (Except RouteError Route)} (h : Runs (findRoute terms query).run log result) :
    (paymentTrail log = [] ∧ ∀ route, result ≠ some (.ok route)) ∨
      ∃ ask : RouteAsk, ask.Avoids terms query.invoice query.amountSat query.ignored ∧
        ask.search <:+: log ∧ paymentTrail log = [ask.exchange] ∧
          ∀ route, result = some (.ok route) → ∃ offered, ask.offered? = some offered ∧
            route.hops.map Hop.nodeKey = terms.nodeKey :: offered.hops.map Hop.nodeKey := by
  unfold findRoute at h
  rcases Action.runs_bind_cases h with
    ⟨offered, log₁, log₂, rfl, hrequest, hsplice⟩ | ⟨e, hrequest, rfl⟩ | ⟨hrequest, rfl⟩
  · obtain ⟨-, hne⟩ | ⟨ask, hasks, rfl, hoffered⟩ := search_of_runs_requestRoute hrequest
    · exact absurd rfl (hne offered)
    have hsilent : asked Request.isPayment log₂ = 0 := by
      refine Nat.le_zero.1 (Action.asksAtMost_bind_left
        (Action.asksAtMost_mapError (asksAtMost_request_of_not rfl))
          (fun channels => ?_) _ _ hsplice)
      exact Action.asksAtMost_bind_left (Action.asksAtMost_ofExcept _) fun _ =>
        Action.asksAtMost_pure _
    refine Or.inr ⟨ask, hasks, (List.prefix_append _ _).isInfix, ?_, ?_⟩
    · rw [paymentTrail_append, paymentTrail_eq_nil_iff.2 hsilent]
      rfl
    · rintro route rfl
      obtain ⟨channels, log₃, rfl, hchannel⟩ := Action.runs_node_bind_ok hsplice
      obtain ⟨⟨channelId, spliced⟩, _, _, -, hspliced, hend⟩ := Action.runs_bind_ok hchannel
      obtain ⟨-, hroute⟩ := Action.runs_pure_iff.1 hend
      obtain rfl := Except.ok.inj (Option.some.inj hroute)
      obtain ⟨feeMsat, hprepend, -⟩ :=
        spliceLocalHop_eq_ok (Option.some.inj (Action.runs_ofExcept_iff.1 hspliced).2).symm
      obtain ⟨-, rfl⟩ := Route.prependHop_eq_ok_iff.1 hprepend
      exact ⟨offered, hoffered offered rfl,
        congrArg (terms.nodeKey :: ·) (query.map_nodeKey_mark offered)⟩
  · obtain ⟨htrail, -⟩ | ⟨ask, hasks, rfl, -⟩ := search_of_runs_requestRoute hrequest
    · exact Or.inl ⟨htrail, nofun⟩
    · exact Or.inr ⟨ask, hasks, List.infix_rfl, rfl, nofun⟩
  · obtain ⟨htrail, -⟩ | ⟨ask, hasks, rfl, -⟩ := search_of_runs_requestRoute hrequest
    · exact Or.inl ⟨htrail, nofun⟩
    · exact Or.inr ⟨ask, hasks, List.infix_rfl, rfl, nofun⟩

/-- A send whose failure excludes no edge : if the node's record was read, it names none. -/
theorem SendRun.unattributed {paymentHash : Bytes} {route : Route}
    {result : Option (Except Fault SendOutcome)} (h : SendRun paymentHash route log result)
    (hunblamed : ∀ reason edge, result ≠ some (.ok (.failed reason (some edge))))
    {payments : List Payment} (hmem : Exchange.recordOf (some (.ok payments)) ∈ log) :
    Unattributed paymentHash payments := by
  cases h with
  | recorded sent hsent payments' =>
    obtain rfl : payments = payments' := by simpa using hmem
    rw [ofPayments_eq] at hunblamed
    refine unattributed_iff.2 fun ⟨edge, hblames⟩ =>
      hunblamed (recordedReason paymentHash payments) edge ?_
    rw [blamedEdge?_eq_some_iff.2 hblames]
  | _ => simp at hmem

/-! ## Rounds that exclude an edge -/

/-- A round whose send failed at an edge. -/
structure FailedRound where
  ask : RouteAsk
  /-- The route that was sent. -/
  route : Route
  sent : SendResult
  /-- The node's record after the send. -/
  payments : List Payment
  edge : Edge

/-- What is asked in the round. -/
def FailedRound.exchanges (paymentHash : Bytes) (round : FailedRound) : Transcript Collaborators :=
  [round.ask.exchange, .sending paymentHash round.route (some (.ok round.sent)),
    .recordOf (some (.ok round.payments))]

/-- The edges at which the rounds failed. -/
abbrev failedEdges (rounds : List FailedRound) : List Edge :=
  rounds.map FailedRound.edge

section

variable (terms : Terms) (invoice : String) (amountSat : Int64) (paymentHash : Bytes)
  (excluded : List Edge) (log : Transcript Collaborators)

/-- The round of the run asks to avoid exactly the edges that are excluded, sends what the provider
offers behind a hop to the provider's node, and fails at the edge that the node's record names. -/
structure FailedRound.Follows (round : FailedRound) : Prop where
  asks : round.ask.Avoids terms invoice amountSat excluded
  search : round.ask.search <:+: log
  path_eq : ∃ offered, round.ask.offered? = some offered ∧
    round.route.hops.map Hop.nodeKey = terms.nodeKey :: offered.hops.map Hop.nodeKey
  unpaid : round.sent.paymentError ≠ ""
  blames : Blames paymentHash round.payments round.edge

/-- The trail of a last round, which excludes no edge : the provider is not asked, no route is sent,
or what is sent does not fail at an edge that the node's record names. -/
inductive LastRound : Transcript Collaborators → Prop
  | unasked : LastRound []
  | unsent (ask : RouteAsk) (hasks : ask.Avoids terms invoice amountSat excluded)
      (hsearch : ask.search <:+: log) : LastRound [ask.exchange]
  | sent {send : Transcript Collaborators} {route : Route}
      {result : Option (Except Fault SendOutcome)} (ask : RouteAsk)
      (hasks : ask.Avoids terms invoice amountSat excluded) (hsearch : ask.search <:+: log)
      (hsend : SendRun paymentHash route send result)
      (hunattributed : ∀ payments, .recordOf (some (.ok payments)) ∈ send →
        Unattributed paymentHash payments) :
      LastRound (ask.exchange :: send)

variable {terms invoice amountSat paymentHash excluded log} {log' : Transcript Collaborators}

theorem FailedRound.Follows.mono {round : FailedRound}
    (h : round.Follows terms invoice amountSat paymentHash excluded log) (hlog : log <:+: log') :
    round.Follows terms invoice amountSat paymentHash excluded log' :=
  { h with search := h.search.trans hlog }

theorem LastRound.mono {last : Transcript Collaborators}
    (h : LastRound terms invoice amountSat paymentHash excluded log last) (hlog : log <:+: log') :
    LastRound terms invoice amountSat paymentHash excluded log' last := by
  cases h with
  | unasked => exact .unasked
  | unsent ask hasks hsearch => exact .unsent ask hasks (hsearch.trans hlog)
  | sent ask hasks hsearch hsend hunattributed =>
    exact .sent ask hasks (hsearch.trans hlog) hsend hunattributed

end

namespace PaymentJob

variable (job : PaymentJob) {excluded : List Edge}

/-- Rounds that begin with these edges excluded leave the trail of rounds that fail at an edge, each
with the edges of those before it excluded too, and of a last one. -/
structure Excludes (excluded : List Edge) (rounds : List FailedRound)
    (last log : Transcript Collaborators)
    (result : Option (Except RouteError PaymentOutcome)) : Prop where
  trail_eq : paymentTrail log = rounds.flatMap (FailedRound.exchanges job.paymentHash) ++ last
  follows : ∀ (k : Nat) (round : FailedRound), rounds[k]? = some round →
    round.Follows job.terms job.invoice job.amountSat job.paymentHash
      (excluded ++ failedEdges (rounds.take k)) log
  ends : LastRound job.terms job.invoice job.amountSat job.paymentHash
    (excluded ++ failedEdges rounds) log last
  excludedPairs_eq : ∀ outcome, result = some (.ok outcome) →
    outcome.excludedPairs = excluded.length + rounds.length

variable {job} {last log₁ log₂ : Transcript Collaborators}
  {result : Option (Except RouteError PaymentOutcome)}

theorem Excludes.of_last (htrail : paymentTrail log = last)
    (hends : LastRound job.terms job.invoice job.amountSat job.paymentHash excluded log last)
    (hresult : ∀ outcome, result = some (.ok outcome) → outcome.excludedPairs = excluded.length) :
    job.Excludes excluded [] last log result where
  trail_eq := htrail
  follows _ _ h := by cases h
  ends := by simpa using hends
  excludedPairs_eq := hresult

/-- A part without a trail in front. -/
theorem Excludes.silent_append {rounds : List FailedRound}
    (h : job.Excludes excluded rounds last log₂ result) (hsilent : paymentTrail log₁ = []) :
    job.Excludes excluded rounds last (log₁ ++ log₂) result where
  trail_eq := by rw [paymentTrail_append, hsilent, List.nil_append, h.trail_eq]
  follows k round hround := (h.follows k round hround).mono (List.suffix_append _ _).isInfix
  ends := h.ends.mono (List.suffix_append _ _).isInfix
  excludedPairs_eq := h.excludedPairs_eq

/-- A round that fails at an edge in front of the others. -/
theorem Excludes.cons {round : FailedRound} {rounds : List FailedRound}
    (hround : round.Follows job.terms job.invoice job.amountSat job.paymentHash excluded log₁)
    (htrail : paymentTrail log₁ = round.exchanges job.paymentHash)
    (h : job.Excludes (excluded ++ [round.edge]) rounds last log₂ result) :
    job.Excludes excluded (round :: rounds) last (log₁ ++ log₂) result where
  trail_eq := by
    rw [paymentTrail_append, htrail, h.trail_eq, List.flatMap_cons, List.append_assoc]
  follows k later hlater := by
    cases k with
    | zero =>
      cases hlater
      simpa using hround.mono (List.prefix_append log₁ log₂).isInfix
    | succ k => simpa using (h.follows k later hlater).mono (List.suffix_append log₁ log₂).isInfix
  ends := by simpa using h.ends.mono (List.suffix_append log₁ log₂).isInfix
  excludedPairs_eq outcome houtcome := by
    have := h.excludedPairs_eq outcome houtcome
    simp only [List.length_append, List.length_cons, List.length_nil] at this ⊢
    omega

theorem excludedPairs_of_giveUp {failure : PaymentOutcome} {n : Nat}
    (hresult : result = none ∨ result = some (.ok failure)) (hfailure : failure.excludedPairs = n)
    (outcome : PaymentOutcome) (houtcome : result = some (.ok outcome)) :
    outcome.excludedPairs = n := by
  rcases hresult with rfl | rfl
  · cases houtcome
  · cases houtcome
    exact hfailure

theorem excludedPairs_of_none {n : Nat} (outcome : PaymentOutcome)
    (houtcome : (none : Option (Except RouteError PaymentOutcome)) = some (.ok outcome)) :
    outcome.excludedPairs = n := by
  cases houtcome

/-- What a search for a route asks of the provider, if it asks. -/
structure Searches (job : PaymentJob) (excluded : List Edge) (ask : RouteAsk)
    (log : Transcript Collaborators) : Prop where
  asks : ask.Avoids job.terms job.invoice job.amountSat excluded
  search : ask.search <:+: log
  trail_eq : paymentTrail log = [ask.exchange]

/-- A send that names no edge ends the rounds. -/
theorem Excludes.of_send {ask : RouteAsk} {route : Route}
    {search send rest : Transcript Collaborators}
    {sent : Option (Except Fault SendOutcome)} (hsearch : job.Searches excluded ask search)
    (hsend : SendRun job.paymentHash route send sent)
    (hunblamed : ∀ reason edge, sent ≠ some (.ok (.failed reason (some edge))))
    (hrest : paymentTrail rest = [])
    (hresult : ∀ outcome, result = some (.ok outcome) → outcome.excludedPairs = excluded.length) :
    job.Excludes excluded [] (ask.exchange :: send) (search ++ (send ++ rest)) result := by
  refine .of_last ?_ (.sent ask hsearch.asks (hsearch.search.trans (List.prefix_append _ _).isInfix)
    hsend fun payments => hsend.unattributed hunblamed) hresult
  rw [paymentTrail_append, paymentTrail_append, hsearch.trail_eq, hsend.paymentTrail_eq, hrest,
    List.append_nil, List.singleton_append]

/-- What follows a send : the end of the payment, or the rounds that are left. -/
theorem exists_excludes_of_afterSend (progress : PaymentProgress) {ask : RouteAsk}
    {route offered : Route} {search send rest : Transcript Collaborators}
    {retry : PaymentProgress → Action RouteError PaymentOutcome} {sent : Except Fault SendOutcome}
    (hretry : ∀ progress' : PaymentProgress, Runs (retry progress').run rest result →
      ∃ rounds last, job.Excludes progress'.excluded rounds last rest result)
    (hsearch : job.Searches progress.excluded ask search) (hoffered : ask.offered? = some offered)
    (hpath : route.hops.map Hop.nodeKey = job.terms.nodeKey :: offered.hops.map Hop.nodeKey)
    (hsend : SendRun job.paymentHash route send (some sent))
    (hend : Runs (job.afterSend progress retry sent).run rest result) :
    ∃ rounds last, job.Excludes progress.excluded rounds last
      (search ++ (send ++ rest)) result := by
  rcases sent with cause | (_ | ⟨reason, _ | edge⟩)
  · obtain ⟨hquiet, hqueries, hresult⟩ := runs_report_throw_cases hend
    exact ⟨[], _, .of_send hsearch hsend nofun (paymentTrail_of_quiet hquiet hqueries)
      fun outcome houtcome => absurd houtcome (hresult outcome)⟩
  · obtain ⟨rfl, rfl⟩ := Action.runs_pure_iff.1 hend
    refine ⟨[], _, .of_send hsearch hsend nofun rfl ?_⟩
    rintro _ ⟨⟩
    rfl
  · obtain ⟨hquiet, hqueries, hresult⟩ := runs_giveUp_cases hend
    exact ⟨[], _, .of_send hsearch hsend nofun (paymentTrail_of_quiet hquiet hqueries)
      (excludedPairs_of_giveUp hresult rfl)⟩
  · obtain ⟨result', payments, hunpaid, -, hblame, rfl⟩ := hsend.failed_cases
    obtain ⟨rounds, last, hrounds⟩ := hretry _ hend
    rw [← List.append_assoc]
    refine ⟨⟨ask, route, result', payments, edge⟩ :: rounds, last, .cons
      ⟨hsearch.asks, hsearch.search.trans (List.prefix_append _ _).isInfix,
        ⟨offered, hoffered, hpath⟩, hunpaid, blamedEdge?_eq_some_iff.1 hblame⟩ ?_ hrounds⟩
    rw [paymentTrail_append, hsearch.trail_eq]
    rfl

/-- A search for a route that is the last thing asked. -/
theorem lastRound_of_runs_findRoute {r : Option (Except RouteError Route)}
    (h : Runs (findRoute job.terms (job.query excluded)).run log r) :
    LastRound job.terms job.invoice job.amountSat job.paymentHash excluded log
      (paymentTrail log) := by
  obtain ⟨htrail, -⟩ | ⟨ask, hasks, hsearch, htrail, -⟩ := search_of_runs_findRoute h
  · rw [htrail]
    exact .unasked
  · rw [htrail]
    exact .unsent ask hasks hsearch

/-- Any number of rounds exclude the edges at which they fail. -/
theorem exists_excludes_of_runs_rounds (job : PaymentJob) (remaining : Nat)
    (progress : PaymentProgress) (h : Runs (job.rounds remaining progress).run log result) :
    ∃ rounds last, job.Excludes progress.excluded rounds last log result := by
  -- A round that goes on hands its edge to those that follow, so the list of excluded edges is
  -- general.
  induction remaining generalizing progress log with
  | zero =>
    obtain ⟨hquiet, hqueries, hresult⟩ := runs_giveUp_cases h
    exact ⟨[], [], .of_last (paymentTrail_of_quiet hquiet hqueries) .unasked
      (excludedPairs_of_giveUp hresult rfl)⟩
  | succ remaining ih =>
    unfold PaymentJob.rounds at h
    rcases Action.runs_outcome_bind_cases h with
      ⟨found, search, log₂, rfl, hfind, hrest⟩ | ⟨hfind, rfl⟩
    · cases found with
      | error cause =>
        obtain ⟨hquiet, hqueries, hresult⟩ := runs_giveUp_cases hrest
        refine ⟨[], _, .of_last ?_ ((lastRound_of_runs_findRoute hfind).mono
          (List.prefix_append _ _).isInfix) (excludedPairs_of_giveUp hresult rfl)⟩
        rw [paymentTrail_append, paymentTrail_of_quiet hquiet hqueries, List.append_nil]
      | ok route =>
        obtain ⟨-, hne⟩ | ⟨ask, hasks, hsearch, htrail, hroute⟩ := search_of_runs_findRoute hfind
        · exact absurd rfl (hne route)
        obtain ⟨offered, hoffered, hpath⟩ := hroute route rfl
        rcases Action.runs_outcome_bind_cases hrest with
          ⟨sent, send, rest, rfl, hsend, hend⟩ | ⟨hsend, rfl⟩
        · exact exists_excludes_of_afterSend { progress with attempts := progress.attempts + 1 }
            ih ⟨hasks, hsearch, htrail⟩ hoffered hpath (sendRun_of_runs hsend) hend
        · have hlast : job.Excludes progress.excluded [] (ask.exchange :: log₂)
              (search ++ (log₂ ++ [])) none :=
            .of_send ⟨hasks, hsearch, htrail⟩ (sendRun_of_runs hsend)
              (fun _ _ => (Option.some_ne_none _).symm) rfl excludedPairs_of_none
          rw [List.append_nil] at hlast
          exact ⟨[], _, hlast⟩
    · exact ⟨[], _, .of_last rfl (lastRound_of_runs_findRoute hfind) excludedPairs_of_none⟩

end PaymentJob

/-! ## A whole payment -/

/-- A path of nodes leads over the edge. -/
def LeadsOver (nodes : List String) (edge : Edge) : Prop :=
  ∃ (i : Nat) (source target : String), nodes[i]? = some source ∧ nodes[i + 1]? = some target ∧
    Hex.decode source = .ok edge.source ∧ Hex.decode target = .ok edge.target

/-- A route leads over the edge at which its payment failed. -/
theorem Payment.FailedAt.leadsOver {payment : Payment} {edge : Edge} {route : Route}
    (h : payment.FailedAt edge) (hroute : ∀ attempt ∈ payment.attempts, attempt.route = route) :
    LeadsOver (route.hops.map Hop.nodeKey) edge := by
  obtain ⟨route', failure, source, target, hattempts, hindex, hsource, htarget, hfrom, hto⟩ := h
  obtain rfl : route' = route := hroute ⟨route', some failure⟩ (by simp [hattempts])
  refine ⟨failure.sourceIndex.toNat - 1, source.nodeKey, target.nodeKey, ?_, ?_, hfrom, hto⟩
  · rw [List.getElem?_map, hsource, Option.map_some]
  · rw [Nat.sub_add_cancel hindex, List.getElem?_map, htarget, Option.map_some]

/-- No route that the provider offers leads over an edge at which a round before it failed. -/
def ProviderAvoids (terms : Terms) (rounds : List FailedRound) : Prop :=
  ∀ (k : Nat) (round : FailedRound) (offered : Route), rounds[k]? = some round →
    round.ask.offered? = some offered → ∀ edge ∈ failedEdges (rounds.take k),
      ¬LeadsOver (terms.nodeKey :: offered.hops.map Hop.nodeKey) edge

/-- The node's record of the payment with this hash tells of the route that was just sent. -/
def NodeRecords (paymentHash : Bytes) (rounds : List FailedRound) : Prop :=
  ∀ round ∈ rounds, ∀ payment,
    (round.payments.find? fun p => p.paymentHash = Hex.encode paymentHash) = some payment →
      ∀ attempt ∈ payment.attempts, attempt.route = round.route

section

variable {terms : Terms} {invoice : String} {amountSat : Int64} {paymentHash : Bytes}
  {rounds : List FailedRound}
  (hfollows : ∀ (k : Nat) (round : FailedRound), rounds[k]? = some round →
    round.Follows terms invoice amountSat paymentHash (failedEdges (rounds.take k)) log)

include hfollows

/-- What is sent leads along what was offered, so that the routes that are sent tell whether the
provider avoids the excluded edges. -/
theorem providerAvoids_iff : ProviderAvoids terms rounds ↔
    ∀ (k : Nat) (round : FailedRound), rounds[k]? = some round →
      ∀ edge ∈ failedEdges (rounds.take k),
        ¬LeadsOver (round.route.hops.map Hop.nodeKey) edge := by
  constructor
  · intro havoids k round hround
    obtain ⟨offered, hoffered, hpath⟩ := (hfollows k round hround).path_eq
    rw [hpath]
    exact havoids k round offered hround hoffered
  · intro havoids k round offered hround hoffered
    obtain ⟨offered', hoffered', hpath⟩ := (hfollows k round hround).path_eq
    obtain rfl := Option.some.inj (hoffered.symm.trans hoffered')
    rw [← hpath]
    exact havoids k round hround

/-- If the provider avoids the excluded edges, and the node records what was sent, no edge fails
twice. -/
theorem nodup_failedEdges (havoids : ProviderAvoids terms rounds)
    (hrecords : NodeRecords paymentHash rounds) : (failedEdges rounds).Nodup := by
  refine List.pairwise_map.2 (List.pairwise_iff_getElem.2 fun i j hi hj hij heq => ?_)
  have hround := List.getElem?_eq_getElem hj
  obtain ⟨payment, hfind, -, hfailed⟩ := (hfollows j _ hround).blames
  have hleads := hfailed.leadsOver (hrecords _ (List.getElem_mem hj) payment hfind)
  rw [← heq] at hleads
  refine (providerAvoids_iff hfollows).1 havoids j _ hround _ (List.mem_map_of_mem ?_) hleads
  exact List.mem_take_iff_getElem.2 ⟨i, by omega, rfl⟩

end

/-- A payment that passes the first checks excludes edges as its rounds do, and any other leaves no
trail. -/
theorem excludes_of_runs_pay {terms : Terms} {invoice : String} {feeLimitSat amountSat : Int64}
    {result : Option (Except RouteError PaymentOutcome)}
    (h : Runs (pay terms invoice feeLimitSat amountSat).run log result) :
    (paymentTrail log = [] ∧ ∀ outcome, result ≠ some (.ok outcome)) ∨
      ∃ (job : PaymentJob) (rounds : List FailedRound) (last : Transcript Collaborators),
        job.terms = terms ∧ job.invoice = invoice ∧ job.amountSat = amountSat ∧
          job.paymentHash = invoiceHash log ∧ job.Excludes [] rounds last log result := by
  have hsilent {log₁ : Transcript Collaborators} {r : Option (Except RouteError PaymentJob)}
      (hprepare : Runs (preparePayment terms invoice feeLimitSat amountSat).run log₁ r) :
      paymentTrail log₁ = [] :=
    paymentTrail_eq_nil_iff.2 (Nat.le_zero.1
      (asksAtMost_preparePayment (fun _ => rfl) rfl _ _ _ _ log₁ r hprepare))
  rcases Action.runs_bind_cases h with
    ⟨job, log₁, log₂, rfl, hprepare, hrounds⟩ | ⟨e, hprepare, rfl⟩ | ⟨hprepare, rfl⟩
  · obtain ⟨hterms, hinvoice, -, hamount⟩ := job_of_runs_preparePayment hprepare
    obtain ⟨rounds, last, hexcludes⟩ :=
      PaymentJob.exists_excludes_of_runs_rounds job maxRounds .start hrounds
    exact Or.inr ⟨job, rounds, last, hterms, hinvoice, hamount,
      (invoiceHash_of_runs_preparePayment hprepare log₂).symm,
      hexcludes.silent_append (hsilent hprepare)⟩
  · exact Or.inl ⟨hsilent hprepare, nofun⟩
  · exact Or.inl ⟨hsilent hprepare, nofun⟩

/-- Whatever the provider and the node answer, the trail of a payment is that of rounds that fail at
an edge, and of a last one that excludes none. In each round the provider is asked to avoid exactly
the edges at which the rounds before it failed, as the node's record names them. If the provider
avoids them, and the node records what was sent, they are pairwise distinct. -/
theorem pay_excludes {σ : Type} (answer : (r : Request) → σ → Option r.Reply × σ) (state : σ)
    (terms : Terms) (invoice : String) (feeLimitSat amountSat : Int64) :
    let (result, log) := record answer (pay terms invoice feeLimitSat amountSat).run state
    ∃ (rounds : List FailedRound) (last : Transcript Collaborators),
      paymentTrail log = rounds.flatMap (FailedRound.exchanges (invoiceHash log)) ++ last ∧
      (∀ (k : Nat) (round : FailedRound), rounds[k]? = some round →
        round.Follows terms invoice amountSat (invoiceHash log) (failedEdges (rounds.take k)) log) ∧
      LastRound terms invoice amountSat (invoiceHash log) (failedEdges rounds) log last ∧
      (∀ outcome, result = some (.ok outcome) → outcome.excludedPairs = rounds.length) ∧
      (ProviderAvoids terms rounds → NodeRecords (invoiceHash log) rounds →
        (failedEdges rounds).Nodup) := by
  have hrun := runs_record answer (pay terms invoice feeLimitSat amountSat).run state
  generalize record answer (pay terms invoice feeLimitSat amountSat).run state = recorded at hrun ⊢
  obtain ⟨result, log⟩ := recorded
  rcases excludes_of_runs_pay hrun with
    ⟨htrail, hresult⟩ | ⟨job, rounds, last, rfl, rfl, rfl, hhash, hexcludes⟩
  · exact ⟨[], [], htrail, nofun, .unasked, fun outcome h => absurd h (hresult outcome),
      fun _ _ => List.nodup_nil⟩
  · dsimp only
    rw [← hhash]
    have hfollows := hexcludes.follows
    simp only [List.nil_append] at hfollows
    exact ⟨rounds, last, hexcludes.trail_eq, hfollows, hexcludes.ends,
      fun outcome h => (hexcludes.excludedPairs_eq outcome h).trans (Nat.zero_add _),
      nodup_failedEdges hfollows⟩

/-- With two retries two edges are excluded, which the routes sent after them do not lead over. -/
theorem pay_excludes_retried :
    ∃ (rounds : List FailedRound) (last : Transcript Collaborators),
      let log := (record (I := Collaborators) replayed
        (pay unitTerms "invoice" 10 1).run Retried.log).2
      paymentTrail log = rounds.flatMap (FailedRound.exchanges (invoiceHash log)) ++ last ∧
      failedEdges rounds = [⟨[0xaa], [0xff]⟩, ⟨[0xbb], [0xff]⟩] ∧
      ProviderAvoids unitTerms rounds ∧ NodeRecords (invoiceHash log) rounds ∧
      (failedEdges rounds).Nodup := by
  obtain ⟨q₁, q₂, q₃, hretried⟩ : ∃ q₁ q₂ q₃, paymentTrail Retried.log =
      [q₁, .sending [1] (Retried.route "aa") (some (.ok ⟨"failed", [], []⟩)),
        .recordOf (some (.ok (Retried.retry "aa" [0xaa]).payments)),
        q₂, .sending [1] (Retried.route "bb") (some (.ok ⟨"failed", [], []⟩)),
        .recordOf (some (.ok (Retried.retry "bb" [0xbb]).payments)),
        q₃, .sending [1] (Retried.route "cc") (some (.ok ⟨"", [], []⟩))] :=
    ⟨_, _, _, rfl⟩
  have hhash : invoiceHash Retried.log = [1] := by decide
  have hrun := Retried.runs_pay
  generalize Retried.log = log at hretried hhash hrun ⊢
  have hpay := pay_excludes (replayed (I := Collaborators)) log unitTerms "invoice" 10 1
  rw [hrun.record_replayed] at hpay ⊢
  dsimp only at hpay ⊢
  rw [hhash] at hpay ⊢
  obtain ⟨rounds, last, htrail, hfollows, -, hpairs, hnodup⟩ := hpay
  obtain ⟨⟨ask, route, sent, payments, edge⟩, ⟨ask', route', sent', payments', edge'⟩, rfl⟩ :=
    List.length_eq_two.1 (hpairs _ rfl).symm
  have hrounds := htrail
  rw [hretried] at hrounds
  simp only [List.flatMap_cons, List.flatMap_nil, FailedRound.exchanges, List.append_nil,
    List.cons_append, List.nil_append] at hrounds
  cases hrounds
  obtain rfl : edge = ⟨[0xaa], [0xff]⟩ := by
    have hblamed : blamedEdge? [1] (Retried.retry "aa" [0xaa]).payments = some edge :=
      blamedEdge?_eq_some_iff.2 (hfollows 0 _ rfl).blames
    exact Option.some.inj (hblamed.symm.trans (by decide))
  obtain rfl : edge' = ⟨[0xbb], [0xff]⟩ := by
    have hblamed : blamedEdge? [1] (Retried.retry "bb" [0xbb]).payments = some edge' :=
      blamedEdge?_eq_some_iff.2 (hfollows 1 _ rfl).blames
    exact Option.some.inj (hblamed.symm.trans (by decide))
  have hnodes : ∀ node ∈ (Retried.route "bb").hops.map Hop.nodeKey,
      Hex.decode node ≠ .ok [0xaa] := by
    decide
  have havoids := (providerAvoids_iff hfollows).2 fun k round hround failed hfailed hleads => by
    obtain ⟨i, source, target, hsource, -, hdecode, -⟩ := hleads
    rcases k with _ | _ | k
    · cases hfailed
    · cases hround
      cases List.mem_singleton.1 hfailed
      exact hnodes source (List.mem_of_getElem? hsource) hdecode
    · cases hround
  suffices hrecords : NodeRecords [1] _ from
    ⟨_, _, htrail, rfl, havoids, hrecords, hnodup havoids hrecords⟩
  intro round hround payment hfind
  rcases List.mem_cons.1 hround with rfl | hround
  · exact Retried.route_of_recorded "aa" [0xaa] payment hfind
  · cases List.mem_singleton.1 hround
    exact Retried.route_of_recorded "bb" [0xbb] payment hfind

end LiquidityClient
