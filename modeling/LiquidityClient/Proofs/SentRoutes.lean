import LiquidityClient.Proofs.PaymentRounds
import LiquidityClient.Proofs.RebalanceRequests
import LiquidityClient.Proofs.RouteConsistency

/-!
# The routes that are sent

A search for a route extends the route that the provider offered by a hop to the provider
(`extends_of_runs_findRoute`), a payment sends only routes that its searches found
(`sendsSearched_of_runs_pay`), and a rebalance sends only circular routes
(`Rebalance.sendsCircular_of_runs`). `routes_consistent` joins this with what `Route.Consistent`
says of each : every route that is sent is consistent if the provider's routes are, and, for a
rebalance, if the time lock does not overflow.
-/

namespace LiquidityClient

open Program

variable {log : Transcript Collaborators}

/-! ## What the provider offers -/

/-- In a search with this transcript the provider offered the route : it is the first one in the
reply to the query, opened with the key that was drawn first. -/
def Offered (log : Transcript Collaborators) (route : Route) : Prop :=
  ∃ (key : SecretKey) (envelope reply : Wire.Encrypted) (response : Wire.QueryRoutesResponse),
    log.head? = some ⟨.freshKey, some key⟩ ∧
      ⟨.provider (.queryRoutes envelope), some (.ok reply)⟩ ∈ log ∧
      openMessage Wire.QueryRoutesResponse key reply = .ok response ∧
      response.routes.head? = some route

theorem firstRoute_eq_ok {response : Wire.QueryRoutesResponse} {route : Route}
    (h : RouteQuery.firstRoute response = .ok route) :
    response.routes.head? = some route ∧ route.hops ≠ [] := by
  unfold RouteQuery.firstRoute at h
  split at h
  · cases h
  · next heq =>
    split_ifs at h with hempty
    cases h
    exact ⟨by rw [heq]; rfl, by simpa [Route.isEmpty] using hempty⟩

theorem offered_of_runs_requestRoute {terms : Terms} {query : RouteQuery} {route : Route}
    (h : Runs (requestRoute terms query).run log (some (.ok route))) :
    Offered log route ∧ route.hops ≠ [] := by
  unfold requestRoute at h
  obtain ⟨providerKey, -, hquery⟩ := Action.runs_ofExcept_mapError_bind_ok h
  obtain ⟨replyKey, log₁, rfl, hsealed⟩ := Action.runs_ask_bind_ok hquery
  obtain ⟨envelope, log₂, log₃, rfl, -, hcall⟩ := Action.runs_bind_ok hsealed
  obtain ⟨reply, log₄, rfl, hopen⟩ := Action.runs_provider_bind_ok hcall
  obtain ⟨response, hresponse, hfirst⟩ := Action.runs_ofExcept_mapError_bind_ok hopen
  obtain ⟨rfl, hroute⟩ := Action.runs_ofExcept_iff.1 hfirst
  obtain ⟨hfirst, hhops⟩ := firstRoute_eq_ok (Option.some.inj hroute).symm
  exact ⟨⟨replyKey, envelope, reply, response, rfl, by simp, hresponse, hfirst⟩, hhops⟩

theorem Offered.append {route : Route} (h : Offered log route) (rest : Transcript Collaborators) :
    Offered (log ++ rest) route := by
  obtain ⟨key, envelope, reply, response, hkey, hreply, hopen, hroute⟩ := h
  refine ⟨key, envelope, reply, response, ?_, List.mem_append_left _ hreply, hopen, hroute⟩
  rw [List.head?_append, hkey]
  rfl

/-- With sealed answers the provider offers the first route of its response. -/
theorem SearchAnswers.offered_iff {answers : SearchAnswers} {providerKey : PublicKey}
    {query : RouteQuery} {route : Route} (hfits : answers.Fits) :
    Offered (answers.exchanges providerKey query) route ↔
      answers.response.routes.head? = some route := by
  have hopens := hfits.opens (by decide)
  constructor
  · rintro ⟨key, envelope, reply, response, hkey, hreply, hopen, hroute⟩
    cases hkey
    obtain ⟨-, rfl⟩ : envelope = _ ∧ reply = answers.reply := by
      simpa [exchanges, queryExchanges] using hreply
    obtain rfl := Except.ok.inj (hopen.symm.trans hopens)
    rwa [routes_positiveZeros] at hroute
  · intro hroute
    refine ⟨answers.replyKey,
      query.sealed providerKey answers.replyKey ⟨answers.ephemeral, answers.nonce.val⟩,
      answers.reply, _, rfl, by simp [exchanges, queryExchanges], hopens, ?_⟩
    rwa [routes_positiveZeros]

/-! ## What a search makes of it -/

namespace RouteQuery

/-- The last hop, with the multi-path record if the invoice has a payment address. -/
def markHop (query : RouteQuery) (last : Hop) : Hop :=
  if query.paymentAddress.isEmpty then last
  else { last with multiPath := some ⟨query.paymentAddress, query.totalAmountMsat⟩ }

variable {query : RouteQuery} {route : Route}

theorem hops_mark {front : List Hop} {last : Hop} (h : route.hops = front ++ [last]) :
    (query.mark route).hops = front ++ [query.markHop last] := by
  unfold mark markHop
  split_ifs
  · exact h
  · simp [Route.attachMultiPath?, Route.isEmpty, h, Route.markLast_append]

theorem consistent_mark (h : route.Consistent) : (query.mark route).Consistent := by
  unfold mark
  split_ifs
  · exact h
  · cases hmark : route.attachMultiPath? ⟨query.paymentAddress, query.totalAmountMsat⟩ with
    | none => exact h
    | some marked => exact h.attachMultiPath hmark

end RouteQuery

/-- The route is the offered one behind one more hop, its last hop marked as the query says. If the
offered route is consistent, so is this one, and what leaves the wallet is what the last hop
forwards and the fees, which are under the limit. -/
structure RouteQuery.Extends (query : RouteQuery) (offered route : Route) : Prop where
  hops_eq : ∃ head front last, offered.hops = front ++ [last] ∧
    route.hops = head :: (front ++ [query.markHop last])
  consistent : offered.Consistent → route.Consistent
  fees_lt : route.totalFeesMsat.toInt < 1000 * query.feeLimitSat.toInt
  amount_eq : offered.Consistent → ∀ last ∈ route.hops.getLast?,
    route.totalAmountMsat.toInt = last.amountMsat.toInt + route.totalFeesMsat.toInt

/-- A search that finds a route extends the route that the provider offered. -/
theorem extends_of_runs_findRoute {terms : Terms} {query : RouteQuery} {route : Route}
    (h : Runs (findRoute terms query).run log (some (.ok route))) :
    ∃ offered, Offered log offered ∧ query.Extends offered route := by
  obtain ⟨offered, log₁, log₂, rfl, hoffered, hsplice⟩ := Action.runs_bind_ok h
  obtain ⟨hoffered, hhops⟩ := offered_of_runs_requestRoute hoffered
  obtain ⟨channels, log₃, rfl, hchannel⟩ := Action.runs_node_bind_ok hsplice
  obtain ⟨⟨channelId, spliced⟩, _, _, -, hspliced, hend⟩ := Action.runs_bind_ok hchannel
  obtain ⟨-, hroute⟩ := Action.runs_pure_iff.1 hend
  obtain rfl := Except.ok.inj (Option.some.inj hroute)
  obtain ⟨feeMsat, hprepend, hfees⟩ :=
    spliceLocalHop_eq_ok (Option.some.inj (Action.runs_ofExcept_iff.1 hspliced).2).symm
  have hconsistent (hoffered : offered.Consistent) : route.Consistent :=
    (RouteQuery.consistent_mark hoffered).prependHop hprepend
  refine ⟨offered, hoffered.append _, ⟨?_, hconsistent, hfees, fun hoffered last hlast =>
    (hconsistent hoffered).amount_eq_add_fees hlast⟩⟩
  obtain ⟨front, last, hlast⟩ := (List.eq_nil_or_concat offered.hops).resolve_left hhops
  obtain ⟨-, rfl⟩ := Route.prependHop_eq_ok_iff.1 hprepend
  rw [List.concat_eq_append] at hlast
  exact ⟨_, front, last, hlast, congrArg _ (RouteQuery.hops_mark hlast)⟩

/-! ## What a payment sends -/

namespace Exchange

/-- The route over which a payment is sent. -/
def sentRoute? : Exchange Collaborators → Option Route
  | ⟨.node (.sendToRoute _ route), _⟩ => some route
  | _ => none

theorem sentRoute?_eq_some {e : Exchange Collaborators} {route : Route}
    (h : e.sentRoute? = some route) :
    ∃ paymentHash, e.request = .node (.sendToRoute paymentHash route) := by
  unfold sentRoute? at h
  split at h
  · cases h
    exact ⟨_, rfl⟩
  · cases h

end Exchange

theorem sentRoute?_of_quiet (h : Quiet log) :
    ∀ e ∈ log, Exchange.sentRoute? e = none := by
  intro e he
  have hsilent := (Exchange.silent (h.silent_of_mem he) []).2.2.2
  rcases e with ⟨request, reply⟩
  rcases request with _ | request | _ | _ | _ | _ | _
  case node => cases request <;> first | rfl | cases hsilent
  all_goals rfl

/-- The route was found in a part of the run, by a search with these terms and this limit. -/
def Searched (terms : Terms) (feeLimitSat : Int64) (log : Transcript Collaborators)
    (route : Route) : Prop :=
  ∃ query part, query.feeLimitSat = feeLimitSat ∧ part <:+: log ∧
    Runs (findRoute terms query).run part (some (.ok route))

/-- Every route that is sent in the run was found in a part of it. -/
def SendsSearched (terms : Terms) (feeLimitSat : Int64) (log : Transcript Collaborators) : Prop :=
  ∀ e ∈ log, ∀ route, Exchange.sentRoute? e = some route → Searched terms feeLimitSat log route

variable {terms : Terms} {feeLimitSat : Int64} {log₁ log₂ : Transcript Collaborators}

theorem Searched.mono {route : Route} (h : Searched terms feeLimitSat log₁ route)
    (hlog : log₁ <:+: log) : Searched terms feeLimitSat log route := by
  obtain ⟨query, part, hlimit, hpart, hfind⟩ := h
  exact ⟨query, part, hlimit, hpart.trans hlog, hfind⟩

theorem SendsSearched.of_quiet (h : Quiet log) : SendsSearched terms feeLimitSat log := by
  intro e he route hroute
  rw [sentRoute?_of_quiet h e he] at hroute
  cases hroute

theorem SendsSearched.append (h₁ : SendsSearched terms feeLimitSat log₁)
    (h₂ : SendsSearched terms feeLimitSat log₂) :
    SendsSearched terms feeLimitSat (log₁ ++ log₂) := by
  intro e he route hroute
  rcases List.mem_append.1 he with he | he
  · exact (h₁ e he route hroute).mono (List.prefix_append log₁ log₂).isInfix
  · exact (h₂ e he route hroute).mono (List.suffix_append log₁ log₂).isInfix

/-- A send asks for nothing but its route. -/
theorem SendRun.sentRoute?_eq {paymentHash : Bytes} {route : Route}
    {result : Option (Except Fault SendOutcome)} (h : SendRun paymentHash route log result) :
    ∀ e ∈ log, ∀ route', Exchange.sentRoute? e = some route' → route' = route := by
  cases h <;> simp [Exchange.sentRoute?, eq_comm]

/-- A send over a route that was found just before. -/
theorem SendsSearched.search_append {query : RouteQuery} {route : Route} {paymentHash : Bytes}
    {result : Option (Except Fault SendOutcome)}
    (hfind : Runs (findRoute terms query).run log₁ (some (.ok route)))
    (hsend : SendRun paymentHash route log₂ result) :
    SendsSearched terms query.feeLimitSat (log₁ ++ log₂) := by
  intro e he route' hroute
  rcases List.mem_append.1 he with he | he
  · rw [sentRoute?_of_quiet (quiet_of_runs_findRoute hfind) e he] at hroute
    cases hroute
  · rw [hsend.sentRoute?_eq e he route' hroute]
    exact ⟨query, log₁, rfl, (List.prefix_append log₁ log₂).isInfix, hfind⟩

/-- What follows a send : the end of the payment, or the rounds that are left. -/
theorem sendsSearched_of_afterSend {job : PaymentJob} {progress : PaymentProgress}
    {retry : PaymentProgress → Action RouteError PaymentOutcome} {sent : Except Fault SendOutcome}
    {result : Option (Except RouteError PaymentOutcome)}
    (hretry : ∀ progress', Runs (retry progress').run log result →
      SendsSearched job.terms job.feeLimitSat log)
    (h : Runs (job.afterSend progress retry sent).run log result) :
    SendsSearched job.terms job.feeLimitSat log := by
  rcases sent with cause | (_ | ⟨reason, _ | edge⟩)
  · exact .of_quiet (runs_report_throw_cases h).1
  · obtain ⟨rfl, -⟩ := Action.runs_pure_iff.1 h
    exact .of_quiet rfl
  · exact .of_quiet (runs_giveUp_cases h).1
  · exact hretry _ h

/-- Any number of rounds send only routes that they found. -/
theorem sendsSearched_of_runs_rounds (job : PaymentJob) :
    ∀ (remaining : Nat) (progress : PaymentProgress) {log : Transcript Collaborators}
      {result : Option (Except RouteError PaymentOutcome)},
      Runs (job.rounds remaining progress).run log result →
      SendsSearched job.terms job.feeLimitSat log
  | 0, progress, log, result, h => .of_quiet (runs_giveUp_cases h).1
  | remaining + 1, progress, log, result, h => by
    unfold PaymentJob.rounds at h
    rcases Action.runs_outcome_bind_cases h with
      ⟨found, log₁, log₂, rfl, hfind, hrest⟩ | ⟨hfind, rfl⟩
    · cases found with
      | error cause =>
        exact .append (.of_quiet (quiet_of_runs_findRoute hfind))
          (.of_quiet (runs_giveUp_cases hrest).1)
      | ok route =>
        rcases Action.runs_outcome_bind_cases hrest with
          ⟨sent, log₃, log₄, rfl, hsend, hend⟩ | ⟨hsend, rfl⟩
        · rw [← List.append_assoc]
          exact (SendsSearched.search_append hfind (sendRun_of_runs hsend)).append
            (sendsSearched_of_afterSend
              (fun progress' => sendsSearched_of_runs_rounds job remaining progress') hend)
        · exact .search_append hfind (sendRun_of_runs hsend)
    · exact .of_quiet (quiet_of_runs_findRoute hfind)

/-- The job of a payment that passes the first checks is what was to be paid. -/
theorem job_of_runs_preparePayment {invoice : String} {amountSat : Int64} {job : PaymentJob}
    (h : Runs (preparePayment terms invoice feeLimitSat amountSat).run log (some (.ok job))) :
    job.terms = terms ∧ job.invoice = invoice ∧ job.feeLimitSat = feeLimitSat ∧
      job.amountSat = amountSat := by
  obtain ⟨request, now, request', paymentHash, -, -, -, -, rfl⟩ := runs_preparePayment_ok_iff.1 h
  exact ⟨rfl, rfl, rfl, rfl⟩

/-- A payment sends only routes that it found under its fee limit. -/
theorem sendsSearched_of_runs_pay {invoice : String} {amountSat : Int64}
    {result : Option (Except RouteError PaymentOutcome)}
    (h : Runs (pay terms invoice feeLimitSat amountSat).run log result) :
    SendsSearched terms feeLimitSat log := by
  have hquiet {log₁ : Transcript Collaborators} {r : Option (Except RouteError PaymentJob)}
      (hprepare : Runs (preparePayment terms invoice feeLimitSat amountSat).run log₁ r) :
      Quiet log₁ :=
    Nat.le_zero.1 (asksAtMost_preparePayment (fun _ => rfl) rfl _ _ _ _ log₁ r hprepare)
  rcases Action.runs_bind_cases h with
    ⟨job, log₁, log₂, rfl, hprepare, hrounds⟩ | ⟨e, hprepare, rfl⟩ | ⟨hprepare, rfl⟩
  · obtain ⟨rfl, -, rfl, -⟩ := job_of_runs_preparePayment hprepare
    exact .append (.of_quiet (hquiet hprepare)) (sendsSearched_of_runs_rounds job _ _ hrounds)
  · exact .of_quiet (hquiet hprepare)
  · exact .of_quiet (hquiet hprepare)

/-! ## What a rebalance sends -/

namespace Rebalance

/-- Only circular routes to the provider's node and back are sent. -/
def SendsCircular (terms : Terms) (request : Request) : Prop :=
  ∀ paymentHash route, request = .node (.sendToRoute paymentHash route) →
    ∃ outId inId ownNode amountMsat height paymentAddress, route =
      circularRoute outId inId terms.nodeKey ownNode amountMsat height terms.timeLockDelta
        paymentAddress

theorem sendsCircular_of_runs {settings : RebalanceSettings} {died : Phase → String}
    {result : Option (Except ClientError RebalanceReport)}
    (h : Runs (run terms settings died).run log result) :
    ∀ e ∈ log, SendsCircular terms e.request := by
  intro e he paymentHash route hrequest
  rcases inOrder_run.allowed_of_runs h e he with htransfer | hclose
  · rw [hrequest] at htransfer
    cases htransfer
    exact ⟨_, _, _, _, _, _, rfl⟩
  · rw [hrequest] at hclose
    cases hclose

end Rebalance

/-! ## All routes -/

/-- Changes keep a route consistent, and one that does not fit leaves it as it was. The route that a
search finds extends the one that the provider offered. The routes that a payment sends were found
by searches of the same run under its fee limit, and those that a rebalance sends are circular, and
consistent unless the time lock overflows. -/
theorem routes_consistent :
    (∀ (route : Route) (changes : List Route.Change), route.Consistent →
      (changes.foldl Route.Change.after route).Consistent) ∧
    (∀ (route : Route) (change : Route.Change),
      ((change.perform? route).isSome ↔ change.Fits route) ∧
        (∀ changed, change.perform? route = some changed → change.after route = changed) ∧
        (¬change.Fits route → change.after route = route)) ∧
    ∀ {σ : Type} (answer : (r : Request) → σ → Option r.Reply × σ) (state : σ) (terms : Terms),
      (∀ (query : RouteQuery) (route : Route),
        let (result, log) := record answer (findRoute terms query).run state
        result = some (.ok route) → ∃ offered, Offered log offered ∧ query.Extends offered route) ∧
      (∀ (invoice : String) (feeLimitSat amountSat : Int64),
        let log := (record answer (pay terms invoice feeLimitSat amountSat).run state).2
        ∀ e ∈ log, ∀ route, Exchange.sentRoute? e = some route →
          ∃ (query : RouteQuery) (part : Transcript Collaborators) (offered : Route),
            query.feeLimitSat = feeLimitSat ∧ part <:+: log ∧ Offered part offered ∧
              query.Extends offered route) ∧
      ∀ (settings : RebalanceSettings) (died : Rebalance.Phase → String),
        ∀ e ∈ (record answer (Rebalance.run terms settings died).run state).2, ∀ route,
          Exchange.sentRoute? e = some route →
            ∃ outId inId ownNode amountMsat height paymentAddress,
              route = Rebalance.circularRoute outId inId terms.nodeKey ownNode amountMsat height
                terms.timeLockDelta paymentAddress ∧
              (route.Consistent ↔
                (height + circularDelay).toNat + terms.timeLockDelta.toNat < UInt32.size) := by
  refine ⟨fun route changes hroute => Route.Change.consistent_foldl hroute changes,
    fun route change => ⟨Route.Change.isSome_perform?_iff, fun _ => Route.Change.after_of_perform?,
      Route.Change.after_of_not_fits⟩, ?_⟩
  intro σ answer state terms
  refine ⟨fun query route => ?_, fun invoice feeLimitSat amountSat e he route hroute => ?_,
    fun settings died e he route hroute => ?_⟩
  · have hrun := runs_record answer (findRoute terms query).run state
    generalize record answer (findRoute terms query).run state = recorded at hrun ⊢
    obtain ⟨result, log⟩ := recorded
    rintro rfl
    exact extends_of_runs_findRoute hrun
  · obtain ⟨query, part, hlimit, hpart, hfind⟩ :=
      sendsSearched_of_runs_pay (runs_record answer _ state) e he route hroute
    obtain ⟨offered, hoffered, hextends⟩ := extends_of_runs_findRoute hfind
    exact ⟨query, part, offered, hlimit, hpart, hoffered, hextends⟩
  · obtain ⟨paymentHash, hrequest⟩ := Exchange.sentRoute?_eq_some hroute
    obtain ⟨outId, inId, ownNode, amountMsat, height, paymentAddress, rfl⟩ :=
      Rebalance.sendsCircular_of_runs (runs_record answer _ state) e he paymentHash route hrequest
    exact ⟨outId, inId, ownNode, amountMsat, height, paymentAddress, rfl,
      Route.consistent_circularRoute_iff⟩

/-- A search finds a consistent route behind the one that is offered, and a payment with two retries
sends the three routes that it finds. -/
theorem routes_consistent_retried :
    (let (result, log) := record (I := Collaborators) replayed
        (findRoute unitTerms (Retried.job.query [])).run Retried.search
     result = some (.ok (Retried.route "aa")) ∧ Offered log (Retried.offered "aa") ∧
        (Retried.job.query []).Extends (Retried.offered "aa") (Retried.route "aa") ∧
        (Retried.route "aa").Consistent) ∧
    let log := (record (I := Collaborators) replayed
      (pay unitTerms "invoice" 10 1).run Retried.log).2
    log.filterMap Exchange.sentRoute? = ["aa", "bb", "cc"].map Retried.route ∧
      ∀ via ∈ ["aa", "bb", "cc"], ∃ (query : RouteQuery) (part : Transcript Collaborators)
        (offered : Route), query.feeLimitSat = 10 ∧ part <:+: log ∧ Offered part offered ∧
          query.Extends offered (Retried.route via) := by
  constructor
  · have hfinds := Retried.finds "aa" (by decide)
    have hoffered (route : Route) :
        Offered Retried.search route ↔ Retried.offered "aa" = route := by
      rw [Retried.search, SearchAnswers.offered_iff hfinds.fits]
      exact Option.some_inj
    have hrun := hfinds.runs parsePublicKey_unitKey
    change Runs _ Retried.search _ at hrun
    generalize Retried.search = log at hrun hoffered ⊢
    generalize unitTerms = terms at hrun ⊢
    have hfind := (routes_consistent.2.2 (replayed (I := Collaborators)) log terms).1
      (Retried.job.query []) (Retried.route "aa")
    rw [hrun.record_replayed] at hfind ⊢
    obtain ⟨offered, hoffer, hextends⟩ := hfind rfl
    obtain rfl := (hoffered offered).1 hoffer
    exact ⟨rfl, hoffer, hextends, hextends.consistent (Route.consistent_iff _ |>.2 (by decide))⟩
  · have hsent : Retried.log.filterMap Exchange.sentRoute? = ["aa", "bb", "cc"].map Retried.route :=
      rfl
    have hrun := Retried.runs_pay
    generalize Retried.log = log at hrun hsent ⊢
    have hpay := (routes_consistent.2.2 (replayed (I := Collaborators)) log unitTerms).2.1
      "invoice" 10 1
    rw [hrun.record_replayed] at hpay ⊢
    refine ⟨hsent, fun via hvia => ?_⟩
    obtain ⟨e, he, hroute⟩ := List.mem_filterMap.1 (hsent ▸ List.mem_map_of_mem hvia)
    exact hpay e he _ hroute

end LiquidityClient
