import LiquidityClient.Client
import LiquidityClient.Proofs.Operations
import LiquidityClient.Proofs.RefundSpendable

/-!
# Refunds and the provider

A refund needs the node and the keys of the swaps, but it begins with a handshake whose terms it
does not use. `withProvider` puts a provider next to the client's own collaborators, so that runs
with two providers can be compared : an operation that does not call the provider
(`Operation.IsLocal`) runs alike with both (`run_recording_withProvider`), and after a handshake it
does so if the handshake ends alike (`ending_ensure_bind`). Hence a refund ignores the provider
exactly where no handshake asks it anything (`Client.refundSwaps_ignoresProvider_iff`), and a
provider that is gone keeps back the first refund of a new session
(`Client.refundSwaps_not_ignoresProvider`).
-/

namespace LiquidityClient

open Program

/-! ## Collaborators with a provider of their own -/

/-- How a provider with a state answers; it can also not answer at all. -/
abbrev ProviderAnswering (π : Type) :=
  (r : ProviderRequest) → π → Option (Except Fault r.Answer) × π

/-- A request that is not one to the provider. -/
def Request.IsOwn : Request → Prop
  | .provider _ => False
  | _ => True

/-- The client's own collaborators together with a provider. -/
def withProvider {ν π : Type} (own : Answering Collaborators ν) (provider : ProviderAnswering π) :
    Answering Collaborators (ν × π)
  | .provider r, (n, q) =>
    let (reply, q) := provider r q
    (reply, n, q)
  | r, (n, q) =>
    let (reply, n) := own r n
    (reply, n, q)

variable {ν π α : Type} {own : Answering Collaborators ν} {provider : ProviderAnswering π}

theorem withProvider_of_isOwn {r : Request} (hr : r.IsOwn) (n : ν) (q : π) :
    withProvider own provider r (n, q) = ((own r n).1, (own r n).2, q) := by
  cases r with
  | provider r => exact hr.elim
  | _ => rfl

/-- A program that does not call the provider runs the same with any provider. -/
theorem run_recording_withProvider {p : Program Collaborators α} (hp : InOrder Request.IsOwn p)
    (n : ν) (q : π) (log : Transcript Collaborators) :
    p.run (recording (withProvider own provider)) ((n, q), log) =
      ((p.run (recording own) (n, [])).1, ((p.run (recording own) (n, [])).2.1, q),
        log ++ (p.run (recording own) (n, [])).2.2) := by
  have h := hp.run_eq (recording (withProvider own provider)) (recording own)
    (fun t => ((t.1, q), log ++ t.2)) (fun r hr t => ?_) (n, [])
  · rwa [List.append_nil] at h
  · simp only [recording, withProvider_of_isOwn hr, List.append_assoc]

/-! ## How operations end -/

/-- The transactions that the node is asked to publish, with their labels. -/
def published (log : Transcript Collaborators) : List (Bytes × String) :=
  log.filterMap fun e =>
    match e.request with
    | .node (.publishTransaction transaction label) => some (transaction, label)
    | _ => none

@[simp] theorem published_append (log₁ log₂ : Transcript Collaborators) :
    published (log₁ ++ log₂) = published log₁ ++ published log₂ :=
  List.filterMap_append

/-- The result of an operation, if the collaborators let it end, and the transactions that it
publishes. -/
def Operation.ending {σ : Type} (answer : Answering Collaborators σ) (s : σ) (op : Operation α)
    (session : Session) : Option (Except ClientError α) × List (Bytes × String) :=
  let (result, log) := (op.program session).record answer s
  (result.map Prod.fst, published log)

/-! ## The handshake -/

/-- The session knows the node's id, or the node tells it. -/
def TellsId (own : Answering Collaborators ν) (n : ν) (session : Session) : Prop :=
  session.nodeId.isSome ∨
    ∃ info id, (own (.node .getInfo) n).1 = some (.ok info) ∧ Session.idOf info = .ok id

theorem tellsId_iff {n : ν} {session : Session} :
    TellsId own n session ↔
      ∃ id, (Session.resolveNodeId.ending own n session).1 = some (.ok id) := by
  unfold TellsId Operation.ending record
  rw [Session.program_resolveNodeId]
  cases session.nodeId with
  | some id => simp [run]
  | none =>
    simp only [run, recording]
    rcases own (.node .getInfo) n with ⟨_ | ⟨cause | info⟩, n'⟩
    · simp
    · simp [Session.identify]
    · cases hid : Session.idOf info <;> simp [Session.identify, hid]

theorem isOwn_resolveNodeId (session : Session) :
    InOrder Request.IsOwn (Session.resolveNodeId.program session) :=
  (Session.inOrder_resolveNodeId session).mono fun _ hr => hr ▸ trivial

theorem published_resolveNodeId (own : Answering Collaborators ν) (n : ν) (session : Session) :
    published ((Session.resolveNodeId.program session).run (recording own) (n, [])).2.2 = [] := by
  refine List.filterMap_eq_nil_iff.2 fun e he => ?_
  have hruns := runs_record own (Session.resolveNodeId.program session) n
  rw [(Session.inOrder_resolveNodeId session).allowed_of_runs hruns e he]

/-- The provider is asked only once the node's id is known, and its reply ends the handshake. -/
theorem run_refresh (n : ν) (q : π) (session : Session) :
    (Session.refresh.program session).run (recording (withProvider own provider)) ((n, q), []) =
      match (Session.resolveNodeId.program session).run (recording own) (n, []) with
      | (some (.ok id, session), m, log) =>
        let (reply, q) := provider (.channelInformation ⟨Hex.encode id⟩) q
        (reply.map session.accept, (m, q),
          log ++ [⟨.provider (.channelInformation ⟨Hex.encode id⟩), reply⟩])
      | (some (.error e, session), m, log) => (some (.error e, session), (m, q), log)
      | (none, m, log) => (none, (m, q), log) := by
  rw [Session.program_refresh, run_bind, run_recording_withProvider (isOwn_resolveNodeId session)]
  obtain ⟨_ | ⟨e | id, session⟩, m, log⟩ :=
    (Session.resolveNodeId.program session).run (recording own) (n, [])
  · rfl
  · rfl
  · simp only [run, recording, withProvider]
    rcases provider (.channelInformation ⟨Hex.encode id⟩) q with ⟨_ | reply, q⟩ <;> rfl

/-- A handshake publishes nothing, and what it leaves of the client's own collaborators does not
depend on the provider. -/
theorem exists_own_after_ensure (own : Answering Collaborators ν) (n : ν) (session : Session) :
    ∃ m, ∀ {π : Type} (provider : ProviderAnswering π) (q : π), ∃ q' log,
      ((Session.ensure.program session).run (recording (withProvider own provider))
        ((n, q), [])).2 = ((m, q'), log) ∧ published log = [] := by
  rw [Session.program_ensure]
  cases session.terms with
  | some terms => exact ⟨n, fun provider q => ⟨q, [], rfl, rfl⟩⟩
  | none =>
    have hnone := published_resolveNodeId own n session
    simp only [run_refresh]
    generalize (Session.resolveNodeId.program session).run (recording own) (n, []) = resolved
      at hnone ⊢
    obtain ⟨_ | ⟨e | id, session⟩, m, log⟩ := resolved
    · exact ⟨m, fun _ q => ⟨q, log, rfl, hnone⟩⟩
    · exact ⟨m, fun _ q => ⟨q, log, rfl, hnone⟩⟩
    · refine ⟨m, fun _ _ => ⟨_, _, rfl, ?_⟩⟩
      rw [published_append, hnone]
      rfl

/-- With terms there is no handshake. -/
theorem ending_ensure_of_terms (n : ν) (q : π) {session : Session} {terms : Terms}
    (hterms : session.terms = some terms) :
    (Session.ensure.ending (withProvider own provider) (n, q) session).1 = some (.ok terms) := by
  unfold Operation.ending record
  rw [Session.program_ensure, hterms]
  rfl

/-- Without terms the handshake fails as asking for the node's id does, or ends with what the
provider's reply gives. -/
theorem ending_ensure (n : ν) (q : π) {session : Session} (hterms : session.terms = none) :
    (Session.ensure.ending (withProvider own provider) (n, q) session).1 =
      match (Session.resolveNodeId.ending own n session).1 with
      | some (.ok id) =>
        (provider (.channelInformation ⟨Hex.encode id⟩) q).1.map Session.termsOf
      | some (.error e) => some (.error e)
      | none => none := by
  unfold Operation.ending record
  simp only [Session.program_ensure, hterms, run_refresh]
  obtain ⟨_ | ⟨e | id, session⟩, m, log⟩ :=
    (Session.resolveNodeId.program session).run (recording own) (n, [])
  · rfl
  · rfl
  · exact (Option.map_map _ _ _).trans (congrArg (Option.map · _) (funext session.accept_fst))

/-! ## Operations after a handshake -/

/-- An operation that does not call the provider and neither reads nor changes the session. -/
def Operation.IsLocal (op : Operation α) : Prop :=
  ∃ p : Program Collaborators (Except ClientError α), InOrder Request.IsOwn p ∧
    ∀ session, op.program session = p.bind fun outcome => .pure (outcome, session)

/-- After a handshake a local operation runs without the provider, whose part is only whether the
handshake ends, and with what error. -/
theorem ending_ensure_bind {op : Operation α} (hop : op.IsLocal) (own : Answering Collaborators ν)
    (n : ν) (session : Session) :
    ∃ m, ∀ {π : Type} (provider : ProviderAnswering π) (q : π),
      (Session.ensure >>= fun _ => op).ending (withProvider own provider) (n, q) session =
        match (Session.ensure.ending (withProvider own provider) (n, q) session).1 with
        | some (.ok _) => op.ending own m session
        | some (.error e) => (some (.error e), [])
        | none => (none, []) := by
  obtain ⟨p, hp, hprogram⟩ := hop
  obtain ⟨m, hm⟩ := exists_own_after_ensure own n session
  refine ⟨m, fun provider q => ?_⟩
  obtain ⟨q', log, hstate, hlog⟩ := hm provider q
  unfold Operation.ending record
  simp only [Operation.program_bind, run_bind, hprogram]
  generalize (Session.ensure.program session).run (recording (withProvider own provider))
    ((n, q), []) = ensured at hstate ⊢
  obtain ⟨result, state⟩ := ensured
  obtain rfl : state = ((m, q'), log) := hstate
  -- The handshake's part of the log publishes nothing, so that of the operation is left.
  obtain _ | ⟨e | terms, session'⟩ := result
  · simp [hlog]
  · simp [run, hlog]
  · simp only [run_bind, run_recording_withProvider hp]
    obtain ⟨_ | outcome, m', rest⟩ := p.run (recording own) (m, []) <;> simp [run, hlog]

theorem isLocal_ofAction {ε : Type} (f : ε → ClientError) {action : Action ε α}
    (h : InOrder Request.IsOwn action.run) : (Operation.ofAction f action).IsLocal := by
  refine ⟨action.run.bind fun outcome => .pure (outcome.mapError f), h.bind fun _ => .pure _,
    fun session => ?_⟩
  rw [Operation.program_ofAction, Program.bind_assoc]
  rfl

theorem Operation.IsLocal.map {β : Type} {op : Operation α} (hop : op.IsLocal) (g : α → β) :
    (op >>= fun a => pure (g a)).IsLocal := by
  obtain ⟨p, hp, hprogram⟩ := hop
  refine ⟨p.bind fun outcome => .pure (outcome.map g), hp.bind fun _ => .pure _, fun session => ?_⟩
  rw [Operation.program_bind, hprogram, Program.bind_assoc, Program.bind_assoc]
  refine congrArg (Program.bind p) (funext fun outcome => ?_)
  cases outcome <;> rfl

/-- The result and the published transactions are the same for any two providers. -/
def Operation.IgnoresProvider (op : Operation α) (own : Answering Collaborators ν) (n : ν)
    (session : Session) : Prop :=
  ∀ (π π' : Type) (provider : ProviderAnswering π) (q : π) (provider' : ProviderAnswering π')
    (q' : π'),
    op.ending (withProvider own provider) (n, q) session =
      op.ending (withProvider own provider') (n, q') session

/-- A provider that refuses every call. -/
def refusing (cause : Fault) : ProviderAnswering Unit :=
  fun _ q => (some (.error cause), q)

/-- With a node that tells its id, a session without terms fails as the provider refuses. -/
theorem ending_ensure_refusing {n : ν} {session : Session} (hterms : session.terms = none)
    (htells : TellsId own n session) (cause : Fault) :
    (Session.ensure.ending (withProvider own (refusing cause)) (n, ()) session).1 =
      some (.error (.fault cause)) := by
  obtain ⟨id, hid⟩ := tellsId_iff.1 htells
  rw [ending_ensure n () hterms, hid]
  rfl

/-- What a local operation does after a handshake depends on the provider exactly where the provider
is asked for terms. -/
theorem ignoresProvider_ensure_bind_iff {op : Operation α} (hop : op.IsLocal)
    (own : Answering Collaborators ν) (n : ν) (session : Session) :
    (Session.ensure >>= fun _ => op).IgnoresProvider own n session ↔
      session.terms.isSome ∨ ¬TellsId own n session := by
  obtain ⟨m, hm⟩ := ending_ensure_bind hop own n session
  constructor
  · intro h
    by_cases hterms : session.terms.isSome
    · exact Or.inl hterms
    · refine Or.inr fun htells => ?_
      have hnone : session.terms = none := by simpa using hterms
      -- Two refusals with different causes show in the error.
      have hends := h _ _ (refusing .malformed) () (refusing .notInitialized) ()
      rw [hm, hm, ending_ensure_refusing hnone htells, ending_ensure_refusing hnone htells] at hends
      cases hends
  · intro h π π' provider q provider' q'
    rw [hm, hm]
    cases hterms : session.terms with
    | some terms => rw [ending_ensure_of_terms n q hterms, ending_ensure_of_terms n q' hterms]
    | none =>
      have hfails : ¬TellsId own n session := by simpa [hterms] using h
      rw [ending_ensure n q hterms, ending_ensure n q' hterms]
      rw [tellsId_iff] at hfails
      generalize (Session.resolveNodeId.ending own n session).1 = resolved at hfails ⊢
      obtain _ | ⟨e | id⟩ := resolved
      · rfl
      · rfl
      · exact (hfails ⟨id, rfl⟩).elim

/-! ## The refund of swaps -/

namespace Swap

/-- The transaction that sweeps swap outputs to an address, on the network that the node tells. -/
def sweepTransaction (settings : SwapSettings) (inputs : List RefundInput) (address : String)
    (info : NodeInfo) : Except SwapError Transaction := do
  let network ← Network.ofName info.network
  let destination ← Address.parse network address
  Refund.build inputs destination.script settings.csvHeight settings.feeRateSatPerKw

/-- A refund asks the node for its network and has it publish the transaction. -/
theorem run_refund (settings : SwapSettings) (inputs : List RefundInput) (address label : String) :
    (refund settings inputs address label).run =
      .ask (.node .getInfo) fun
        | .error cause => .pure (.error (.fault cause))
        | .ok info =>
          match sweepTransaction settings inputs address info with
          | .error e => .pure (.error e)
          | .ok tx =>
            .ask (.node (.publishTransaction tx.encode label)) fun
              | .error cause => .pure (.error (.fault cause))
              | .ok () => .pure (.ok tx.txid) := by
  refine congrArg (Program.ask _) (funext fun reply => ?_)
  rcases reply with cause | info
  · rfl
  · -- The three results before the transaction is sent are one.
    have htail (f : Transaction → Action SwapError Bytes) :
        (Action.ofExcept (Network.ofName info.network) >>= fun network =>
          Action.ofExcept (Address.parse network address) >>= fun destination =>
            Action.ofExcept (Refund.build inputs destination.script settings.csvHeight
              settings.feeRateSatPerKw) >>= f) =
        Action.ofExcept (sweepTransaction settings inputs address info) >>= f :=
      (congrArg _ (funext fun _ => Action.ofExcept_bind _ _ f)).trans (Action.ofExcept_bind _ _ f)
    refine (congrArg ExceptT.run (htail _)).trans ?_
    dsimp only
    cases sweepTransaction settings inputs address info with
    | error e => rfl
    | ok tx =>
      refine congrArg (Program.ask _) (funext fun reply => ?_)
      cases reply <;> rfl

theorem inOrder_refund (settings : SwapSettings) (inputs : List RefundInput)
    (address label : String) :
    InOrder Request.IsOwn (refund settings inputs address label).run := by
  rw [run_refund]
  refine .ask trivial fun reply => ?_
  cases reply with
  | error cause => exact .pure _
  | ok info =>
    dsimp only
    cases sweepTransaction settings inputs address info with
    | error e => exact .pure _
    | ok tx =>
      refine .ask trivial fun reply => ?_
      cases reply <;> exact .pure _

end Swap

namespace Client

/-- The refund without the handshake. -/
def sweep (client : Client) (inputs : List RefundInput) (address label : String) :
    Operation String := do
  let txid ← Operation.ofAction .swap
    (Swap.refund client.configuration.swap inputs address label)
  return showTxid txid

variable (client : Client) (inputs : List RefundInput) (address label : String)

theorem isLocal_sweep : (client.sweep inputs address label).IsLocal :=
  (isLocal_ofAction .swap (Swap.inOrder_refund _ inputs address label)).map showTxid

/-- Where the node tells its network and accepts the transaction, the sweep publishes it and ends
with its id. -/
theorem ending_sweep {n n₁ n₂ : ν} {info : NodeInfo} {tx : Transaction}
    (hinfo : own (.node .getInfo) n = (some (.ok info), n₁))
    (htx : Swap.sweepTransaction client.configuration.swap inputs address info = .ok tx)
    (hpublish : own (.node (.publishTransaction tx.encode label)) n₁ = (some (.ok ()), n₂))
    (session : Session) :
    (client.sweep inputs address label).ending own n session =
      (some (.ok (showTxid tx.txid)), [(tx.encode, label)]) := by
  unfold Operation.ending record sweep
  rw [Operation.program_bind, Operation.program_ofAction, Swap.run_refund]
  simp only [Program.bind, run, recording, hinfo, htx, hpublish]
  rfl

/-- A refund ignores the provider exactly where the handshake does not ask it : with terms, and with
a node that does not tell its id. Whatever the provider does, a handshake that ends well is followed
by the one sweep, and one that fails ends the refund with nothing published. -/
theorem refundSwaps_ignoresProvider_iff (own : Answering Collaborators ν) (n : ν)
    (session : Session) :
    ((client.refundSwaps inputs address label).IgnoresProvider own n session ↔
        session.terms.isSome ∨ ¬TellsId own n session) ∧
      ∃ m, ∀ {π : Type} (provider : ProviderAnswering π) (q : π),
        (client.refundSwaps inputs address label).ending (withProvider own provider) (n, q)
            session =
          match (Session.ensure.ending (withProvider own provider) (n, q) session).1 with
          | some (.ok _) => (client.sweep inputs address label).ending own m session
          | some (.error e) => (some (.error e), [])
          | none => (none, []) := by
  have hlocal := client.isLocal_sweep inputs address label
  exact ⟨ignoresProvider_ensure_bind_iff hlocal own n session,
    ending_ensure_bind hlocal own n session⟩

/-! ## A provider that is gone -/

/-- A node on the test chain. -/
def steadyInfo : NodeInfo := ⟨"02", 100, "", "regtest"⟩

/-- It tells of itself and accepts every transaction. -/
def steadyNode : Answering Collaborators Unit
  | .node .getInfo, n => (some (.ok steadyInfo), n)
  | .node (.publishTransaction _ _), n => (some (.ok ()), n)
  | _, n => (none, n)

/-- A provider that only gives its terms. -/
def informing : ProviderAnswering Unit
  | .channelInformation _, q =>
    (some (.ok
      { name := "lsp", pubkey := "02", host := "localhost:9735", channelCapacity := 1000000
        targetConf := 6, baseFeeMsat := 1000, feeRate := .ofInt 0, timeLockDelta := 40
        channelFeePermyriad := 40, lspPubkey := Bytes.repeated publicKeyLength 2
        maxInactiveDuration := 0, channelMinimumFeeMsat := 2000, version := "1" }), q)
  | _, q => (none, q)

/-- A client with the default settings. -/
def defaultClient : Client := ⟨{}, false⟩

/-- A swap to sweep. -/
def lockedSwap : RefundInput := Refund.defaultInput ⟨5, by decide, by decide⟩

/-- The address to which it is swept. -/
def returnAddress : String := "bcrt1qqqqsyqcyq5rqwzqfpg9scrgwpugpzysnard0ew"

set_option maxRecDepth 100000 in
/-- The sweep can be built. -/
theorem exists_sweepTransaction :
    ∃ tx, Swap.sweepTransaction defaultClient.configuration.swap [lockedSwap] returnAddress
      steadyInfo = .ok tx := by
  have hok : (Swap.sweepTransaction defaultClient.configuration.swap [lockedSwap] returnAddress
      steadyInfo).isOk = true := by
    decide +kernel
  cases hsweep : Swap.sweepTransaction defaultClient.configuration.swap [lockedSwap] returnAddress
      steadyInfo with
  | error e =>
    rw [hsweep] at hok
    cases hok
  | ok tx => exact ⟨tx, rfl⟩

/-- From a new session the refund is published if the provider gives its terms, and it fails with
nothing published if the provider cannot be reached : it does not ignore the provider. -/
theorem refundSwaps_not_ignoresProvider :
    (∃ tx, Swap.sweepTransaction defaultClient.configuration.swap [lockedSwap] returnAddress
        steadyInfo = .ok tx ∧
      (defaultClient.refundSwaps [lockedSwap] returnAddress "swap refund").ending
          (withProvider steadyNode informing) ((), ()) {} =
        (some (.ok (showTxid tx.txid)), [(tx.encode, "swap refund")]) ∧
      (defaultClient.refundSwaps [lockedSwap] returnAddress "swap refund").ending
          (withProvider steadyNode (refusing (.transport "connection refused"))) ((), ()) {} =
        (some (.error (.fault (.transport "connection refused"))), [])) ∧
    ¬(defaultClient.refundSwaps [lockedSwap] returnAddress "swap refund").IgnoresProvider
      steadyNode () {} := by
  obtain ⟨tx, htx⟩ := exists_sweepTransaction
  obtain ⟨m, hm⟩ := ending_ensure_bind
    (defaultClient.isLocal_sweep [lockedSwap] returnAddress "swap refund") steadyNode () {}
  have hpublished : (defaultClient.refundSwaps [lockedSwap] returnAddress "swap refund").ending
      (withProvider steadyNode informing) ((), ()) {} =
        (some (.ok (showTxid tx.txid)), [(tx.encode, "swap refund")]) := by
    obtain ⟨terms, hterms⟩ : ∃ terms, (Session.ensure.ending (withProvider steadyNode informing)
        ((), ()) {}).1 = some (.ok terms) := ⟨_, rfl⟩
    refine (hm informing ()).trans ?_
    rw [hterms]
    exact ending_sweep defaultClient [lockedSwap] returnAddress "swap refund" rfl htx rfl {}
  have hkept : (defaultClient.refundSwaps [lockedSwap] returnAddress "swap refund").ending
      (withProvider steadyNode (refusing (.transport "connection refused"))) ((), ()) {} =
        (some (.error (.fault (.transport "connection refused"))), []) := by
    have htells : TellsId steadyNode () {} := Or.inr ⟨steadyInfo, _, rfl, rfl⟩
    refine (hm (refusing _) ()).trans ?_
    rw [ending_ensure_refusing rfl htells]
  refine ⟨⟨tx, htx, hpublished, hkept⟩, fun hignores => ?_⟩
  have hsame := hignores _ _ informing () (refusing (.transport "connection refused")) ()
  rw [hpublished, hkept] at hsame
  cases hsame

end Client

end LiquidityClient
