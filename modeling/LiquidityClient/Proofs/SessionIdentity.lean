import LiquidityClient.Proofs.SessionCache

/-!
# The node's id that a session keeps

Every call of a client wants something of its session first (`Call.opening`), and what it does with
it neither reads nor changes the node's id (`Operation.Apart`). So what the session itself asks is a
part at the beginning of what the call asks (`Session.Asks`), and `Client.Asked` collects these
parts over a history. `Client.keeps_nodeId` says that the id is the first one that the node tells
the session in hex, that it stays, that there are no terms without it, and that the session asks the
node no more once it has it.
-/

namespace LiquidityClient

open Program

variable {α β : Type}

/-! ## Apart from the node's id -/

/-- An operation that neither reads nor changes the node's id : from any session it does what it
does from the same session without an id. -/
def Operation.Apart (op : Operation α) : Prop :=
  ∀ session : Session, op.program session =
    (op.program { session with nodeId := none }).bind fun (outcome, next) =>
      .pure (outcome, { next with nodeId := session.nodeId })

namespace Operation

theorem apart_pure (a : α) : (pure a : Operation α).Apart :=
  fun _ => rfl

theorem apart_throw (e : ClientError) : (throw e : Operation α).Apart :=
  fun _ => rfl

theorem apart_ofAction {ε : Type} (f : ε → ClientError) (action : Action ε α) :
    (ofAction f action).Apart := by
  intro session
  rw [program_ofAction, program_ofAction, bind_assoc]
  rfl

theorem Apart.bind {op : Operation α} {f : α → Operation β} (hop : op.Apart)
    (hf : ∀ a, (f a).Apart) : (op >>= f).Apart := by
  intro session
  -- Both runs of `op` become its run without an id, and differ only in the id that they put back.
  rw [program_bind, program_bind, hop session, hop { session with nodeId := none }]
  simp only [bind_assoc]
  refine congrArg (Program.bind _) (funext fun ⟨outcome, next⟩ => ?_)
  cases outcome with
  | ok a => exact hf a { next with nodeId := session.nodeId }
  | error e => rfl

/-- What is run apart from the node's id leaves it. -/
theorem Apart.nodeId_eq {op : Operation α} (hop : op.Apart) {session next : Session}
    {log : Transcript Collaborators} {outcome : Except ClientError α}
    (h : Runs (op.program session) log (some (outcome, next))) : next.nodeId = session.nodeId := by
  rw [hop session, runs_bind_some_iff] at h
  obtain ⟨⟨_, _⟩, _, _, -, -, hend⟩ := h
  obtain ⟨-, hresult⟩ := runs_pure_iff.1 hend
  cases hresult
  rfl

end Operation

theorem Session.apart_snapshot : Session.snapshot.Apart := by
  intro session
  rw [program_snapshot, program_snapshot]
  rfl

theorem Client.apart_probe (nonce : Int32) : (Client.probe nonce).Apart := by
  intro session
  rw [program_probe, program_probe]
  refine congrArg (Program.ask _) (funext fun reply => ?_)
  cases reply <;> rfl

/-! ## What a call wants of its session -/

/-- What can be wanted of a session. -/
inductive Opening where
  | nothing
  | nodeId
  | terms
  | newTerms
  | termsAndNodeId

/-- What a session gives. -/
abbrev Opening.Given : Opening → Type
  | .nothing => Unit
  | .nodeId => Bytes
  | .terms | .newTerms => Terms
  | .termsAndNodeId => Terms × Bytes

/-- What a session does to give it. -/
def Session.give : (opening : Opening) → Operation opening.Given
  | .nothing => pure ()
  | .nodeId => resolveNodeId
  | .terms => ensure
  | .newTerms => refresh
  | .termsAndNodeId => do
    let terms ← ensure
    let id ← resolveNodeId
    return (terms, id)

/-- What a call wants of its session before it does anything else. -/
def Call.opening : Call → Opening
  | .resolveNodeId => .nodeId
  | .refresh => .newTerms
  | .registerPayment .. | .registerSwap .. | .requestChannel | .attestationNonce _
  | .verifyAttestation .. => .termsAndNodeId
  | .ping _ | .payInvoice .. | .buildRoute _ | .rebalance _ | .receiveSwap .. | .refundSwaps ..
  | .watchSwapAgain _ | .registerMail _ | .report .. | .ensure => .terms
  | _ => .nothing

namespace Client

theorem apart_requireWatcher (client : Client) : client.requireWatcher.Apart := by
  unfold requireWatcher
  split_ifs
  · exact Operation.apart_pure _
  · exact Operation.apart_throw _

/-- The calls that want nothing of their session are apart from the node's id. -/
theorem apart_perform (client : Client) {call : Call} (h : call.opening = .nothing) :
    (client.perform call).Apart := by
  cases call with
  | version => exact Session.apart_snapshot.bind fun _ => Operation.apart_pure _
  | hubNode => exact Session.apart_snapshot.bind fun _ => Operation.apart_pure _
  | feePermyriad => exact Session.apart_snapshot.bind fun _ => Operation.apart_pure _
  | paymentFee amountSat => exact Session.apart_snapshot.bind fun _ => Operation.apart_pure _
  | feeHint peer => exact fun _ => rfl
  | receiveMax => exact (Operation.apart_ofAction _ _).bind fun _ => Operation.apart_pure _
  | createSwapKeys => exact Operation.apart_ofAction _ _
  | watchClose channelPoint =>
    refine client.apart_requireWatcher.bind fun _ => ?_
    split
    · exact Operation.apart_throw _
    · exact Operation.apart_ofAction _ _
  | unwatchClose channelPoint =>
    exact client.apart_requireWatcher.bind fun _ => Operation.apart_ofAction _ _
  | countClosed => exact client.apart_requireWatcher.bind fun _ => Operation.apart_ofAction _ _
  | snapshot => exact Session.apart_snapshot
  | invalidate => exact fun _ => rfl
  | _ => cases h

/-- The calls that want the terms go on with them, apart from the node's id. -/
theorem exists_perform_eq_ensure_bind_apart (client : Client) {call : Call}
    (h : call.opening = .terms) : ∃ rest : Terms → Operation call.Result,
      client.perform call = (Session.ensure >>= rest) ∧ ∀ terms, (rest terms).Apart := by
  cases call with
  | ping nonce => exact ⟨_, rfl, fun _ => apart_probe nonce⟩
  | payInvoice invoice feeLimitSat amountSat =>
    exact ⟨_, rfl, fun _ => Operation.apart_ofAction _ _⟩
  | buildRoute query => exact ⟨_, rfl, fun _ => Operation.apart_ofAction _ _⟩
  | rebalance => exact ⟨_, rfl, fun _ => Operation.apart_ofAction _ _⟩
  | receiveSwap paymentHash invoice => exact ⟨_, rfl, fun _ => Operation.apart_ofAction _ _⟩
  | refundSwaps inputs address label =>
    exact ⟨_, rfl, fun _ => (Operation.apart_ofAction _ _).bind fun _ => Operation.apart_pure _⟩
  | watchSwapAgain script => exact ⟨_, rfl, fun _ => Operation.apart_ofAction _ _⟩
  | registerMail address => exact ⟨_, rfl, fun _ => Operation.apart_ofAction _ _⟩
  | report category level message => exact ⟨_, rfl, fun _ => Operation.apart_ofAction _ _⟩
  | ensure => exact ⟨pure, (bind_pure Session.ensure).symm, fun _ => Operation.apart_pure _⟩
  | _ => cases h

/-- The calls that want the terms and the node's id get the terms first. -/
theorem exists_perform_eq_ensure_resolveNodeId (client : Client) {call : Call}
    (h : call.opening = .termsAndNodeId) : ∃ rest : Terms → Bytes → Operation call.Result,
      client.perform call =
          (Session.ensure >>= fun terms => Session.resolveNodeId >>= rest terms) ∧
        ∀ terms id, (rest terms id).Apart := by
  cases call with
  | registerPayment amountSat memo => exact ⟨_, rfl, fun _ _ => Operation.apart_ofAction _ _⟩
  | registerSwap paymentHash refundKey => exact ⟨_, rfl, fun _ _ => Operation.apart_ofAction _ _⟩
  | requestChannel =>
    exact ⟨_, rfl, fun _ _ => (Operation.apart_ofAction _ _).bind fun _ => Operation.apart_pure _⟩
  | attestationNonce device => exact ⟨_, rfl, fun _ _ => Operation.apart_ofAction _ _⟩
  | verifyAttestation device token => exact ⟨_, rfl, fun _ _ => Operation.apart_ofAction _ _⟩
  | _ => cases h

/-- A call goes on with what its session gives, apart from the node's id. -/
theorem exists_perform_eq_give_bind (client : Client) (call : Call) :
    ∃ rest : call.opening.Given → Operation call.Result,
      client.perform call = (Session.give call.opening >>= rest) ∧ ∀ given, (rest given).Apart := by
  cases hopening : call.opening with
  | nothing =>
    refine ⟨fun _ => client.perform call, ?_, fun _ => client.apart_perform hopening⟩
    exact (pure_bind () fun _ => client.perform call).symm
  | nodeId =>
    cases call with
    | resolveNodeId =>
      exact ⟨pure, (bind_pure Session.resolveNodeId).symm, fun _ => Operation.apart_pure _⟩
    | _ => cases hopening
  | terms => exact client.exists_perform_eq_ensure_bind_apart hopening
  | newTerms =>
    cases call with
    | refresh => exact ⟨pure, (bind_pure Session.refresh).symm, fun _ => Operation.apart_pure _⟩
    | _ => cases hopening
  | termsAndNodeId =>
    obtain ⟨rest, hperform, hrest⟩ := client.exists_perform_eq_ensure_resolveNodeId hopening
    refine ⟨fun given => rest given.1 given.2, ?_, fun given => hrest _ _⟩
    simp only [hperform, Session.give, LawfulMonad.bind_assoc, pure_bind]

end Client

/-! ## What a session asks -/

/-- A request to the local node. -/
def Request.AsksNode : Request → Prop
  | .node _ => True
  | _ => False

/-- The node's id, if it is told in hex. -/
def toldId? : Exchange Collaborators → Option Bytes
  | ⟨.node .getInfo, some (.ok info)⟩ => (Hex.decode info.identityKey).toOption
  | _ => none

namespace Session

/-- What a transcript of its own makes of a session : an id that is known stays, otherwise it is the
first that is told, and once it is known the node is not asked. -/
structure Learns (session : Session) (log : Transcript Collaborators) (next : Session) : Prop where
  nodeId_eq : next.nodeId = session.nodeId.or (log.findSome? toldId?)
  quiet : session.nodeId ≠ none → ∀ e ∈ log, ¬e.request.AsksNode
  once : log.Pairwise fun e e' => toldId? e ≠ none → ¬e'.request.AsksNode

variable {session next last : Session} {log log' part : Transcript Collaborators}

theorem Learns.of_nil (h : next.nodeId = session.nodeId) : session.Learns [] next where
  nodeId_eq := by rw [h, List.findSome?_nil, Option.or_none]
  quiet _ := List.forall_mem_nil _
  once := .nil

theorem Learns.of_provider {r : ProviderRequest} {reply : Option (Request.provider r).Reply}
    (h : next.nodeId = session.nodeId) : session.Learns [⟨.provider r, reply⟩] next where
  nodeId_eq := by
    rw [h, List.findSome?_singleton]
    exact (Option.or_none).symm
  quiet _ := List.forall_mem_singleton.2 id
  once := List.pairwise_singleton _ _

theorem Learns.nodeId_ne_none (h : session.Learns log next) (hnode : session.nodeId ≠ none) :
    next.nodeId ≠ none := by
  rw [h.nodeId_eq]
  exact fun hnone => hnode (Option.or_eq_none_iff.1 hnone).1

theorem Learns.trans (h : session.Learns log next) (h' : next.Learns log' last) :
    session.Learns (log ++ log') last where
  nodeId_eq := by rw [h'.nodeId_eq, h.nodeId_eq, Option.or_assoc, List.findSome?_append]
  quiet hnode := List.forall_mem_append.2 ⟨h.quiet hnode, h'.quiet (h.nodeId_ne_none hnode)⟩
  once := by
    -- If the id is told in the first part, it is known in the second, where nothing is asked then.
    refine List.pairwise_append.2 ⟨h.once, h'.once, fun e he e' he' htold => h'.quiet ?_ e' he'⟩
    rw [h.nodeId_eq]
    intro hnone
    exact htold (List.findSome?_eq_none_iff.1 (Option.or_eq_none_iff.1 hnone).2 e he)

theorem Learns.of_node {r : NodeRequest} {reply : Option (Request.node r).Reply}
    (hnone : session.nodeId = none) (h : next.nodeId = toldId? ⟨.node r, reply⟩) :
    session.Learns [⟨.node r, reply⟩] next where
  nodeId_eq := by
    rw [hnone, h, Option.none_or, List.findSome?_singleton]
  quiet hnode := absurd hnone hnode
  once := List.pairwise_singleton _ _

theorem learns_resolveNodeId {outcome : Except ClientError Bytes}
    (h : Runs (resolveNodeId.program session) log (some (outcome, next))) :
    session.Learns log next ∧ ∀ id, outcome = .ok id → next.nodeId = some id := by
  rcases runs_resolveNodeId_cases h with ⟨id, hid, rfl, rfl⟩ | ⟨e, hid, rfl, rfl⟩
  · refine ⟨?_, fun id' hok => congrArg some (Except.ok.inj hok)⟩
    cases hid with
    | known hnode => exact .of_nil hnode.symm
    | told hnone hhex => exact .of_node hnone (by rw [toldId?, hhex, Except.toOption])
  · refine ⟨?_, fun id hok => by cases hok⟩
    cases hid with
    | refused hnone => exact .of_node hnone hnone
    | notHex hnone hhex => exact .of_node hnone (by rw [toldId?, hhex, Except.toOption, hnone])

theorem accept_nodeId (session : Session) (reply : Except Fault Wire.ChannelInformationReply) :
    (session.accept reply).2.nodeId = session.nodeId := by
  unfold accept
  cases termsOf reply <;> rfl

theorem learns_refresh {outcome : Except ClientError Terms}
    (h : Runs (refresh.program session) log (some (outcome, next))) :
    session.Learns log next ∧ ∀ terms, outcome = .ok terms → next.nodeId ≠ none := by
  rw [program_refresh, runs_bind_some_iff] at h
  obtain ⟨⟨known, session₁⟩, log₁, log₂, rfl, hfirst, hsecond⟩ := h
  obtain ⟨hlearns, hid⟩ := learns_resolveNodeId hfirst
  cases known with
  | error e =>
    obtain ⟨rfl, hresult⟩ := runs_pure_iff.1 hsecond
    cases hresult
    rw [List.append_nil]
    exact ⟨hlearns, fun terms hok => by cases hok⟩
  | ok id =>
    obtain ⟨reply, rest, rfl, hend⟩ := runs_ask_some_iff.1 hsecond
    obtain ⟨rfl, hresult⟩ := runs_pure_iff.1 hend
    have hnext : next.nodeId = session₁.nodeId := by
      rw [← accept_nodeId session₁ reply, ← Option.some.inj hresult]
    refine ⟨hlearns.trans (.of_provider hnext), fun terms _ => ?_⟩
    rw [hnext, hid id rfl]
    exact Option.some_ne_none id

theorem learns_ensure {outcome : Except ClientError Terms}
    (h : Runs (ensure.program session) log (some (outcome, next))) : session.Learns log next := by
  rcases runs_ensure_cases h with ⟨terms, -, rfl, -, rfl⟩ | ⟨-, hrun⟩
  · exact .of_nil rfl
  · exact (learns_refresh hrun).1

/-- Whatever is wanted of a session, what it asks for it makes this of it. -/
theorem learns_give {opening : Opening} {outcome : Except ClientError opening.Given}
    (h : Runs ((give opening).program session) log (some (outcome, next))) :
    session.Learns log next := by
  cases opening with
  | nothing =>
    obtain ⟨rfl, hresult⟩ := runs_pure_iff.1 h
    cases hresult
    exact .of_nil rfl
  | nodeId => exact (learns_resolveNodeId h).1
  | terms => exact learns_ensure h
  | newTerms => exact (learns_refresh h).1
  | termsAndNodeId =>
    rcases Operation.runs_bind_cases h with
      ⟨e, hrun, -⟩ | ⟨terms, session₁, log₁, log₂, rfl, hfirst, hsecond⟩
    · exact learns_ensure hrun
    refine (learns_ensure hfirst).trans ?_
    rcases Operation.runs_bind_cases hsecond with
      ⟨e, hrun, -⟩ | ⟨id, session₂, log₃, log₄, rfl, hid, hend⟩
    · exact (learns_resolveNodeId hrun).1
    · obtain ⟨rfl, hresult⟩ := runs_pure_iff.1 hend
      cases hresult
      rw [List.append_nil]
      exact (learns_resolveNodeId hid).1

/-- What a session itself asks for a call : the transcript with which the call begins, in which the
session gives what is wanted of it. -/
def Asks (session : Session) (turn : Turn) (part : Transcript Collaborators) : Prop :=
  part <+: turn.log ∧ ∃ result,
    Runs ((give turn.call.opening).program session) part (some result)

theorem Asks.unique {turn : Turn} {part' : Transcript Collaborators} (h : session.Asks turn part)
    (h' : session.Asks turn part') : part = part' := by
  obtain ⟨⟨rest, hlog⟩, result, hrun⟩ := h
  obtain ⟨⟨rest', hlog'⟩, result', hrun'⟩ := h'
  exact (hrun.unique hrun' (hlog.trans hlog'.symm)).1

/-! ## Terms and the node's id -/

/-- There are terms only where the node's id is known. -/
def Sound (session : Session) : Prop :=
  session.terms ≠ none → session.nodeId ≠ none

theorem Reacts.sound {e : Exchange Collaborators} (h : session.Reacts e next)
    (hsound : session.Sound) :
    next.Sound := by
  cases h with
  | idle | refused | answered => exact hsound
  | identified => exact fun _ => Option.some_ne_none _
  | obtained hid => exact fun _ hnone => by cases hid.symm.trans hnone
  | dropped => exact fun hterms => absurd rfl hterms

theorem Evolves.sound (h : session.Evolves log next) (hsound : session.Sound) : next.Sound := by
  induction h with
  | nil => exact hsound
  | cons hreacts _ ih => exact ih (hreacts.sound hsound)

/-- Once terms are there, by a handshake or from before, the node's id is there too. -/
theorem Sound.resolves (hsound : session.Sound) {terms : Terms}
    (h : Runs (ensure.program session) log (some (.ok terms, next))) :
    ∃ id, next.nodeId = some id ∧ resolveNodeId.program next = .pure (.ok id, next) := by
  have hnode : next.nodeId ≠ none := by
    rcases runs_ensure_cases h with ⟨terms', hterms, -, -, rfl⟩ | ⟨-, hrun⟩
    · exact hsound (hterms ▸ Option.some_ne_none _)
    · exact (learns_refresh hrun).2 terms rfl
  obtain ⟨id, hid⟩ := Option.ne_none_iff_exists'.1 hnode
  refine ⟨id, hid, ?_⟩
  rw [program_resolveNodeId, hid]

end Session

/-! ## Calls one after the other -/

namespace Client

variable {client : Client} {turn : Turn} {turns : List Turn} {session next : Session}
  {asked part : Transcript Collaborators}

/-- A call begins with what its session asks, which decides what becomes of the node's id. -/
theorem Serves.exists_asks (h : client.Serves session turn next) :
    ∃ part, session.Asks turn part ∧ session.Learns part next := by
  obtain ⟨rest, hperform, hrest⟩ := client.exists_perform_eq_give_bind turn.call
  unfold Serves at h
  rw [hperform] at h
  rcases Operation.runs_bind_cases h with
    ⟨e, hrun, -⟩ | ⟨given, session₁, part, log, hlog, hfirst, hsecond⟩
  · exact ⟨turn.log, ⟨List.prefix_rfl, _, hrun⟩, Session.learns_give hrun⟩
  · refine ⟨part, ⟨⟨log, hlog.symm⟩, _, hfirst⟩, ?_⟩
    rw [← List.append_nil part]
    exact (Session.learns_give hfirst).trans (.of_nil ((hrest given).nodeId_eq hsecond))

theorem Serves.learns (h : client.Serves session turn next) (hasks : session.Asks turn part) :
    session.Learns part next := by
  obtain ⟨part', hasks', hlearns⟩ := h.exists_asks
  exact hasks.unique hasks' ▸ hlearns

theorem Serves.sound (h : client.Serves session turn next) (hsound : session.Sound) :
    next.Sound := by
  by_cases hinvalidate : turn.call = .invalidate
  · obtain ⟨-, -, rfl⟩ := h.of_invalidate hinvalidate
    exact fun hterms => absurd rfl hterms
  · by_cases hhandshake : turn.call.Handshakes session
    · exact (h.handshake_cases hhandshake).1.sound hsound
    · exact (h.noHandshake hhandshake hinvalidate).1.sound hsound

theorem History.sound (h : client.History turns session) : session.Sound := by
  induction h with
  | start => exact fun hterms => absurd rfl hterms
  | turn _ hserves ih => exact hserves.sound ih

/-- The calls of a client one after the other, with what its session asks for them. -/
inductive Asked (client : Client) : List Turn → Transcript Collaborators → Session → Prop
  | start : Asked client [] [] {}
  | turn {turns : List Turn} {asked part : Transcript Collaborators} {session next : Session}
      {turn : Turn} (h : Asked client turns asked session)
      (hserves : client.Serves session turn next)
      (hasks : session.Asks turn part) : Asked client (turns ++ [turn]) (asked ++ part) next

theorem History.exists_asked (h : client.History turns session) :
    ∃ asked, client.Asked turns asked session := by
  induction h with
  | start => exact ⟨[], .start⟩
  | turn _ hserves ih =>
    obtain ⟨asked, hasked⟩ := ih
    obtain ⟨part, hasks, -⟩ := hserves.exists_asks
    exact ⟨asked ++ part, hasked.turn hserves hasks⟩

/-- The calls tell what the session asked. -/
theorem Asked.unique {asked' : Transcript Collaborators} {session' : Session}
    (h : client.Asked turns asked session) (h' : client.Asked turns asked' session') :
    asked = asked' ∧ session = session' := by
  induction h generalizing asked' session' with
  | start =>
    generalize hturns : ([] : List Turn) = turns at h'
    cases h' with
    | start => exact ⟨rfl, rfl⟩
    | turn => simp at hturns
  | @turn turns _ _ _ _ turn _ hserves hasks ih =>
    generalize hturns : turns ++ [turn] = turns' at h'
    cases h' with
    | start => simp at hturns
    | turn hasked hserves' hasks' =>
      obtain ⟨rfl, hturn⟩ := List.append_inj' hturns rfl
      obtain rfl := List.singleton_inj.1 hturn
      obtain ⟨rfl, rfl⟩ := ih hasked
      obtain rfl := hasks.unique hasks'
      obtain ⟨-, hresult⟩ := Runs.unique hserves hserves' (rfl : turn.log ++ [] = turn.log ++ [])
      cases hresult
      exact ⟨rfl, rfl⟩

theorem Asked.learns (h : client.Asked turns asked session) : Session.Learns {} asked session := by
  induction h with
  | start => exact .of_nil rfl
  | turn _ hserves hasks ih => exact ih.trans (hserves.learns hasks)

/-- After any calls there are terms only where the node's id is known. The id is the first one that
the node told the session itself in hex, after which the session never asked the node again, and no
call changes or drops it. Every call goes on from its session apart from the id, and one that gets
the terms and then the id asks nothing for the id once it has the terms, and gets it. -/
theorem keeps_nodeId (client : Client) {turns : List Turn} {session : Session}
    (h : client.History turns session) :
    (session.terms ≠ none → session.nodeId ≠ none) ∧
      (∃! asked, client.Asked turns asked session) ∧
      (∀ asked, client.Asked turns asked session →
        session.nodeId = asked.findSome? toldId? ∧
          asked.Pairwise fun e e' => toldId? e ≠ none → ¬e'.request.AsksNode) ∧
      (∀ turn next id, client.Serves session turn next → session.nodeId = some id →
        next.nodeId = some id) ∧
      (∀ call, ∃ rest : call.opening.Given → Operation call.Result,
        client.perform call = (Session.give call.opening >>= rest) ∧
          ∀ given, (rest given).Apart) ∧
      ∀ call, call.opening = .termsAndNodeId → ∃ rest : Terms → Bytes → Operation call.Result,
        client.perform call =
            (Session.ensure >>= fun terms => Session.resolveNodeId >>= rest terms) ∧
          ∀ part terms next, Runs (Session.ensure.program session) part (some (.ok terms, next)) →
            ∃ id, next.nodeId = some id ∧
              Session.resolveNodeId.program next = .pure (.ok id, next) := by
  refine ⟨h.sound, ?_, fun asked hasked => ?_, fun turn next id hserves hid => ?_,
    client.exists_perform_eq_give_bind, fun call hcall => ?_⟩
  · obtain ⟨asked, hasked⟩ := h.exists_asked
    exact ⟨asked, hasked, fun asked' hasked' => (hasked'.unique hasked).1⟩
  · have hlearns := hasked.learns
    refine ⟨?_, hlearns.once⟩
    rw [hlearns.nodeId_eq, Option.none_or]
  · obtain ⟨part, -, hlearns⟩ := hserves.exists_asks
    rw [hlearns.nodeId_eq, hid, Option.some_or]
  · obtain ⟨rest, hperform, -⟩ := client.exists_perform_eq_ensure_resolveNodeId hcall
    exact ⟨rest, hperform, fun part terms next hrun => h.sound.resolves hrun⟩

/-- The id that the node told in the first handshake outlasts a lost ping. -/
theorem keeps_nodeId_after_lostPing : ∃ terms, Terms.ofReply openingReply = .ok terms ∧
    defaultClient.History [⟨.ensure, openingLog, .ok terms⟩, lostPing] ⟨some [2], none⟩ ∧
    ∃ asked, defaultClient.Asked [⟨.ensure, openingLog, .ok terms⟩, lostPing] asked
        ⟨some [2], none⟩ ∧
      asked.findSome? toldId? = some [2] := by
  obtain ⟨terms, hterms⟩ := @Session.exists_ofReply_eq_ok openingReply rfl
  have hhistory := History.turn (.turn .start (serves_opening hterms)) (serves_lostPing terms)
  obtain ⟨-, ⟨asked, hasked, -⟩, htold, -⟩ := keeps_nodeId defaultClient hhistory
  exact ⟨terms, hterms, hhistory, asked, hasked, (htold asked hasked).1.symm⟩

end Client

end LiquidityClient
