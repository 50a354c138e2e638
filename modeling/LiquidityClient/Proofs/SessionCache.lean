import LiquidityClient.Proofs.ClientCalls

/-!
# The terms that a client keeps

A transcript tells what becomes of the terms (`termsEvents`) : a reply to a handshake gives them, a
failed ping drops them. A `Turn` is a call that came to an end, and a `Client.History` lists the
turns since a new session. `Client.keeps_terms` says that the terms are at any time those that the
last event left, that a call which fails does not touch them, and when the provider is asked for
terms.
-/

namespace LiquidityClient

open Program

/-! ## What becomes of the terms -/

/-- Terms are obtained from the provider, or dropped. -/
inductive TermsEvent where
  | obtained (terms : Terms)
  | dropped

/-- The terms that are there after an event. -/
def TermsEvent.left : TermsEvent → Option Terms
  | .obtained terms => some terms
  | .dropped => none

/-- The terms that are there after some events : those that the last one leaves. -/
def termsLeft (before : Option Terms) (events : List TermsEvent) : Option Terms :=
  (events.getLast?.map TermsEvent.left).getD before

/-- What an exchange makes of the terms : the reply to a handshake gives them, and a failed ping
drops them. -/
def termsEvent? : Exchange Collaborators → Option TermsEvent
  | ⟨.provider (.channelInformation _), some (.ok reply)⟩ =>
    (Terms.ofReply reply).toOption.map .obtained
  | ⟨.provider (.ping _), some (.error _)⟩ => some .dropped
  | _ => none

/-- What a transcript makes of the terms, in order. -/
def termsEvents (log : Transcript Collaborators) : List TermsEvent :=
  log.filterMap termsEvent?

variable {session next : Session} {log part rest : Transcript Collaborators} {id : Bytes}

theorem termsLeft_append (before : Option Terms) (events events' : List TermsEvent) :
    termsLeft before (events ++ events') = termsLeft (termsLeft before events) events' := by
  unfold termsLeft
  rw [List.getLast?_append]
  cases events'.getLast? <;> simp

@[simp] theorem termsEvents_append (log log' : Transcript Collaborators) :
    termsEvents (log ++ log') = termsEvents log ++ termsEvents log' :=
  List.filterMap_append

theorem termsEvent?_of_sparesTerms {e : Exchange Collaborators} (h : e.request.SparesTerms) :
    termsEvent? e = none := by
  obtain ⟨request, reply⟩ := e
  cases request with
  | provider r => cases r <;> first | exact h.elim | rfl
  | _ => rfl

/-- A step of a session changes the terms as its exchange tells. -/
theorem Session.Reacts.terms_eq {e : Exchange Collaborators} (h : session.Reacts e next) :
    next.terms = termsLeft session.terms (termsEvents [e]) := by
  cases h with
  | idle h => simp [termsEvents, termsEvent?_of_sparesTerms h, termsLeft]
  | identified => rfl
  | obtained hid hterms =>
    simp [termsEvents, termsEvent?, hterms, Except.toOption, termsLeft, TermsEvent.left]
  | @refused _ reply hid hterms =>
    obtain cause | reply := reply
    · rfl
    · cases hreply : Terms.ofReply reply with
      | ok terms => exact absurd hreply (hterms terms)
      | error cause => simp [termsEvents, termsEvent?, hreply, Except.toOption, termsLeft]
  | answered => rfl
  | dropped => rfl

/-- So a whole transcript does. -/
theorem Session.Evolves.terms_eq (h : session.Evolves log next) :
    next.terms = termsLeft session.terms (termsEvents log) := by
  induction h with
  | nil => rfl
  | cons hreacts _ ih =>
    rw [ih, hreacts.terms_eq, ← termsLeft_append, ← termsEvents_append, List.singleton_append]

/-- A transcript with neither a handshake nor a failed ping makes nothing of the terms. -/
theorem termsEvents_eq_nil (h : ∀ e ∈ log, e.request.NoHandshake)
    (hping : ∀ ping cause, ⟨.provider (.ping ping), some (.error cause)⟩ ∉ log) :
    termsEvents log = [] := by
  refine List.filterMap_eq_nil_iff.2 fun ⟨request, reply⟩ he => ?_
  have hrequest := h _ he
  cases request with
  | provider r =>
    cases r with
    | channelInformation r => exact hrequest.elim
    | ping ping =>
      obtain _ | cause | pong := reply
      · rfl
      · exact absurd he (hping ping cause)
      · rfl
    | _ => rfl
  | _ => rfl

/-! ## Handshakes -/

/-- The requests for terms in a transcript. -/
def handshakes (log : Transcript Collaborators) : List Wire.ChannelInformationRequest :=
  log.filterMap fun e =>
    match e.request with
    | .provider (.channelInformation request) => some request
    | _ => none

@[simp] theorem handshakes_append (log log' : Transcript Collaborators) :
    handshakes (log ++ log') = handshakes log ++ handshakes log' :=
  List.filterMap_append

theorem handshakes_eq_nil (h : ∀ e ∈ log, e.request.NoHandshake) : handshakes log = [] := by
  refine List.filterMap_eq_nil_iff.2 fun ⟨request, reply⟩ he => ?_
  have hrequest := h _ he
  cases request with
  | provider r => cases r <;> first | exact hrequest.elim | rfl
  | _ => rfl

namespace Session

/-- The node's id, if the session knows it or else the node tells it first. -/
def knownId? (session : Session) (log : Transcript Collaborators) : Option Bytes :=
  match session.nodeId, log with
  | some id, _ => some id
  | none, ⟨.node .getInfo, some (.ok info)⟩ :: _ => (Hex.decode info.identityKey).toOption
  | none, _ => none

theorem Identifies.knownId?_append (h : session.Identifies part id)
    (rest : Transcript Collaborators) :
    session.knownId? (part ++ rest) = some id := by
  cases h with
  | known hnode => simp [knownId?, hnode]
  | told hnode hid => simp [knownId?, hnode, hid, Except.toOption]

theorem Identifies.handshakes_eq (h : session.Identifies part id) : handshakes part = [] := by
  cases h <;> rfl

theorem Identifies.termsEvents_eq (h : session.Identifies part id) : termsEvents part = [] := by
  cases h <;> rfl

/-- A handshake that fails has asked the provider exactly if the node's id was known. -/
theorem HandshakeFails.handshakes_eq {e : ClientError} (h : session.HandshakeFails log e) :
    handshakes log = ((session.knownId? log).map fun id => ⟨Hex.encode id⟩).toList := by
  cases h with
  | unidentified h =>
    cases h with
    | refused hnode => simp [handshakes, knownId?, hnode]
    | notHex hnode hid => simp [handshakes, knownId?, hnode, hid, Except.toOption]
  | refused hid =>
    rw [handshakes_append, hid.handshakes_eq, hid.knownId?_append]
    rfl
  | wrongKey hid =>
    rw [handshakes_append, hid.handshakes_eq, hid.knownId?_append]
    rfl

/-- A handshake that gives terms has asked the provider once, with the node's id. -/
theorem HandshakeGives.handshakes_eq {terms : Terms} (h : session.HandshakeGives part id terms)
    (rest : Transcript Collaborators) :
    handshakes part = ((session.knownId? (part ++ rest)).map fun id => ⟨Hex.encode id⟩).toList := by
  cases h with
  | obtained hid =>
    rw [handshakes_append, hid.handshakes_eq, List.append_assoc, hid.knownId?_append]
    rfl

theorem HandshakeGives.termsEvents_eq {terms : Terms} (h : session.HandshakeGives part id terms) :
    termsEvents part = [.obtained terms] := by
  cases h with
  | obtained hid hterms =>
    rw [termsEvents_append, hid.termsEvents_eq]
    simp [termsEvents, termsEvent?, hterms, Except.toOption]

end Session

/-! ## Calls one after the other -/

/-- A call that came to an end, with what it asked. -/
structure Turn where
  call : Call
  log : Transcript Collaborators
  outcome : Except ClientError call.Result

/-- What a call makes of the terms. -/
def Turn.events (turn : Turn) : List TermsEvent :=
  match turn.call with
  | .invalidate => [.dropped]
  | _ => termsEvents turn.log

theorem Turn.events_of_invalidate {turn : Turn} (h : turn.call = .invalidate) :
    turn.events = [.dropped] := by
  unfold events
  rw [h]

theorem Turn.events_eq {turn : Turn} (h : turn.call ≠ .invalidate) :
    turn.events = termsEvents turn.log := by
  unfold events
  split
  · next hcall => exact absurd hcall h
  · rfl

/-- A call that begins with a handshake : one that asks for new terms, or needs terms where there
are none. -/
def Call.Handshakes (call : Call) (session : Session) : Prop :=
  call = .refresh ∨ call.NeedsTerms ∧ session.terms = none

namespace Client

/-- From a session a call can come to its end like this, and leaves the next session. -/
def Serves (client : Client) (session : Session) (turn : Turn) (next : Session) : Prop :=
  Runs ((client.perform turn.call).program session) turn.log (some (turn.outcome, next))

/-- The calls of a client one after the other, from a new session on. -/
inductive History (client : Client) : List Turn → Session → Prop
  | start : History client [] {}
  | turn {turns : List Turn} {session next : Session} {turn : Turn}
      (h : History client turns session) (hserves : client.Serves session turn next) :
      History client (turns ++ [turn]) next

variable {client : Client} {turn : Turn}

/-- A call that begins with a handshake goes on with its terms, and asks for none again. -/
theorem exists_program_eq_refresh_bind (client : Client) {call : Call}
    (h : call.Handshakes session) :
    ∃ rest : Terms → Operation call.Result,
      (client.perform call).program session = (Session.refresh >>= rest).program session ∧
        ∀ terms, (rest terms).Steady := by
  rcases h with rfl | ⟨hneeds, hterms⟩
  · exact ⟨pure, congrArg (Operation.program · session) (bind_pure Session.refresh).symm,
      fun _ => Operation.steady_pure _⟩
  · obtain ⟨rest, hperform, hrest⟩ := client.exists_perform_eq_ensure_bind hneeds
    refine ⟨rest, ?_, hrest⟩
    rw [hperform, Operation.program_bind, Operation.program_bind, Session.program_ensure, hterms]

/-- The handshake of a call fails and ends it, or gives terms with which it goes on. -/
theorem Serves.handshake_cases (h : client.Serves session turn next)
    (hhandshake : turn.call.Handshakes session) :
    session.Evolves turn.log next ∧
      ((∃ e, session.HandshakeFails turn.log e ∧ turn.outcome = .error e ∧
          next.terms = session.terms) ∨
        ∃ part rest id terms, turn.log = part ++ rest ∧ session.HandshakeGives part id terms ∧
          ∀ e ∈ rest, e.request.NoHandshake) := by
  obtain ⟨rest, hprogram, hrest⟩ := client.exists_program_eq_refresh_bind hhandshake
  unfold Serves at h
  rw [hprogram, Operation.program_bind, runs_bind_some_iff] at h
  obtain ⟨⟨known, session₁⟩, log₁, log₂, hlog, hfirst, hsecond⟩ := h
  rw [hlog]
  obtain ⟨hevolves, ⟨e, hfails, rfl, hterms⟩ | ⟨id, terms, hgives, rfl, -⟩⟩ :=
    Session.runs_refresh_cases hfirst
  · obtain ⟨rfl, hresult⟩ := runs_pure_iff.1 hsecond
    obtain ⟨houtcome, rfl⟩ := Prod.mk.inj (Option.some.inj hresult)
    rw [List.append_nil]
    exact ⟨hevolves, Or.inl ⟨e, hfails, houtcome, hterms⟩⟩
  · exact ⟨hevolves.append ((hrest terms).evolves hsecond), Or.inr ⟨log₁, log₂, id, terms, rfl,
      hgives, ((hrest terms).asks session₁).allowed_of_runs hsecond⟩⟩

/-- Any other call, dropping the terms apart, asks for no terms. -/
theorem Serves.noHandshake (h : client.Serves session turn next)
    (hhandshake : ¬turn.call.Handshakes session) (hinvalidate : turn.call ≠ .invalidate) :
    session.Evolves turn.log next ∧ ∀ e ∈ turn.log, e.request.NoHandshake := by
  obtain ⟨call, log, outcome⟩ := turn
  obtain ⟨hrefresh, hneeds⟩ := not_or.1 hhandshake
  unfold Serves at h
  by_cases hcall : call.NeedsTerms
  · obtain ⟨rest, hperform, hrest⟩ := client.exists_perform_eq_ensure_bind hcall
    obtain ⟨terms, hterms⟩ := Option.ne_none_iff_exists'.1 fun hnone => hneeds ⟨hcall, hnone⟩
    rw [hperform, Operation.program_bind, Session.program_ensure, hterms] at h
    exact ⟨(hrest terms).evolves h, ((hrest terms).asks session).allowed_of_runs h⟩
  · have hsteady := client.steady_perform hcall hrefresh hinvalidate
    exact ⟨hsteady.evolves h, (hsteady.asks session).allowed_of_runs h⟩

theorem Serves.of_invalidate (h : client.Serves session turn next)
    (hcall : turn.call = .invalidate) :
    turn.log = [] ∧ (∀ e, turn.outcome ≠ .error e) ∧ next = { session with terms := none } := by
  obtain ⟨call, log, outcome⟩ := turn
  cases hcall
  have hdrop : Session.invalidate.program session =
      .pure (.ok (), { session with terms := none }) :=
    rfl
  change Runs (Session.invalidate.program session) log (some (outcome, next)) at h
  rw [hdrop] at h
  obtain ⟨hlog, hresult⟩ := runs_pure_iff.1 h
  obtain ⟨rfl, rfl⟩ := Prod.mk.inj (Option.some.inj hresult)
  exact ⟨hlog, nofun, rfl⟩

/-- A call changes the terms as its events tell. -/
theorem Serves.terms_eq (h : client.Serves session turn next) :
    next.terms = termsLeft session.terms turn.events := by
  by_cases hinvalidate : turn.call = .invalidate
  · obtain ⟨-, -, rfl⟩ := h.of_invalidate hinvalidate
    rw [turn.events_of_invalidate hinvalidate]
    rfl
  · rw [turn.events_eq hinvalidate]
    by_cases hhandshake : turn.call.Handshakes session
    · exact (h.handshake_cases hhandshake).1.terms_eq
    · exact (h.noHandshake hhandshake hinvalidate).1.terms_eq

/-- The terms of a session are those that the events since the new session leave. -/
theorem History.terms_eq {turns : List Turn} (h : client.History turns session) :
    session.terms = termsLeft none (turns.flatMap Turn.events) := by
  induction h with
  | start => rfl
  | turn _ hserves ih =>
    rw [hserves.terms_eq, ih, List.flatMap_append, List.flatMap_singleton, termsLeft_append]

/-- A handshake asked for directly that fails leaves the terms. -/
theorem Serves.terms_of_failed_handshake (h : client.Serves session turn next)
    (hcall : turn.call = .refresh ∨ turn.call = .ensure) {e : ClientError}
    (herror : turn.outcome = .error e) : next.terms = session.terms := by
  obtain ⟨call, log, outcome⟩ := turn
  have hrefresh {outcome : Except ClientError Terms} (herror : outcome = .error e)
      (hrun : Runs (Session.refresh.program session) log (some (outcome, next))) :
      next.terms = session.terms := by
    obtain ⟨-, ⟨_, -, -, hterms⟩ | ⟨_, _, -, hok, -⟩⟩ := Session.runs_refresh_cases hrun
    · exact hterms
    · cases hok.symm.trans herror
  obtain rfl | rfl := hcall
  · exact hrefresh herror h
  · rcases Session.runs_ensure_cases h with ⟨terms, -, -, hok, -⟩ | ⟨-, hrun⟩
    · cases hok.symm.trans herror
    · exact hrefresh herror hrun

/-- A call that fails, but for a failed ping, leaves the terms that it found, or those of its own
handshake where it found none. -/
theorem Serves.terms_of_error (h : client.Serves session turn next) {e : ClientError}
    (herror : turn.outcome = .error e)
    (hping : ∀ ping cause, ⟨.provider (.ping ping), some (.error cause)⟩ ∉ turn.log) :
    next.terms = session.terms ∨
      session.terms = none ∧ ∃ part id terms, part <+: turn.log ∧
        session.HandshakeGives part id terms ∧ next.terms = some terms := by
  by_cases hinvalidate : turn.call = .invalidate
  · exact absurd herror ((h.of_invalidate hinvalidate).2.1 e)
  by_cases hhandshake : turn.call.Handshakes session
  · obtain ⟨hevolves, ⟨e', -, -, hterms⟩ | ⟨part, rest, id, terms, hlog, hgives, hrest⟩⟩ :=
      h.handshake_cases hhandshake
    · exact Or.inl hterms
    rcases hhandshake with hrefresh | ⟨-, hnone⟩
    · exact Or.inl (h.terms_of_failed_handshake (Or.inl hrefresh) herror)
    · -- Behind its handshake the call makes nothing of the terms.
      have hquiet : termsEvents rest = [] := termsEvents_eq_nil hrest fun ping cause hmem =>
        hping ping cause (hlog ▸ List.mem_append_right part hmem)
      refine Or.inr ⟨hnone, part, id, terms, ⟨rest, hlog.symm⟩, hgives, ?_⟩
      rw [hevolves.terms_eq, hlog, termsEvents_append, hgives.termsEvents_eq, hquiet]
      rfl
  · obtain ⟨hevolves, hnone⟩ := h.noHandshake hhandshake hinvalidate
    left
    rw [hevolves.terms_eq, termsEvents_eq_nil hnone hping]
    rfl

/-- A call asks for terms exactly where it begins with a handshake and the node's id is known :
once, and with this id. -/
theorem Serves.handshakes_eq (h : client.Serves session turn next) :
    (turn.call.Handshakes session → handshakes turn.log =
        ((session.knownId? turn.log).map fun id => ⟨Hex.encode id⟩).toList) ∧
      (¬turn.call.Handshakes session → handshakes turn.log = []) := by
  constructor
  · intro hhandshake
    obtain ⟨-, ⟨e, hfails, -, -⟩ | ⟨part, rest, id, terms, hlog, hgives, hrest⟩⟩ :=
      h.handshake_cases hhandshake
    · exact hfails.handshakes_eq
    · rw [hlog, handshakes_append, handshakes_eq_nil hrest, List.append_nil]
      exact hgives.handshakes_eq rest
  · intro hhandshake
    by_cases hinvalidate : turn.call = .invalidate
    · rw [(h.of_invalidate hinvalidate).1]
      rfl
    · exact handshakes_eq_nil (h.noHandshake hhandshake hinvalidate).2

/-- A handshake that fails ends its call, with its error. -/
theorem Serves.ends_of_handshakeFails (h : client.Serves session turn next)
    (hhandshake : turn.call.Handshakes session) {e : ClientError}
    (hfails : session.HandshakeFails part e) (hpart : part <+: turn.log) :
    turn.log = part ∧ turn.outcome = .error e ∧ next.terms = session.terms := by
  obtain ⟨rest, hlog⟩ := hpart
  obtain ⟨session', hrun⟩ := hfails.exists_runs
  obtain ⟨-, ⟨e', hfails', houtcome, hterms⟩ | ⟨part', rest', id, terms, hlog', hgives, -⟩⟩ :=
    h.handshake_cases hhandshake
  · obtain ⟨session'', hrun'⟩ := hfails'.exists_runs
    obtain ⟨rfl, hresult⟩ := hrun.unique hrun' (hlog.trans (List.append_nil _).symm)
    cases hresult
    exact ⟨rfl, houtcome, hterms⟩
  · obtain ⟨session'', hrun'⟩ := hgives.exists_runs
    obtain ⟨-, hresult⟩ := hrun.unique hrun' (hlog.trans hlog')
    cases hresult

/-- After any calls the snapshot gives the terms of the last handshake, unless a failed ping or the
client itself has dropped them since. A call that fails leaves the terms that it found, or those of
its own handshake, and a handshake that fails leaves them and ends its call. A handshake asks for
the terms exactly once, with the node's id, if this is known, and no other call asks for them. -/
theorem keeps_terms (client : Client) {turns : List Turn} {session : Session}
    (h : client.History turns session) :
    Session.snapshot.program session =
        .pure (match termsLeft none (turns.flatMap Turn.events) with
          | some terms => .ok terms
          | none => .error (.fault .notInitialized), session) ∧
      ∀ (turn : Turn) (next : Session), client.Serves session turn next →
        (∀ e, turn.outcome = .error e →
          (turn.call = .refresh ∨ turn.call = .ensure → next.terms = session.terms) ∧
          ((∀ ping cause, ⟨.provider (.ping ping), some (.error cause)⟩ ∉ turn.log) →
            next.terms = session.terms ∨
              session.terms = none ∧ ∃ part id terms, part <+: turn.log ∧
                session.HandshakeGives part id terms ∧ next.terms = some terms)) ∧
        (turn.call.Handshakes session → handshakes turn.log =
          ((session.knownId? turn.log).map fun id => ⟨Hex.encode id⟩).toList) ∧
        (¬turn.call.Handshakes session → handshakes turn.log = []) ∧
        ∀ part e, turn.call.Handshakes session → session.HandshakeFails part e →
          part <+: turn.log →
            turn.log = part ∧ turn.outcome = .error e ∧ next.terms = session.terms := by
  refine ⟨?_, fun turn next hserves => ⟨fun e herror => ⟨fun hcall => ?_, fun hping => ?_⟩,
    hserves.handshakes_eq.1, hserves.handshakes_eq.2, fun part e hhandshake hfails hpart => ?_⟩⟩
  · rw [← h.terms_eq]
    exact Session.program_snapshot session
  · exact hserves.terms_of_failed_handshake hcall herror
  · exact hserves.terms_of_error herror hping
  · exact hserves.ends_of_handshakeFails hhandshake hfails hpart

/-- What the provider tells of itself. -/
def openingReply : Wire.ChannelInformationReply where
  name := "lsp"
  pubkey := "02"
  host := "localhost:9735"
  channelCapacity := 1000000
  targetConf := 6
  baseFeeMsat := 1000
  feeRate := .ofInt 0
  timeLockDelta := 40
  channelFeePermyriad := 40
  lspPubkey := Bytes.repeated publicKeyLength 2
  maxInactiveDuration := 0
  channelMinimumFeeMsat := 2000
  version := "1"

/-- The first handshake of a client whose node has the id 2. -/
def openingLog : Transcript Collaborators :=
  [⟨.node .getInfo, some (.ok ⟨"02", 100, "", "regtest"⟩)⟩,
    ⟨.provider (.channelInformation ⟨"02"⟩), some (.ok openingReply)⟩]

/-- A provider that cannot be reached. -/
def unreachable : Fault := .transport "connection refused"

/-- A ping that stays unanswered. -/
def lostPing : Turn :=
  ⟨.ping 7, [⟨.provider (.ping ⟨7⟩), some (.error unreachable)⟩], .error (.fault unreachable)⟩

/-- A call without terms that cannot reach the provider. -/
def lostCall : Turn :=
  ⟨.requestChannel, [⟨.provider (.channelInformation ⟨"02"⟩), some (.error unreachable)⟩],
    .error (.fault unreachable)⟩

theorem serves_opening {terms : Terms} (h : Terms.ofReply openingReply = .ok terms) :
    defaultClient.Serves {} ⟨.ensure, openingLog, .ok terms⟩ ⟨some [2], some terms⟩ := by
  have hid : Session.Identifies {} [⟨.node .getInfo, some (.ok ⟨"02", 100, "", "regtest"⟩)⟩] [2] :=
    .told rfl (by rfl)
  have hrun := hid.runs_refresh (.ok openingReply)
  have hsome : (Except.ok openingReply).bind Terms.ofReply = .ok terms := h
  have hencode : Hex.encode [2] = "02" := by decide
  rw [Session.accept_of_ok _ hsome, hencode] at hrun
  exact hrun

theorem serves_lostPing (terms : Terms) :
    defaultClient.Serves ⟨some [2], some terms⟩ lostPing ⟨some [2], none⟩ :=
  .answered (.pure _)

/-- A first handshake gives terms and a lost ping drops them, so that the snapshot fails. A call
that needs terms then asks for them with the node's id, and the provider's silence ends it. -/
theorem keeps_terms_after_lostPing : ∃ terms, Terms.ofReply openingReply = .ok terms ∧
    defaultClient.History [⟨.ensure, openingLog, .ok terms⟩, lostPing] ⟨some [2], none⟩ ∧
    Session.snapshot.program ⟨some [2], none⟩ =
      .pure (.error (.fault .notInitialized), ⟨some [2], none⟩) ∧
    defaultClient.Serves ⟨some [2], none⟩ lostCall ⟨some [2], none⟩ ∧
    handshakes lostCall.log = [⟨"02"⟩] := by
  obtain ⟨terms, hterms⟩ := @Session.exists_ofReply_eq_ok openingReply rfl
  have hencode : Hex.encode [2] = "02" := by decide
  have hcall : defaultClient.Serves ⟨some [2], none⟩ lostCall ⟨some [2], none⟩ := by
    have hrun : Runs ((defaultClient.perform .requestChannel).program ⟨some [2], none⟩)
        [⟨.provider (.channelInformation ⟨Hex.encode [2]⟩), some (.error unreachable)⟩]
        (some (.error (.fault unreachable), ⟨some [2], none⟩)) :=
      .answered (.pure _)
    rwa [hencode] at hrun
  have hhistory := History.turn (.turn .start (serves_opening hterms)) (serves_lostPing terms)
  obtain ⟨hsnapshot, hturns⟩ := keeps_terms defaultClient hhistory
  refine ⟨terms, hterms, hhistory, ?_, hcall, ?_⟩
  · simpa [termsLeft, Turn.events, termsEvents, lostPing, termsEvent?, TermsEvent.left] using
      hsnapshot
  · have hasks := (hturns lostCall _ hcall).2.1 (Or.inr ⟨trivial, rfl⟩)
    rw [hasks]
    simp [Session.knownId?, hencode]

end Client

end LiquidityClient
