import LiquidityClient.Proofs.Operations

/-!
# Steps of a session

What an exchange with the collaborators can do to a session (`Session.Reacts`), and what a whole
transcript can (`Session.Evolves`). The node's reply can tell the node's id, the provider's reply to
a handshake can give terms, and a failed ping drops them; no other exchange touches them. An
operation that asks for no terms and so evolves the session is `Steady`, and operations in sequence
are steady if each of them is (`Steady.bind`). A handshake fails in one of four ways
(`Session.HandshakeFails`), and otherwise leaves new terms (`Session.runs_refresh_cases`).
-/

namespace LiquidityClient

open Program

/-- A request that is no handshake with the provider and no ping. -/
def Request.SparesTerms : Request → Prop
  | .provider (.channelInformation _) => False
  | .provider (.ping _) => False
  | _ => True

/-- A request that is no handshake with the provider. -/
def Request.NoHandshake : Request → Prop
  | .provider (.channelInformation _) => False
  | _ => True

theorem Request.SparesTerms.noHandshake {r : Request} (h : r.SparesTerms) : r.NoHandshake := by
  cases r with
  | provider r => cases r <;> first | exact h | trivial
  | _ => trivial

namespace Session

/-! ## Steps -/

/-- What an exchange can do to a session. -/
inductive Reacts (session : Session) : Exchange Collaborators → Session → Prop
  | idle {e : Exchange Collaborators} (h : e.request.SparesTerms) : Reacts session e session
  /-- The node tells its id. -/
  | identified {info : NodeInfo} {id : Bytes} (hnone : session.nodeId = none)
      (hid : idOf info = .ok id) :
      Reacts session ⟨.node .getInfo, some (.ok info)⟩ { session with nodeId := some id }
  /-- The provider gives its terms. -/
  | obtained {id : Bytes} {reply : Wire.ChannelInformationReply} {terms : Terms}
      (hid : session.nodeId = some id) (hterms : Terms.ofReply reply = .ok terms) :
      Reacts session ⟨.provider (.channelInformation ⟨Hex.encode id⟩), some (.ok reply)⟩
        { session with terms := some terms }
  /-- The provider's reply gives no terms. -/
  | refused {id : Bytes} {reply : Except Fault Wire.ChannelInformationReply}
      (hid : session.nodeId = some id) (hterms : ∀ terms, reply.bind Terms.ofReply ≠ .ok terms) :
      Reacts session ⟨.provider (.channelInformation ⟨Hex.encode id⟩), some reply⟩ session
  | answered {ping : Wire.PingRequest} {pong : Wire.PingReply} :
      Reacts session ⟨.provider (.ping ping), some (.ok pong)⟩ session
  /-- The provider gives no sign of life. -/
  | dropped {ping : Wire.PingRequest} {cause : Fault} :
      Reacts session ⟨.provider (.ping ping), some (.error cause)⟩ { session with terms := none }

/-- What a transcript can do to a session. -/
inductive Evolves : Session → Transcript Collaborators → Session → Prop
  | nil {session : Session} : Evolves session [] session
  | cons {session next last : Session} {e : Exchange Collaborators}
      {log : Transcript Collaborators} (h : session.Reacts e next) (rest : Evolves next log last) :
      Evolves session (e :: log) last

variable {session next last : Session} {log log' : Transcript Collaborators}

theorem Reacts.evolves {e : Exchange Collaborators} (h : session.Reacts e next) :
    session.Evolves [e] next :=
  .cons h .nil

theorem Evolves.append (h : session.Evolves log next) (h' : next.Evolves log' last) :
    session.Evolves (log ++ log') last := by
  induction h with
  | nil => exact h'
  | cons hreacts _ ih => exact .cons hreacts (ih h')

theorem Evolves.of_spares (h : ∀ e ∈ log, e.request.SparesTerms) : session.Evolves log session := by
  induction log with
  | nil => exact .nil
  | cons e log ih =>
    obtain ⟨he, hlog⟩ := List.forall_mem_cons.1 h
    exact .cons (.idle he) (ih hlog)

end Session

/-! ## Steady operations -/

/-- An operation that asks for no terms, and in which the session changes only as the answers
tell. -/
structure Operation.Steady {α : Type} (op : Operation α) : Prop where
  asks : ∀ session, InOrder Request.NoHandshake (op.program session)
  evolves : ∀ {session log outcome session'},
    Runs (op.program session) log (some (outcome, session')) → session.Evolves log session'

namespace Operation

variable {ε α β : Type}

/-- An operation that asks nothing and leaves the session alone. -/
theorem steady_of_program_eq_pure {op : Operation α}
    (h : ∀ session, ∃ outcome, op.program session = .pure (outcome, session)) : op.Steady where
  asks session := by
    obtain ⟨outcome, hprogram⟩ := h session
    rw [hprogram]
    exact .pure _
  evolves {session _ _ _} hrun := by
    obtain ⟨outcome, hprogram⟩ := h session
    rw [hprogram] at hrun
    obtain ⟨rfl, hresult⟩ := runs_pure_iff.1 hrun
    cases hresult
    exact .nil

theorem steady_pure (a : α) : (pure a : Operation α).Steady :=
  steady_of_program_eq_pure fun _ => ⟨.ok a, rfl⟩

theorem steady_throw (e : ClientError) : (throw e : Operation α).Steady :=
  steady_of_program_eq_pure fun _ => ⟨.error e, rfl⟩

theorem Steady.bind {op : Operation α} {f : α → Operation β} (hop : op.Steady)
    (hf : ∀ a, (f a).Steady) : (op >>= f).Steady where
  asks session := by
    rw [program_bind]
    refine (hop.asks session).bind fun ⟨outcome, session'⟩ => ?_
    cases outcome with
    | ok a => exact (hf a).asks session'
    | error e => exact .pure _
  evolves h := by
    rcases runs_bind_cases h with ⟨e, hrun, -⟩ | ⟨a, session₁, log₁, log₂, rfl, hfirst, hsecond⟩
    · exact hop.evolves hrun
    · exact (hop.evolves hfirst).append ((hf a).evolves hsecond)

/-- An action that spares the terms leaves the session alone. -/
theorem steady_ofAction {f : ε → ClientError} {action : Action ε α}
    (h : InOrder Request.SparesTerms action.run) : (ofAction f action).Steady where
  asks session := by
    rw [program_ofAction]
    exact (h.mono fun _ => Request.SparesTerms.noHandshake).bind fun _ => .pure _
  evolves hrun := by
    rw [program_ofAction, runs_bind_some_iff] at hrun
    obtain ⟨outcome, log₁, log₂, rfl, hfirst, hsecond⟩ := hrun
    obtain ⟨rfl, hresult⟩ := runs_pure_iff.1 hsecond
    cases hresult
    rw [List.append_nil]
    exact .of_spares (h.allowed_of_runs hfirst)

end Operation

/-! ## The terms at hand -/

theorem Session.program_snapshot (session : Session) :
    Session.snapshot.program session =
      .pure (match session.terms with
        | some terms => .ok terms
        | none => .error (.fault .notInitialized), session) := by
  unfold Session.snapshot
  rw [Operation.program_get_bind]
  cases session.terms <;> rfl

theorem Session.steady_snapshot : Session.snapshot.Steady :=
  Operation.steady_of_program_eq_pure fun session => ⟨_, Session.program_snapshot session⟩

/-! ## The node's id -/

namespace Session

variable {session session' : Session} {log part : Transcript Collaborators} {id : Bytes}

theorem idOf_eq_ok_iff {info : NodeInfo} :
    idOf info = .ok id ↔ Hex.decode info.identityKey = .ok id := by
  unfold idOf
  cases Hex.decode info.identityKey <;> simp

theorem idOf_eq_error {info : NodeInfo} {e : HexError}
    (h : Hex.decode info.identityKey = .error e) :
    idOf info = .error (.node ("identity pubkey is not hex: " ++ e.message)) := by
  unfold idOf
  rw [h]

/-- The node's id becomes known : the session knows it, or the node tells it. -/
inductive Identifies (session : Session) : Transcript Collaborators → Bytes → Prop
  | known {id : Bytes} (h : session.nodeId = some id) : Identifies session [] id
  | told {info : NodeInfo} {id : Bytes} (h : session.nodeId = none)
      (hid : Hex.decode info.identityKey = .ok id) :
      Identifies session [⟨.node .getInfo, some (.ok info)⟩] id

/-- The node does not tell its id. -/
inductive Unidentified (session : Session) : Transcript Collaborators → ClientError → Prop
  | refused {cause : Fault} (h : session.nodeId = none) :
      Unidentified session [⟨.node .getInfo, some (.error cause)⟩] (.fault cause)
  | notHex {info : NodeInfo} {e : HexError} (h : session.nodeId = none)
      (hid : Hex.decode info.identityKey = .error e) :
      Unidentified session [⟨.node .getInfo, some (.ok info)⟩]
        (.fault (.node ("identity pubkey is not hex: " ++ e.message)))

theorem identify_of_hex (session : Session) {info : NodeInfo}
    (h : Hex.decode info.identityKey = .ok id) :
    session.identify (.ok info) = (.ok id, { session with nodeId := some id }) := by
  simp only [identify, idOf_eq_ok_iff.2 h]

theorem identify_of_not_hex (session : Session) {info : NodeInfo} {e : HexError}
    (h : Hex.decode info.identityKey = .error e) :
    session.identify (.ok info) =
      (.error (.fault (.node ("identity pubkey is not hex: " ++ e.message))), session) := by
  simp only [identify, idOf_eq_error h]

theorem Identifies.runs (h : session.Identifies log id) :
    Runs (resolveNodeId.program session) log
      (some (.ok id, { session with nodeId := some id })) := by
  rw [program_resolveNodeId]
  cases h with
  | known hnode =>
    obtain ⟨nodeId, terms⟩ := session
    cases hnode
    exact .pure _
  | told hnode hhex =>
    rw [hnode, ← identify_of_hex session hhex]
    exact .answered (.pure _)

theorem Unidentified.runs {e : ClientError} (h : session.Unidentified log e) :
    Runs (resolveNodeId.program session) log (some (.error e, session)) := by
  rw [program_resolveNodeId]
  cases h with
  | refused hnode =>
    rw [hnode]
    exact .answered (.pure _)
  | notHex hnode hhex =>
    rw [hnode, ← identify_of_not_hex session hhex]
    exact .answered (.pure _)

/-- A run that asks for the node's id tells it, or fails. -/
theorem runs_resolveNodeId_cases {outcome : Except ClientError Bytes}
    (h : Runs (resolveNodeId.program session) log (some (outcome, session'))) :
    (∃ id, session.Identifies log id ∧ outcome = .ok id ∧
        session' = { session with nodeId := some id }) ∨
      (∃ e, session.Unidentified log e ∧ outcome = .error e ∧ session' = session) := by
  rw [program_resolveNodeId] at h
  cases hnode : session.nodeId with
  | some id =>
    rw [hnode] at h
    obtain ⟨rfl, hresult⟩ := runs_pure_iff.1 h
    cases hresult
    exact Or.inl ⟨id, .known hnode, rfl, hnode ▸ rfl⟩
  | none =>
    rw [hnode] at h
    obtain ⟨reply, rest, rfl, hend⟩ := runs_ask_some_iff.1 h
    obtain ⟨rfl, hresult⟩ := runs_pure_iff.1 hend
    obtain cause | info := reply
    · cases hresult
      exact Or.inr ⟨_, .refused hnode, rfl, rfl⟩
    · cases hhex : Hex.decode info.identityKey with
      | ok id =>
        cases hresult.trans (congrArg some (identify_of_hex session hhex))
        exact Or.inl ⟨id, .told hnode hhex, rfl, rfl⟩
      | error e =>
        cases hresult.trans (congrArg some (identify_of_not_hex session hhex))
        exact Or.inr ⟨_, .notHex hnode hhex, rfl, rfl⟩

theorem Identifies.evolves (h : session.Identifies log id) :
    session.Evolves log { session with nodeId := some id } := by
  cases h with
  | known hnode =>
    obtain ⟨nodeId, terms⟩ := session
    cases hnode
    exact .nil
  | told hnode hhex => exact (Reacts.identified hnode (idOf_eq_ok_iff.2 hhex)).evolves

theorem Unidentified.evolves {e : ClientError} (h : session.Unidentified log e) :
    session.Evolves log session := by
  cases h <;> exact .of_spares (List.forall_mem_singleton.2 trivial)

theorem steady_resolveNodeId : resolveNodeId.Steady where
  asks session := (inOrder_resolveNodeId session).mono fun _ hr => hr ▸ trivial
  evolves h := by
    rcases runs_resolveNodeId_cases h with ⟨id, hid, rfl, rfl⟩ | ⟨e, hid, rfl, rfl⟩
    · exact hid.evolves
    · exact hid.evolves

/-! ## The handshake -/

/-- The ways in which a handshake fails : the node does not tell its id, the provider gives no
reply, or its key does not have the length of a public key. -/
inductive HandshakeFails (session : Session) : Transcript Collaborators → ClientError → Prop
  | unidentified {log : Transcript Collaborators} {e : ClientError}
      (h : session.Unidentified log e) : HandshakeFails session log e
  | refused {part : Transcript Collaborators} {id : Bytes} {cause : Fault}
      (hid : session.Identifies part id) :
      HandshakeFails session
        (part ++ [⟨.provider (.channelInformation ⟨Hex.encode id⟩), some (.error cause)⟩])
        (.fault cause)
  | wrongKey {part : Transcript Collaborators} {id : Bytes} {reply : Wire.ChannelInformationReply}
      (hid : session.Identifies part id) (hlength : reply.lspPubkey.length ≠ publicKeyLength) :
      HandshakeFails session
        (part ++ [⟨.provider (.channelInformation ⟨Hex.encode id⟩), some (.ok reply)⟩])
        (.fault (.protocol ("LSP pubkey must be " ++ Decimal.ofNat publicKeyLength
          ++ " bytes, got " ++ Decimal.ofNat reply.lspPubkey.length)))

/-- A handshake that gives terms. -/
inductive HandshakeGives (session : Session) : Transcript Collaborators → Bytes → Terms → Prop
  | obtained {part : Transcript Collaborators} {id : Bytes} {reply : Wire.ChannelInformationReply}
      {terms : Terms} (hid : session.Identifies part id)
      (hterms : Terms.ofReply reply = .ok terms) :
      HandshakeGives session
        (part ++ [⟨.provider (.channelInformation ⟨Hex.encode id⟩), some (.ok reply)⟩]) id terms

theorem ofReply_of_wrongKey {reply : Wire.ChannelInformationReply}
    (h : reply.lspPubkey.length ≠ publicKeyLength) :
    Terms.ofReply reply = .error (.protocol ("LSP pubkey must be "
      ++ Decimal.ofNat publicKeyLength ++ " bytes, got "
      ++ Decimal.ofNat reply.lspPubkey.length)) := by
  unfold Terms.ofReply
  rw [if_neg h]

theorem exists_ofReply_eq_ok {reply : Wire.ChannelInformationReply}
    (h : reply.lspPubkey.length = publicKeyLength) : ∃ terms, Terms.ofReply reply = .ok terms := by
  unfold Terms.ofReply
  rw [if_pos h]
  exact ⟨_, rfl⟩

theorem accept_of_error (session : Session) {reply : Except Fault Wire.ChannelInformationReply}
    {cause : Fault} (h : reply.bind Terms.ofReply = .error cause) :
    session.accept reply = (.error (.fault cause), session) := by
  unfold accept termsOf
  rw [h]
  rfl

theorem accept_of_ok (session : Session) {reply : Except Fault Wire.ChannelInformationReply}
    {terms : Terms} (h : reply.bind Terms.ofReply = .ok terms) :
    session.accept reply = (.ok terms, { session with terms := some terms }) := by
  unfold accept termsOf
  rw [h]
  rfl

/-- Once the node's id is known, the provider's reply ends the handshake. -/
theorem Identifies.runs_refresh (h : session.Identifies part id)
    (reply : Except Fault Wire.ChannelInformationReply) :
    Runs (refresh.program session)
      (part ++ [⟨.provider (.channelInformation ⟨Hex.encode id⟩), some reply⟩])
      (some ({ session with nodeId := some id }.accept reply)) := by
  rw [program_refresh]
  exact h.runs.bind (.answered (.pure _))

theorem HandshakeFails.exists_runs {e : ClientError} (h : session.HandshakeFails log e) :
    ∃ session', Runs (refresh.program session) log (some (.error e, session')) := by
  cases h with
  | unidentified h =>
    refine ⟨session, ?_⟩
    rw [program_refresh, ← List.append_nil log]
    exact h.runs.bind (.pure _)
  | refused hid => exact ⟨_, hid.runs_refresh _⟩
  | @wrongKey _ _ reply hid hlength =>
    have hruns := hid.runs_refresh (.ok reply)
    have hnone : (Except.ok reply).bind Terms.ofReply = _ := ofReply_of_wrongKey hlength
    rw [accept_of_error _ hnone] at hruns
    exact ⟨_, hruns⟩

theorem HandshakeGives.exists_runs {terms : Terms} (h : session.HandshakeGives log id terms) :
    ∃ session', Runs (refresh.program session) log (some (.ok terms, session')) := by
  cases h with
  | @obtained _ _ reply _ hid hterms =>
    have hruns := hid.runs_refresh (.ok reply)
    have hsome : (Except.ok reply).bind Terms.ofReply = .ok terms := hterms
    rw [accept_of_ok _ hsome] at hruns
    exact ⟨_, hruns⟩

/-- A handshake fails if the provider's reply gives no terms. -/
theorem Identifies.handshakeFails (h : session.Identifies part id)
    {reply : Except Fault Wire.ChannelInformationReply} {cause : Fault}
    (hterms : reply.bind Terms.ofReply = .error cause) :
    session.HandshakeFails
      (part ++ [⟨.provider (.channelInformation ⟨Hex.encode id⟩), some reply⟩]) (.fault cause) := by
  obtain cause' | reply := reply
  · cases hterms
    exact .refused h
  · by_cases hlength : reply.lspPubkey.length = publicKeyLength
    · obtain ⟨terms, hok⟩ := exists_ofReply_eq_ok hlength
      cases hterms.symm.trans hok
    · cases hterms.symm.trans (ofReply_of_wrongKey hlength)
      exact .wrongKey h hlength

/-- A handshake fails and leaves the terms, or it gives new ones. -/
theorem runs_refresh_cases {outcome : Except ClientError Terms}
    (h : Runs (refresh.program session) log (some (outcome, session'))) :
    session.Evolves log session' ∧
      ((∃ e, session.HandshakeFails log e ∧ outcome = .error e ∧ session'.terms = session.terms) ∨
        ∃ id terms, session.HandshakeGives log id terms ∧ outcome = .ok terms ∧
          session'.terms = some terms) := by
  rw [program_refresh, runs_bind_some_iff] at h
  obtain ⟨⟨known, session₁⟩, log₁, log₂, rfl, hfirst, hsecond⟩ := h
  rcases runs_resolveNodeId_cases hfirst with ⟨id, hid, rfl, rfl⟩ | ⟨e, hid, rfl, rfl⟩
  · obtain ⟨reply, rest, rfl, hend⟩ := runs_ask_some_iff.1 hsecond
    obtain ⟨rfl, hresult⟩ := runs_pure_iff.1 hend
    cases hterms : reply.bind Terms.ofReply with
    | ok terms =>
      cases hresult.trans (congrArg some (accept_of_ok _ hterms))
      obtain cause | reply := reply
      · cases hterms
      · exact ⟨hid.evolves.append (Reacts.obtained rfl hterms).evolves,
          Or.inr ⟨id, terms, .obtained hid hterms, rfl, rfl⟩⟩
    | error cause =>
      cases hresult.trans (congrArg some (accept_of_error _ hterms))
      exact ⟨hid.evolves.append (Reacts.refused rfl (by simp [hterms])).evolves,
        Or.inl ⟨_, hid.handshakeFails hterms, rfl, rfl⟩⟩
  · obtain ⟨rfl, hresult⟩ := runs_pure_iff.1 hsecond
    cases hresult
    rw [List.append_nil]
    exact ⟨hid.evolves, Or.inl ⟨e, .unidentified hid, rfl, rfl⟩⟩

/-- Where there are terms nothing is asked for them, and otherwise there is a handshake. -/
theorem runs_ensure_cases {outcome : Except ClientError Terms}
    (h : Runs (ensure.program session) log (some (outcome, session'))) :
    (∃ terms, session.terms = some terms ∧ log = [] ∧ outcome = .ok terms ∧ session' = session) ∨
      (session.terms = none ∧
        Runs (refresh.program session) log (some (outcome, session'))) := by
  rw [program_ensure] at h
  cases hterms : session.terms with
  | some terms =>
    rw [hterms] at h
    obtain ⟨rfl, hresult⟩ := runs_pure_iff.1 h
    cases hresult
    exact Or.inl ⟨terms, rfl, rfl, rfl, rfl⟩
  | none =>
    rw [hterms] at h
    exact Or.inr ⟨rfl, h⟩

end Session

end LiquidityClient
