import LiquidityClient.Proofs.Transcript
import LiquidityClient.Session

/-!
# Runs of operations

An operation is a program from a session to a result and a session (`Operation.program`), and
operations in sequence are programs in sequence (`Operation.program_bind`). `InOrder.run_eq` says
when a run can be moved to collaborators with another state : it is enough that these answer alike
what the program is allowed to ask. The handshake (`Session.program_refresh`) asks the node for its
id and then the provider for its terms.
-/

namespace LiquidityClient

namespace Program

variable {I : Interface} {σ τ α β : Type}

/-- A program goes on with what it is answered. -/
theorem run_ask {answer : Answering I σ} {r : I.Request} {reply : I.Reply r} {s s' : σ}
    (next : I.Reply r → Program I α) (h : answer r s = (some reply, s')) :
    (ask r next).run answer s = (next reply).run answer s' := by
  rw [run, h]

/-- A run does not tell collaborators apart that answer alike what the program is allowed to ask, if
the state of the one is part of the state of the other. -/
theorem InOrder.run_eq {allowed : I.Request → Prop} {p : Program I α} (hp : InOrder allowed p)
    (answer : Answering I σ) (answer' : Answering I τ) (embed : τ → σ)
    (h : ∀ r, allowed r → ∀ t,
      answer r (embed t) = ((answer' r t).1, embed (answer' r t).2)) (t : τ) :
    p.run answer (embed t) = ((p.run answer' t).1, embed (p.run answer' t).2) := by
  induction hp generalizing t with
  | pure a => rfl
  | ask hrequest _ ih =>
    rw [run, run, h _ hrequest]
    rcases answer' _ t with ⟨_ | reply, t'⟩
    · rfl
    · exact ih reply t'
  | both _ _ _ ihfirst ihsecond ih =>
    simp only [run, ihfirst, ihsecond]
    exact ih _ _ _

end Program

theorem Action.mapError_ok {ε δ α : Type} (f : ε → δ) (a : α) :
    (Except.ok a).mapError f = .ok a := rfl

/-- Results that are already there are put together before they are used. -/
theorem Action.ofExcept_bind {ε α β γ : Type} (x : Except ε α) (g : α → Except ε β)
    (f : β → Action ε γ) :
    (ofExcept x >>= fun a => ofExcept (g a) >>= f) = ofExcept (x >>= g) >>= f := by
  cases x <;> rfl

/-! ## Operations -/

namespace Operation

open Program

variable {ε α β : Type} {allowed : Request → Prop}

/-- The program that an operation is from a session on. -/
def program (op : Operation α) (session : Session) :
    Program Collaborators (Except ClientError α × Session) :=
  op.run.run session

theorem program_bind (op : Operation α) (f : α → Operation β) (session : Session) :
    (op >>= f).program session =
      (op.program session).bind fun
        | (.ok a, session) => (f a).program session
        | (.error e, session) => .pure (.error e, session) := by
  refine congrArg (Program.bind _) (funext fun ⟨outcome, session⟩ => ?_)
  cases outcome <;> rfl

/-- A run of two operations in sequence is a run of the first, and one of the second unless the
first fails. -/
theorem runs_bind_cases {op : Operation α} {f : α → Operation β} {session next : Session}
    {log : Transcript Collaborators} {outcome : Except ClientError β}
    (h : Runs ((op >>= f).program session) log (some (outcome, next))) :
    (∃ e, Runs (op.program session) log (some (.error e, next)) ∧ outcome = .error e) ∨
      ∃ a session₁ log₁ log₂, log = log₁ ++ log₂ ∧
        Runs (op.program session) log₁ (some (.ok a, session₁)) ∧
        Runs ((f a).program session₁) log₂ (some (outcome, next)) := by
  rw [program_bind, runs_bind_some_iff] at h
  obtain ⟨⟨e | a, session₁⟩, log₁, log₂, rfl, hfirst, hsecond⟩ := h
  · obtain ⟨rfl, hresult⟩ := runs_pure_iff.1 hsecond
    cases hresult
    rw [List.append_nil]
    exact Or.inl ⟨e, hfirst, rfl⟩
  · exact Or.inr ⟨a, session₁, log₁, log₂, rfl, hfirst, hsecond⟩

theorem program_get_bind (f : Session → Operation β) (session : Session) :
    (get >>= f).program session = (f session).program session := rfl

/-- An action leaves the session alone. -/
theorem program_ofAction (f : ε → ClientError) (action : Action ε α) (session : Session) :
    (ofAction f action).program session =
      action.run.bind fun outcome => .pure (outcome.mapError f, session) := by
  refine (Program.bind_assoc action.run (fun outcome => .pure (outcome, session)) _).trans ?_
  refine congrArg (Program.bind _) (funext fun outcome => ?_)
  cases outcome <;> rfl

/-- So does a call of the node. -/
theorem program_node (r : NodeRequest) (session : Session) :
    program (Action.node r) session =
      .ask (.node r) fun reply => .pure (reply.mapError .fault, session) := by
  refine congrArg (Program.ask _) (funext fun reply => ?_)
  cases reply <;> rfl

/-- And one of the provider. -/
theorem program_provider (r : ProviderRequest) (session : Session) :
    program (Action.provider r) session =
      .ask (.provider r) fun reply => .pure (reply.mapError .fault, session) := by
  refine congrArg (Program.ask _) (funext fun reply => ?_)
  cases reply <;> rfl

/-- And one of the watcher. -/
theorem program_watcher (r : WatcherRequest) (session : Session) :
    program (Action.watcher r) session =
      .ask (.watcher r) fun reply => .pure (reply.mapError .fault, session) := by
  refine congrArg (Program.ask _) (funext fun reply => ?_)
  cases reply <;> rfl

end Operation

/-! ## The handshake -/

namespace Session

open Program

/-- The end of asking the node for its id, by the node's reply. -/
def identify (session : Session) : Except Fault NodeInfo → Except ClientError Bytes × Session
  | .error cause => (.error (.fault cause), session)
  | .ok info =>
    match idOf info with
    | .error cause => (.error (.fault cause), session)
    | .ok id => (.ok id, { session with nodeId := some id })

theorem program_resolveNodeId (session : Session) :
    resolveNodeId.program session =
      match session.nodeId with
      | some id => .pure (.ok id, session)
      | none => .ask (.node .getInfo) fun reply => .pure (session.identify reply) := by
  unfold resolveNodeId
  rw [Operation.program_get_bind]
  cases session.nodeId with
  | some id => rfl
  | none =>
    dsimp only
    rw [Operation.program_bind, Operation.program_node, Program.bind]
    refine congrArg (Program.ask _) (funext fun reply => ?_)
    obtain cause | info := reply
    · rfl
    · simp only [Program.bind, Action.mapError_ok, identify]
      cases idOf info <;> rfl

/-- Only the node is asked for the node's id. -/
theorem inOrder_resolveNodeId (session : Session) :
    InOrder (fun r => r = Request.node .getInfo) (resolveNodeId.program session) := by
  rw [program_resolveNodeId]
  cases session.nodeId with
  | some id => exact .pure _
  | none => exact .ask rfl fun _ => .pure _

/-- The terms that the provider's reply to a handshake gives. -/
def termsOf (reply : Except Fault Wire.ChannelInformationReply) : Except ClientError Terms :=
  (reply.bind Terms.ofReply).mapError .fault

/-- The end of a handshake by the provider's reply : a session keeps the terms that it gets. -/
def accept (session : Session) (reply : Except Fault Wire.ChannelInformationReply) :
    Except ClientError Terms × Session :=
  match termsOf reply with
  | .error e => (.error e, session)
  | .ok terms => (.ok terms, { session with terms := some terms })

theorem accept_fst (session : Session) (reply : Except Fault Wire.ChannelInformationReply) :
    (session.accept reply).1 = termsOf reply := by
  unfold accept
  cases termsOf reply <;> rfl

theorem program_ensure (session : Session) :
    ensure.program session =
      match session.terms with
      | some terms => .pure (.ok terms, session)
      | none => refresh.program session := by
  unfold ensure
  rw [Operation.program_get_bind]
  cases session.terms <;> rfl

/-- A handshake asks the node for its id, unless it is known, and then the provider for its
terms. -/
theorem program_refresh (session : Session) :
    refresh.program session =
      (resolveNodeId.program session).bind fun
        | (.ok id, session) =>
          .ask (.provider (.channelInformation ⟨Hex.encode id⟩)) fun reply =>
            .pure (session.accept reply)
        | (.error e, session) => .pure (.error e, session) := by
  unfold refresh
  rw [Operation.program_bind]
  refine congrArg (Program.bind _) (funext fun known => ?_)
  obtain ⟨e | id, session⟩ := known
  · rfl
  · dsimp only
    rw [Operation.program_bind, Operation.program_provider, Program.bind]
    refine congrArg (Program.ask _) (funext fun reply => ?_)
    obtain cause | reply := reply
    · rfl
    · have hterms : termsOf (.ok reply) = (Terms.ofReply reply).mapError .fault := rfl
      simp only [Program.bind, Action.mapError_ok, accept, hterms]
      cases Terms.ofReply reply <;> rfl

end Session

end LiquidityClient
