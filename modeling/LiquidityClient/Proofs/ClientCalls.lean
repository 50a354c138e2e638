import LiquidityClient.Client
import LiquidityClient.Proofs.PaymentRounds
import LiquidityClient.Proofs.RebalanceRequests
import LiquidityClient.Proofs.RefundIndependence
import LiquidityClient.Proofs.SessionSteps

/-!
# The calls of a client

What a client can be asked to do, as data (`Call`), and the operation that each call performs
(`Client.perform`). A call that needs terms is a handshake, if there are none, followed by something
that asks for none (`Client.exists_perform_eq_ensure_bind`), and most other calls ask for none at
all (`Client.steady_perform`). Under both lies that payments, swaps, rebalances and attestations
neither ask for terms nor ping.
-/

namespace LiquidityClient

open Program

/-! ## What the actions ask -/

/-- A message is sealed for the provider and sent, and the reply decides how the action goes on. -/
theorem sparesTerms_sealedCall_bind {ε α β : Type} [Wire.Message α] {recipient : PublicKey}
    {message : α} {request : Wire.Encrypted → ProviderRequest} {wrap : Fault → ε}
    {next : (envelope : Wire.Encrypted) → (request envelope).Answer → Action ε β}
    (hrequest : ∀ envelope, Request.SparesTerms (.provider (request envelope)))
    (hnext : ∀ envelope reply, InOrder Request.SparesTerms (next envelope reply).run) :
    InOrder Request.SparesTerms (sealFresh recipient message >>= fun envelope =>
      Action.mapError wrap (Action.provider (request envelope)) >>= next envelope).run :=
  inOrder_sealedCall_bind trivial (fun _ => trivial) hrequest hnext

theorem sparesTerms_findRoute (terms : Terms) (query : RouteQuery) :
    InOrder Request.SparesTerms (findRoute terms query).run :=
  inOrder_findRoute trivial (fun _ => trivial) (fun _ => trivial) trivial terms query

theorem sparesTerms_sendReport (terms : Terms) (category : String) (level : Wire.ReportLevel)
    (message : String) :
    InOrder Request.SparesTerms (sendReport terms category level message).run :=
  inOrder_sendReport trivial (fun _ => trivial) (fun _ => trivial) terms category level message

theorem sparesTerms_sendRoute (paymentHash : Bytes) (route : Route) :
    InOrder Request.SparesTerms (sendRoute paymentHash route).run :=
  inOrder_sendRoute (fun _ _ => trivial) trivial paymentHash route

namespace PaymentJob

theorem sparesTerms_giveUp (job : PaymentJob) (progress : PaymentProgress) :
    InOrder Request.SparesTerms (job.giveUp progress).run := by
  unfold giveUp reportFailure
  refine Action.inOrder_bind ?_ fun _ => Action.inOrder_pure _
  exact Action.inOrder_bind (Action.inOrder_outcome (sparesTerms_sendReport _ _ _ _))
    fun _ => Action.inOrder_pure _

theorem sparesTerms_rounds (job : PaymentJob) (remaining : Nat) (progress : PaymentProgress) :
    InOrder Request.SparesTerms (job.rounds remaining progress).run := by
  induction remaining generalizing progress with
  | zero => exact sparesTerms_giveUp job progress
  | succ remaining ih =>
    rw [rounds]
    refine Action.inOrder_bind (Action.inOrder_outcome (sparesTerms_findRoute _ _)) fun found => ?_
    cases found with
    | error e => exact sparesTerms_giveUp job _
    | ok route =>
      refine Action.inOrder_bind (Action.inOrder_outcome (sparesTerms_sendRoute _ _))
        fun sent => ?_
      obtain cause | _ | ⟨reason, _ | edge⟩ := sent
      · refine Action.inOrder_bind ?_ fun _ => Action.inOrder_throw _
        exact Action.inOrder_bind (Action.inOrder_outcome (sparesTerms_sendReport _ _ _ _))
          fun _ => Action.inOrder_pure _
      · exact Action.inOrder_pure _
      · exact sparesTerms_giveUp job _
      · exact ih _

end PaymentJob

theorem sparesTerms_pay (terms : Terms) (invoice : String) (feeLimitSat amountSat : Int64) :
    InOrder Request.SparesTerms (pay terms invoice feeLimitSat amountSat).run :=
  Action.inOrder_bind (inOrder_preparePayment (fun _ => trivial) trivial _ _ _ _) fun job =>
    job.sparesTerms_rounds _ _

theorem sparesTerms_registerPayment (terms : Terms) (nodeId : Bytes) (amountSat : Int64)
    (memo : String) :
    InOrder Request.SparesTerms (registerPayment terms nodeId amountSat memo).run := by
  unfold registerPayment
  refine Action.inOrder_bind (Action.inOrder_mapError (Action.inOrder_node trivial))
    fun channels => ?_
  refine Action.inOrder_bind (Action.inOrder_ofExcept _) fun _ => ?_
  refine Action.inOrder_bind (Action.inOrder_ask trivial) fun preimage => ?_
  refine Action.inOrder_bind (Action.inOrder_ofExcept _) fun incomingMsat => ?_
  refine Action.inOrder_bind (Action.inOrder_ofExcept _) fun outgoingMsat => ?_
  refine Action.inOrder_bind (Action.inOrder_ofExcept _) fun hint => ?_
  refine Action.inOrder_bind (Action.inOrder_mapError (Action.inOrder_node trivial)) fun kept => ?_
  refine Action.inOrder_bind (Action.inOrder_mapError (Action.inOrder_node trivial))
    fun forPayer => ?_
  split_ifs
  · exact Action.inOrder_throw _
  · refine Action.inOrder_bind (Action.inOrder_ofExcept _) fun providerKey => ?_
    exact sparesTerms_sealedCall_bind (fun _ => trivial) fun _ _ => Action.inOrder_pure _

theorem sparesTerms_freshSwapKeys :
    InOrder Request.SparesTerms (freshSwapKeys : Action ClientError SwapKeys).run := by
  unfold freshSwapKeys
  refine Action.inOrder_bind (Action.inOrder_ask trivial) fun preimage => ?_
  exact Action.inOrder_bind (Action.inOrder_ask trivial) fun refundKey => Action.inOrder_pure _

namespace Swap

theorem sparesTerms_register (settings : SwapSettings) (terms : Terms)
    (nodeId paymentHash refundKey : Bytes) :
    InOrder Request.SparesTerms (register settings terms nodeId paymentHash refundKey).run := by
  unfold register requestOffer acceptOffer
  refine Action.inOrder_bind ?_ fun offer => ?_
  · refine Action.inOrder_bind (Action.inOrder_ofExcept _) fun _ => ?_
    refine Action.inOrder_bind (Action.inOrder_ofExcept _) fun ourKey => ?_
    refine Action.inOrder_bind (Action.inOrder_ofExcept _) fun providerKey => ?_
    refine Action.inOrder_bind (Action.inOrder_ask trivial) fun replyKey => ?_
    refine sparesTerms_sealedCall_bind (fun _ => trivial) fun envelope reply => ?_
    refine Action.inOrder_bind (Action.inOrder_ofExcept _) fun response => ?_
    refine Action.inOrder_bind (Action.inOrder_ofExcept _) fun theirKey => ?_
    refine Action.inOrder_bind (Action.inOrder_mapError (Action.inOrder_node trivial))
      fun info => ?_
    refine Action.inOrder_bind (Action.inOrder_ofExcept _) fun network => ?_
    exact Action.inOrder_bind (Action.inOrder_ofExcept _) fun script => Action.inOrder_pure _
  · refine Action.inOrder_bind (Action.inOrder_ofExcept _) fun _ => ?_
    refine Action.inOrder_bind (Action.inOrder_mapError (Action.inOrder_node trivial))
      fun watched => ?_
    exact Action.inOrder_bind (Action.inOrder_ofExcept _) fun _ => Action.inOrder_pure _

theorem sparesTerms_receive (terms : Terms) (paymentHash : Bytes) (invoice : String) :
    InOrder Request.SparesTerms (receive terms paymentHash invoice).run := by
  unfold receive
  refine Action.inOrder_bind (Action.inOrder_ofExcept _) fun providerKey => ?_
  exact sparesTerms_sealedCall_bind (fun _ => trivial) fun _ _ => Action.inOrder_pure _

theorem sparesTerms_refund (settings : SwapSettings) (inputs : List RefundInput)
    (address label : String) :
    InOrder Request.SparesTerms (refund settings inputs address label).run := by
  refine (inOrder_refund settings inputs address label).mono fun r hr => ?_
  cases r with
  | provider r => exact hr.elim
  | _ => trivial

theorem sparesTerms_watchAgain (script : Bytes) :
    InOrder Request.SparesTerms (watchAgain script).run := by
  unfold watchAgain
  refine Action.inOrder_bind (Action.inOrder_mapError (Action.inOrder_node trivial)) fun info => ?_
  exact Action.inOrder_mapError (Action.inOrder_node trivial)

end Swap

theorem Rebalance.sparesTerms_run (terms : Terms) (settings : RebalanceSettings)
    (died : Phase → String) :
    InOrder Request.SparesTerms (Rebalance.run terms settings died).run := by
  refine inOrder_run.mono fun r hr => ?_
  rcases hr with hr | hr <;> cases hr <;> trivial

theorem sparesTerms_attestationNonce (terms : Terms) (nodeId : Bytes) (device : String) :
    InOrder Request.SparesTerms (attestationNonce terms nodeId device).run := by
  unfold attestationNonce
  refine Action.inOrder_bind (Action.inOrder_ofExcept _) fun providerKey => ?_
  refine Action.inOrder_bind (Action.inOrder_ask trivial) fun replyKey => ?_
  refine sparesTerms_sealedCall_bind (fun _ => trivial) fun envelope reply => ?_
  exact Action.inOrder_bind (Action.inOrder_ofExcept _) fun response => Action.inOrder_pure _

theorem sparesTerms_verifyAttestation (terms : Terms) (nodeId : Bytes) (device token : String) :
    InOrder Request.SparesTerms (verifyAttestation terms nodeId device token).run := by
  unfold verifyAttestation
  refine Action.inOrder_bind (Action.inOrder_ofExcept _) fun providerKey => ?_
  exact sparesTerms_sealedCall_bind (fun _ => trivial) fun _ _ => Action.inOrder_pure _

/-! ## The calls -/

/-- The calls of a client and, directly, those of its session. -/
inductive Call where
  | version
  | hubNode
  | feePermyriad
  | paymentFee (amountSat : Int64)
  | feeHint (peer : Bytes)
  | ping (nonce : Int32)
  | receiveMax
  | registerPayment (amountSat : Int64) (memo : String)
  | payInvoice (invoice : String) (feeLimitSat amountSat : Int64)
  | buildRoute (query : RouteQuery)
  | rebalance (died : Rebalance.Phase → String)
  | createSwapKeys
  | registerSwap (paymentHash refundKey : Bytes)
  | receiveSwap (paymentHash : Bytes) (invoice : String)
  | refundSwaps (inputs : List RefundInput) (address label : String)
  | watchSwapAgain (script : Bytes)
  | registerMail (address : String)
  | report (category : String) (level : Wire.ReportLevel) (message : String)
  | requestChannel
  | attestationNonce (device : String)
  | verifyAttestation (device token : String)
  | watchClose (channelPoint : String)
  | unwatchClose (channelPoint : String)
  | countClosed
  | snapshot
  | resolveNodeId
  | ensure
  | refresh
  | invalidate

namespace Call

/-- What a call gives. -/
abbrev Result : Call → Type
  | .version | .hubNode | .registerPayment .. | .refundSwaps .. | .watchSwapAgain _
  | .attestationNonce _ => String
  | .feePermyriad | .paymentFee _ | .receiveMax => Int64
  | .feeHint _ => Option FeeHint
  | .ping _ => Int32
  | .payInvoice .. => PaymentOutcome
  | .buildRoute _ => Route
  | .rebalance _ => RebalanceReport
  | .createSwapKeys => SwapKeys
  | .registerSwap .. => RegisteredSwap
  | .verifyAttestation .. => Wire.IntegrityResult
  | .countClosed => Nat
  | .snapshot | .ensure | .refresh => Terms
  | .resolveNodeId => Bytes
  | .receiveSwap .. | .registerMail _ | .report .. | .requestChannel | .watchClose _
  | .unwatchClose _ | .invalidate => Unit

/-- The calls that see to it that there are terms before they do anything else. -/
def NeedsTerms : Call → Prop
  | .ping _ | .registerPayment .. | .payInvoice .. | .buildRoute _ | .rebalance _ | .registerSwap ..
  | .receiveSwap .. | .refundSwaps .. | .watchSwapAgain _ | .registerMail _ | .report ..
  | .requestChannel | .attestationNonce _ | .verifyAttestation .. | .ensure => True
  | _ => False

end Call

/-- The operation that a call performs. -/
def Client.perform (client : Client) : (call : Call) → Operation call.Result
  | .version => version
  | .hubNode => hubNode
  | .feePermyriad => feePermyriad
  | .paymentFee amountSat => paymentFee amountSat
  | .feeHint peer => feeHint? peer
  | .ping nonce => ping nonce
  | .receiveMax => receiveMax
  | .registerPayment amountSat memo => registerPayment amountSat memo
  | .payInvoice invoice feeLimitSat amountSat => payInvoice invoice feeLimitSat amountSat
  | .buildRoute query => buildRoute query
  | .rebalance died => client.rebalance died
  | .createSwapKeys => createSwapKeys
  | .registerSwap paymentHash refundKey => client.registerSwap paymentHash refundKey
  | .receiveSwap paymentHash invoice => receiveSwap paymentHash invoice
  | .refundSwaps inputs address label => client.refundSwaps inputs address label
  | .watchSwapAgain script => watchSwapAgain script
  | .registerMail address => registerMail address
  | .report category level message => report category level message
  | .requestChannel => requestChannel
  | .attestationNonce device => attestationNonce device
  | .verifyAttestation device token => verifyAttestation device token
  | .watchClose channelPoint => client.watchClose channelPoint
  | .unwatchClose channelPoint => client.unwatchClose channelPoint
  | .countClosed => client.countClosed
  | .snapshot => Session.snapshot
  | .resolveNodeId => Session.resolveNodeId
  | .ensure => Session.ensure
  | .refresh => Session.refresh
  | .invalidate => Session.invalidate

namespace Client

/-- The ping without the handshake. -/
def probe (nonce : Int32) : Operation Int32 := do
  match ← Operation.outcome (Action.provider (.ping ⟨nonce⟩)) with
  | .ok reply => return reply.nonce
  | .error cause =>
    Session.invalidate
    throw (.fault cause)

/-- How a ping ends by the provider's reply. -/
def pong (session : Session) : Except Fault Wire.PingReply → Except ClientError Int32 × Session
  | .ok reply => (.ok reply.nonce, session)
  | .error cause => (.error (.fault cause), { session with terms := none })

theorem program_probe (nonce : Int32) (session : Session) :
    (probe nonce).program session =
      .ask (.provider (.ping ⟨nonce⟩)) fun reply => .pure (pong session reply) := by
  refine congrArg (Program.ask _) (funext fun reply => ?_)
  cases reply <;> rfl

theorem steady_probe (nonce : Int32) : (probe nonce).Steady where
  asks session := by
    rw [program_probe]
    exact .ask trivial fun _ => .pure _
  evolves h := by
    rw [program_probe, runs_ask_some_iff] at h
    obtain ⟨reply, rest, rfl, hend⟩ := h
    obtain ⟨rfl, hresult⟩ := runs_pure_iff.1 hend
    cases reply <;> cases hresult
    · exact Session.Reacts.dropped.evolves
    · exact Session.Reacts.answered.evolves

/-- A call that needs terms goes on with them, and asks for none again. -/
theorem exists_perform_eq_ensure_bind (client : Client) {call : Call} (h : call.NeedsTerms) :
    ∃ rest : Terms → Operation call.Result, client.perform call = (Session.ensure >>= rest) ∧
      ∀ terms, (rest terms).Steady := by
  cases call with
  | ping nonce => exact ⟨_, rfl, fun _ => steady_probe nonce⟩
  | registerPayment amountSat memo =>
    exact ⟨_, rfl, fun _ => Session.steady_resolveNodeId.bind fun _ =>
      Operation.steady_ofAction (sparesTerms_registerPayment ..)⟩
  | payInvoice invoice feeLimitSat amountSat =>
    exact ⟨_, rfl, fun _ => Operation.steady_ofAction (sparesTerms_pay ..)⟩
  | buildRoute query =>
    exact ⟨_, rfl, fun _ => Operation.steady_ofAction (sparesTerms_findRoute ..)⟩
  | rebalance => exact ⟨_, rfl, fun _ => Operation.steady_ofAction (Rebalance.sparesTerms_run ..)⟩
  | registerSwap paymentHash refundKey =>
    exact ⟨_, rfl, fun _ => Session.steady_resolveNodeId.bind fun _ =>
      Operation.steady_ofAction (Swap.sparesTerms_register ..)⟩
  | receiveSwap paymentHash invoice =>
    exact ⟨_, rfl, fun _ => Operation.steady_ofAction (Swap.sparesTerms_receive ..)⟩
  | refundSwaps inputs address label =>
    exact ⟨_, rfl, fun _ => (Operation.steady_ofAction (Swap.sparesTerms_refund ..)).bind fun _ =>
      Operation.steady_pure _⟩
  | watchSwapAgain script =>
    exact ⟨_, rfl, fun _ => Operation.steady_ofAction (Swap.sparesTerms_watchAgain script)⟩
  | registerMail address =>
    refine ⟨_, rfl, fun terms => Operation.steady_ofAction ?_⟩
    refine Action.inOrder_bind (Action.inOrder_ofExcept _) fun providerKey => ?_
    exact sparesTerms_sealedCall_bind (fun _ => trivial) fun _ _ => Action.inOrder_pure _
  | report category level message =>
    exact ⟨_, rfl, fun _ => Operation.steady_ofAction (sparesTerms_sendReport ..)⟩
  | requestChannel =>
    refine ⟨_, rfl, fun _ => Session.steady_resolveNodeId.bind fun nodeId => ?_⟩
    refine Operation.Steady.bind ?_ fun _ => Operation.steady_pure _
    exact Operation.steady_ofAction (Action.inOrder_mapError (Action.inOrder_provider trivial))
  | attestationNonce device =>
    exact ⟨_, rfl, fun _ => Session.steady_resolveNodeId.bind fun _ =>
      Operation.steady_ofAction (sparesTerms_attestationNonce ..)⟩
  | verifyAttestation device token =>
    exact ⟨_, rfl, fun _ => Session.steady_resolveNodeId.bind fun _ =>
      Operation.steady_ofAction (sparesTerms_verifyAttestation ..)⟩
  | ensure => exact ⟨_, (bind_pure Session.ensure).symm, fun _ => Operation.steady_pure _⟩
  | _ => exact h.elim

theorem steady_requireWatcher (client : Client) : client.requireWatcher.Steady := by
  unfold requireWatcher
  split_ifs
  · exact Operation.steady_pure _
  · exact Operation.steady_throw _

/-- The other calls, refreshing and dropping the terms apart, ask for none. -/
theorem steady_perform (client : Client) {call : Call} (h : ¬call.NeedsTerms)
    (hrefresh : call ≠ .refresh) (hinvalidate : call ≠ .invalidate) :
    (client.perform call).Steady := by
  cases call with
  | version => exact Session.steady_snapshot.bind fun _ => Operation.steady_pure _
  | hubNode => exact Session.steady_snapshot.bind fun _ => Operation.steady_pure _
  | feePermyriad => exact Session.steady_snapshot.bind fun _ => Operation.steady_pure _
  | paymentFee amountSat => exact Session.steady_snapshot.bind fun _ => Operation.steady_pure _
  | feeHint peer => exact Operation.steady_of_program_eq_pure fun session => ⟨_, rfl⟩
  | receiveMax =>
    refine Operation.Steady.bind ?_ fun channels => Operation.steady_pure _
    exact Operation.steady_ofAction (Action.inOrder_mapError (Action.inOrder_node trivial))
  | createSwapKeys => exact Operation.steady_ofAction sparesTerms_freshSwapKeys
  | watchClose channelPoint =>
    refine client.steady_requireWatcher.bind fun _ => ?_
    split
    · exact Operation.steady_throw _
    · exact Operation.steady_ofAction (Action.inOrder_mapError (Action.inOrder_watcher trivial))
  | unwatchClose channelPoint =>
    refine client.steady_requireWatcher.bind fun _ => ?_
    exact Operation.steady_ofAction (Action.inOrder_mapError (Action.inOrder_watcher trivial))
  | countClosed =>
    refine client.steady_requireWatcher.bind fun _ => ?_
    exact Operation.steady_ofAction (Action.inOrder_mapError (Action.inOrder_watcher trivial))
  | snapshot => exact Session.steady_snapshot
  | resolveNodeId => exact Session.steady_resolveNodeId
  | refresh => exact absurd rfl hrefresh
  | invalidate => exact absurd rfl hinvalidate
  | _ => exact absurd trivial h

end Client

end LiquidityClient
