import LiquidityClient.Envelope
import LiquidityClient.Program

/-!
# The collaborators of a client

A client talks to the provider, to the local node and to a watcher of the chain, and it needs a
clock, pauses and randomness. Each of them is a type of requests with the answers they have;
`Collaborators` joins them to the interface of the client's programs.
-/

namespace LiquidityClient

/-! ## The provider -/

/-- The calls of the provider's service. -/
inductive ProviderRequest where
  | channelInformation (request : Wire.ChannelInformationRequest)
  | ping (request : Wire.PingRequest)
  | registerPayment (request : Wire.RegisterPaymentRequest)
  /-- Sealed; the reply is sealed to the key in the request. -/
  | registerSubmarine (request : Wire.Encrypted)
  | receiveSubmarine (request : Wire.Encrypted)
  /-- Sealed; the reply is sealed to the key in the request. -/
  | queryRoutes (request : Wire.Encrypted)
  | registerUserInfo (request : Wire.Encrypted)
  | reportMessage (request : Wire.Encrypted)
  | openChannel (request : Wire.OpenChannelRequest)
  /-- Sealed; the reply is sealed to the key in the request. -/
  | integrityNonce (request : Wire.Encrypted)
  | integrityVerify (request : Wire.Encrypted)
  deriving DecidableEq

/-- What a call of the provider answers. -/
abbrev ProviderRequest.Answer : ProviderRequest → Type
  | .channelInformation _ => Wire.ChannelInformationReply
  | .ping _ => Wire.PingReply
  | .registerPayment _ => Wire.EmptyReply
  | .registerSubmarine _ => Wire.Encrypted
  | .receiveSubmarine _ => Wire.EmptyReply
  | .queryRoutes _ => Wire.Encrypted
  | .registerUserInfo _ => Wire.EmptyReply
  | .reportMessage _ => Wire.EmptyReply
  | .openChannel _ => Wire.EmptyReply
  | .integrityNonce _ => Wire.Encrypted
  | .integrityVerify _ => Wire.IntegrityVerifyReply

/-! ## The node -/

/-- The calls of the local node. -/
inductive NodeRequest where
  | getInfo
  /-- The active channels, in the node's order. -/
  | listChannels
  | listPayments
  | addInvoice (request : InvoiceRequest)
  /-- An invoice with a preimage of the node's choice. -/
  | addPlainInvoice (amountMsat : Int64) (memo : String)
  | decodePayRequest (invoice : String)
  /-- Watches a witness script from a block on; the answer is its address. -/
  | addWatchScript (script : Bytes) (blockHash : String) (blockHeight : UInt32)
  | publishTransaction (transaction : Bytes) (label : String)
  | queryRoutes (nodeKey : String) (amountMsat feeLimitMsat : Int64)
  | sendToRoute (paymentHash : Bytes) (route : Route)
  | closeChannel (txid : String) (index : UInt32) (satPerVbyte : UInt64)
  deriving DecidableEq

/-- What a call of the node answers. -/
abbrev NodeRequest.Answer : NodeRequest → Type
  | .getInfo => NodeInfo
  | .listChannels => List Channel
  | .listPayments => List Payment
  | .addInvoice _ => AddedInvoice
  | .addPlainInvoice _ _ => AddedInvoice
  | .decodePayRequest _ => PayRequest
  | .addWatchScript _ _ _ => String
  | .publishTransaction _ _ => Unit
  | .queryRoutes _ _ _ => List Route
  | .sendToRoute _ _ => SendResult
  | .closeChannel _ _ _ => Unit

/-! ## The watcher -/

/-- The calls of the watcher of the chain. -/
inductive WatcherRequest where
  | register (channelPoint : String)
  | unregister (channelPoint : String)
  /-- How many of the registered channels are closed on the chain. -/
  | checkClosed
  deriving DecidableEq

/-- What a call of the watcher answers. -/
abbrev WatcherRequest.Answer : WatcherRequest → Type
  | .register _ => Unit
  | .unregister _ => Unit
  | .checkClosed => Nat

/-! ## The interface of the client -/

/-- What a client can ask. -/
inductive Request where
  | provider (request : ProviderRequest)
  | node (request : NodeRequest)
  | watcher (request : WatcherRequest)
  /-- The time in seconds since the epoch. -/
  | now
  /-- Lets some milliseconds pass. -/
  | pause (ms : Nat)
  /-- A new secret key. -/
  | freshKey
  /-- That many random bytes. -/
  | freshBytes (count : Nat)
  deriving DecidableEq

/-- What a request answers. The provider, the node and the watcher can fail. -/
abbrev Request.Reply : Request → Type
  | .provider request => Except Fault request.Answer
  | .node request => Except Fault request.Answer
  | .watcher request => Except Fault request.Answer
  | .now => Int64
  | .pause _ => Unit
  | .freshKey => SecretKey
  | .freshBytes count => { bytes : Bytes // bytes.length = count }

/-- The collaborators as an interface. -/
abbrev Collaborators : Interface where
  Request := Request
  Reply := Request.Reply

/-- A program of the client that can fail. -/
abbrev Action (ε : Type) : Type → Type 1 :=
  ExceptT ε (Program Collaborators)

namespace Action

/-- Asks something that cannot fail. -/
def ask {ε : Type} (request : Request) : Action ε request.Reply :=
  ExceptT.lift (Program.request (I := Collaborators) request)

/-- Calls the provider. -/
def provider (request : ProviderRequest) : Action Fault request.Answer :=
  ExceptT.mk (Program.request (I := Collaborators) (.provider request))

/-- Calls the node. -/
def node (request : NodeRequest) : Action Fault request.Answer :=
  ExceptT.mk (Program.request (I := Collaborators) (.node request))

/-- Calls the watcher. -/
def watcher (request : WatcherRequest) : Action Fault request.Answer :=
  ExceptT.mk (Program.request (I := Collaborators) (.watcher request))

/-- A result that is already there. -/
def ofExcept {ε α : Type} (result : Except ε α) : Action ε α :=
  ExceptT.mk (pure result)

/-- An action whose error is seen as an error of another layer. -/
def mapError {ε δ α : Type} (f : ε → δ) (action : Action ε α) : Action δ α :=
  ExceptT.mk (do
    match ← action.run with
    | .ok a => return .ok a
    | .error e => return .error (f e))

/-- The outcome of an action, which cannot fail. -/
def outcome {ε δ α : Type} (action : Action ε α) : Action δ (Except ε α) :=
  ExceptT.lift action.run

end Action

/-! ## Errors of the layers -/

instance : MonadLift (Except Fault) (Action Fault) := ⟨Action.ofExcept⟩

instance : MonadLift (Except RouteError) (Action RouteError) := ⟨Action.ofExcept⟩

instance : MonadLift (Except SwapError) (Action SwapError) := ⟨Action.ofExcept⟩

instance : MonadLift (Except ClientError) (Action ClientError) := ⟨Action.ofExcept⟩

instance : MonadLift (Except Fault) (Action RouteError) :=
  ⟨fun result => Action.ofExcept (result.mapError .fault)⟩

instance : MonadLift (Except Fault) (Action SwapError) :=
  ⟨fun result => Action.ofExcept (result.mapError .fault)⟩

instance : MonadLift (Except Fault) (Action ClientError) :=
  ⟨fun result => Action.ofExcept (result.mapError .fault)⟩

instance : MonadLift (Except SealError) (Action RouteError) :=
  ⟨fun result => Action.ofExcept (result.mapError .sealing)⟩

instance : MonadLift (Except SealError) (Action SwapError) :=
  ⟨fun result => Action.ofExcept (result.mapError .sealing)⟩

instance : MonadLift (Except SealError) (Action ClientError) :=
  ⟨fun result => Action.ofExcept (result.mapError .sealing)⟩

instance : MonadLift (Action Fault) (Action RouteError) := ⟨Action.mapError .fault⟩

instance : MonadLift (Action Fault) (Action SwapError) := ⟨Action.mapError .fault⟩

instance : MonadLift (Action Fault) (Action ClientError) := ⟨Action.mapError .fault⟩

/-! ## Sealed calls -/

/-- What sealing a message needs, freshly drawn. -/
def freshSeed {ε : Type} : Action ε SealSeed := do
  let ephemeral ← Action.ask .freshKey
  let nonce ← Action.ask (.freshBytes Envelope.nonceLength)
  return ⟨ephemeral, nonce.val⟩

/-- A message sealed to a public key with a fresh seed. -/
def sealFresh {ε α : Type} [Wire.Message α] (recipient : PublicKey) (message : α) :
    Action ε Wire.Encrypted := do
  return sealMessage recipient (← freshSeed) message

end LiquidityClient
