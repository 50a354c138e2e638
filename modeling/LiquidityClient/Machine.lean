import LiquidityClient.Client
import LiquidityClient.Grpc.Connection

/-!
# The machine that a client runs on

Files, two kinds of network services, a clock and randomness. `Connections.serve` answers what a
client asks of its collaborators on a machine : the provider and the node are called over the
network, and there is no watcher of the chain.
-/

namespace LiquidityClient

/-- What a program can ask of its machine. -/
inductive MachineRequest where
  | file (request : FileRequest)
  /-- Sends a request to a web service, with a credential. -/
  | exchange (address : String) (macaroon : Option String) (request : HttpRequest)
  /-- Calls a service, with an authorization. -/
  | call (address : String) (authorization : Option String) (call : GrpcCall)
  /-- The time in seconds since the epoch. -/
  | now
  /-- Lets some milliseconds pass. -/
  | pause (ms : Nat)
  /-- A new secret key. -/
  | freshKey
  /-- That many random bytes. -/
  | freshBytes (count : Nat)

/-- What a machine answers. A web service that is not reached is described by a text. -/
abbrev MachineRequest.Answer : MachineRequest → Type
  | .file request => request.Answer
  | .exchange _ _ _ => Except String HttpResponse
  | .call _ _ _ => Except GrpcStatus Bytes
  | .now => Int64
  | .pause _ => Unit
  | .freshKey => SecretKey
  | .freshBytes count => { bytes : Bytes // bytes.length = count }

/-- A machine as an interface. -/
def Machine : Interface where
  Request := MachineRequest
  Reply := MachineRequest.Answer

namespace Machine

/-- A program over files, on a machine. -/
def onFiles {α : Type} (program : Program Files α) : Program Machine α :=
  program.interpret fun request => Program.request (I := Machine) (.file request)

end Machine

/-- Why no request can be sent to an address that is none. -/
def unusableAddress : String := "builder error"

/-- Calls the node over the network. -/
def NodeConnection.call (connection : NodeConnection) (request : NodeRequest) :
    Program Machine (Except Fault request.Answer) := do
  let address := connection.address request.http
  if Url.isUsable address then
    let outcome ← Program.request (I := Machine)
      (.exchange address connection.macaroon request.http)
    return request.interpret outcome
  else return request.interpret (.error unusableAddress)

/-- Calls the provider over the network. -/
def ProviderConnection.call (connection : ProviderConnection) (request : ProviderRequest) :
    Program Machine (Except Fault request.Answer) := do
  let outcome ← Program.request (I := Machine)
    (.call connection.address connection.authorization request.call)
  return request.interpret outcome

/-- The ways to the provider and to the node. -/
structure Connections where
  provider : ProviderConnection
  node : NodeConnection
  deriving DecidableEq, Repr

namespace Connections

/-- The connections that a configuration describes. -/
def make (configuration : Configuration) : Program Files (Except Fault Connections) := do
  match ← ProviderConnection.make configuration.provider with
  | .error cause => return .error cause
  | .ok provider =>
    match ← NodeConnection.make configuration.node with
    | .error cause => return .error cause
    | .ok node => return .ok ⟨provider, node⟩

/-- The answer to what a client asks. -/
def serve (connections : Connections) : (request : Request) → Program Machine request.Reply
  | .provider request => connections.provider.call request
  | .node request => connections.node.call request
  | .watcher _ => return .error (.configuration "no close watcher attached")
  | .now => Program.request (I := Machine) .now
  | .pause ms => Program.request (I := Machine) (.pause ms)
  | .freshKey => Program.request (I := Machine) .freshKey
  | .freshBytes count => Program.request (I := Machine) (.freshBytes count)

/-- The outcome of an operation with a new session on a machine. -/
def perform {α : Type} (connections : Connections) (operation : Operation α) :
    Program Machine (Except ClientError α) := do
  let program : Program Collaborators (Except ClientError α × Session) := operation.run.run {}
  return (← program.interpret connections.serve).1

end Connections

end LiquidityClient
