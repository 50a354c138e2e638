import LiquidityClient.Session
import LiquidityClient.Simulation.Node
import LiquidityClient.Simulation.Provider

/-!
# A scripted world

A provider, a node and a watcher with scripts, a clock that only pauses move, and reproducible
randomness. `World.answer` lets a program of the client run in it, and the log tells what the
collaborators saw, and when.
-/

namespace LiquidityClient.Simulation

/-- The script of a watcher, and the channels it watches. -/
structure WatcherScript where
  /-- The channels that are closed on the chain. -/
  spent : List String := []
  plan : Plan Unit := []
  watched : List String := []

/-- A call that a collaborator saw. -/
inductive Call where
  | provider (call : ProviderCall)
  | node (request : NodeRequest)
  /-- An invoice was asked for; tells whether the last one had the same preimage. -/
  | invoice (request : InvoiceRequest) (samePreimage : Bool)
  | watcher (request : WatcherRequest)

/-- The 32 random bytes with this number. -/
def entropy (number : Nat) : Bytes :=
  Sha256.hash (Bytes.ofNatBE 8 (number + 1))

/-- That many random bytes, made of those with this number. -/
def entropyOf (count number : Nat) : { bytes : Bytes // bytes.length = count } :=
  ⟨Bytes.ofNatBE count (Bytes.toNatBE (entropy number)), Bytes.length_ofNatBE _ _⟩

/-- The secret key with the scalar 1. -/
def unitKey : SecretKey := ⟨1, by decide, by decide⟩

/-- The secret key with this number. -/
def freshKey (number : Nat) : SecretKey :=
  (SecretKey.ofBytes? (entropy number)).getD unitKey

/-- The seed with this number, which uses up two numbers. -/
def sealSeed (number : Nat) : SealSeed :=
  ⟨freshKey number, (entropy (number + 1)).take Envelope.nonceLength⟩

/-- A scripted world. -/
structure World where
  provider : ProviderScript
  node : NodeScript
  watcher : WatcherScript := {}
  /-- The time in seconds since the epoch. -/
  now : Int64
  /-- The milliseconds that have passed. -/
  elapsedMs : Nat := 0
  /-- How much randomness is used up. -/
  drawn : Nat := 0
  /-- What the collaborators saw, with the time, last call first. -/
  log : List (Nat × Call) := []

namespace World

/-- The secret key whose 32 bytes are all the same. -/
def uniformKey (byte : UInt8) : SecretKey :=
  (SecretKey.ofBytes? (Bytes.repeated 32 byte)).getD unitKey

/-- Terms that say nothing but the provider's key. -/
def bareTerms (secret : SecretKey) : Wire.ChannelInformationReply :=
  { (Wire.Message.ofRecord (Wire.Message.schema Wire.ChannelInformationReply).default :
      Wire.ChannelInformationReply) with lspPubkey := secret.publicKey.compressed }

/-- A provider and a node without any channels, payments or plans. -/
def initial : World where
  provider :=
    { secret := uniformKey 0x11, htlcSecret := uniformKey 0x22,
      terms := bareTerms (uniformKey 0x11) }
  node :=
    { info :=
        { identityKey := Hex.encode (Bytes.repeated 33 3)
          blockHeight := 800000
          blockHash := Hex.encode (Bytes.repeated 32 0)
          network := "regtest" } }
  now := 1760000000

/-- The world after a call has been seen. -/
def record (world : World) (call : Call) : World :=
  { world with log := (world.elapsedMs, call) :: world.log }

/-- The provider's answer. -/
def answerProvider (request : ProviderRequest) (world : World) :
    Option (Except Fault request.Answer) × World :=
  match world.provider.handle (sealSeed world.drawn) request with
  | .error cause => (some (.error cause), world)
  | .ok (call, reply) =>
    let plan := world.provider.plan
    let world := { world.record (.provider call) with
      provider := { world.provider with plan := plan.advance call.method }
      drawn := world.drawn + 2 }
    (plan.next call.method).answer {} (fun change world => (reply change, world)) world

/-- The node's answer. -/
def answerNode (request : NodeRequest) (world : World) :
    Option (Except Fault request.Answer) × World :=
  let call :=
    match request with
    | .addInvoice r => Call.invoice r (r.preimage = world.node.lastPreimage)
    | r => Call.node r
  let method := NodeScript.methodName request
  let plan := world.node.plan
  let node := { world.node.arrive request with plan := plan.advance method }
  (plan.next method).answer {}
    (fun change world =>
      let (reply, node) := NodeScript.handle change request world.node
      (reply, { world with node, elapsedMs := world.elapsedMs + change.delayMs }))
    { world.record call with node }

/-- The watcher's answer. -/
def answerWatcher (request : WatcherRequest) (world : World) :
    Option (Except Fault request.Answer) × World :=
  let method :=
    match request with
    | .register _ => "register"
    | .unregister _ => "unregister"
    | .checkClosed => "check_closed"
  let plan := world.watcher.plan
  (plan.next method).answer () (fun _ world =>
    let watched := world.watcher.watched
    match request with
    | .register point =>
      (.ok (), { world with watcher := { world.watcher with watched := point :: watched } })
    | .unregister point =>
      (.ok (), { world with watcher :=
        { world.watcher with watched := watched.filter (· ≠ point) } })
    | .checkClosed => (.ok (world.watcher.spent.countP fun point => watched.contains point), world))
    { world.record (.watcher request) with
      watcher := { world.watcher with plan := plan.advance method } }

/-- The answer of the world to a request. -/
def answer : (request : Request) → World → Option request.Reply × World
  | .provider request, world => world.answerProvider request
  | .node request, world => world.answerNode request
  | .watcher request, world => world.answerWatcher request
  | .now, world => (some world.now, world)
  | .pause ms, world => (some (), { world with elapsedMs := world.elapsedMs + ms })
  | .freshKey, world => (some (freshKey world.drawn), { world with drawn := world.drawn + 1 })
  | .freshBytes count, world =>
    (some (entropyOf count world.drawn), { world with drawn := world.drawn + 1 })

/-- The outcome of an operation in the world; there is none if it crashes. -/
def perform {α : Type} (operation : Operation α) (session : Session) (world : World) :
    Option (Except ClientError α × Session) × World :=
  Program.run (I := Collaborators) answer (StateT.run (ExceptT.run operation) session) world

end World

end LiquidityClient.Simulation
