import LiquidityClient.Collaborators

/-!
# The session with the provider

A session keeps the local node's id, asked for once, and the provider's terms, which a handshake
fetches and a failed ping drops. An `Operation` is a program of the client that reads and changes
the session.
-/

namespace LiquidityClient

/-- What a client remembers. -/
structure Session where
  nodeId : Option Bytes := none
  terms : Option Terms := none
  deriving DecidableEq, Repr

/-- A program with a session, which keeps its changes to the session also when it fails. -/
abbrev Operation : Type → Type 1 :=
  ExceptT ClientError (StateT Session (Program Collaborators))

namespace Operation

/-- An action as an operation that leaves the session alone; its errors become errors of the
client. -/
def ofAction {ε α : Type} (f : ε → ClientError) (action : Action ε α) : Operation α :=
  ExceptT.mk (do
    match ← StateT.lift action.run with
    | .ok a => return .ok a
    | .error e => return .error (f e))

/-- The outcome of an action, which cannot fail. -/
def outcome {ε α : Type} (action : Action ε α) : Operation (Except ε α) :=
  ExceptT.lift (StateT.lift action.run)

instance : MonadLift (Action ClientError) Operation := ⟨ofAction id⟩

end Operation

namespace Session

/-- Are there terms? -/
def isInitialized (session : Session) : Bool :=
  session.terms.isSome

/-- The id in what the node tells of itself. -/
def idOf (info : NodeInfo) : Except Fault Bytes :=
  match Hex.decode info.identityKey with
  | .ok id => .ok id
  | .error e => .error (.node ("identity pubkey is not hex: " ++ e.message))

/-- The local node's id, asked from the node if it is not known yet. -/
def resolveNodeId : Operation Bytes := do
  match (← get).nodeId with
  | some id => return id
  | none =>
    let info ← Action.node .getInfo
    match idOf info with
    | .error cause => throw (.fault cause)
    | .ok id =>
      modify fun session => { session with nodeId := some id }
      return id

/-- Fetches the terms and keeps them. -/
def refresh : Operation Terms := do
  let id ← resolveNodeId
  let reply ← Action.provider (.channelInformation ⟨Hex.encode id⟩)
  match Terms.ofReply reply with
  | .error cause => throw (.fault cause)
  | .ok terms =>
    modify fun session => { session with terms := some terms }
    return terms

/-- The terms, fetched if there are none. -/
def ensure : Operation Terms := do
  match (← get).terms with
  | some terms => return terms
  | none => refresh

/-- The terms that are there. -/
def snapshot : Operation Terms := do
  match (← get).terms with
  | some terms => return terms
  | none => throw (.fault .notInitialized)

/-- Drops the terms. -/
def invalidate : Operation Unit :=
  modify fun session => { session with terms := none }

end Session

end LiquidityClient
