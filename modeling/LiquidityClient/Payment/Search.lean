import LiquidityClient.Collaborators
import LiquidityClient.Payment.Splice

/-!
# Finding a route

`findRoute` asks the provider for a route from its node to the payee, marks the last hop with the
invoice's payment address, and splices in our hop to the provider.
-/

namespace LiquidityClient

/-- What to pay, and which edges to avoid. -/
structure RouteQuery where
  invoice : String
  /-- The invoice's payment address; empty if it has none. -/
  paymentAddress : Bytes
  /-- The invoice's amount, for the multi-path record. -/
  totalAmountMsat : Int64
  feeLimitSat : Int64
  amountSat : Int64
  ignored : List Edge
  deriving DecidableEq, Repr

namespace RouteQuery

/-- The first route of a response, which must have hops. -/
def firstRoute (response : Wire.QueryRoutesResponse) : Except RouteError Route :=
  match response.routes with
  | [] => .error (.noRoute "LSP returned no route")
  | route :: _ => if route.isEmpty then .error (.noRoute "LSP route has no hops") else .ok route

/-- The route with the multi-path record on its last hop, if the invoice has a payment address. -/
def mark (query : RouteQuery) (route : Route) : Route :=
  if query.paymentAddress.isEmpty then route
  else (route.attachMultiPath? ⟨query.paymentAddress, query.totalAmountMsat⟩).getD route

end RouteQuery

/-- Asks the provider for a route from its node to the payee. -/
def requestRoute (terms : Terms) (query : RouteQuery) : Action RouteError Route := do
  let providerKey ← parsePublicKey terms.providerKey
  let replyKey ← Action.ask .freshKey
  let envelope ← sealFresh (α := Wire.QueryRoutesRequest) providerKey
    { encryptPubkey := replyKey.publicKey.compressed
      invoice := query.invoice
      ignoredPairs := query.ignored
      amount := query.amountSat }
  let reply ← Action.provider (.queryRoutes envelope)
  let response ← openMessage Wire.QueryRoutesResponse replyKey reply
  RouteQuery.firstRoute response

/-- A route from our node to the payee. -/
def findRoute (terms : Terms) (query : RouteQuery) : Action RouteError Route := do
  let route ← requestRoute terms query
  let channels ← Action.node .listChannels
  let (_, spliced) ← spliceLocalHop terms (query.mark route) channels query.feeLimitSat
  return spliced

end LiquidityClient
