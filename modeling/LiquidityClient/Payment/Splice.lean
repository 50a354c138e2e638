import LiquidityClient.Error
import LiquidityClient.Terms

/-!
# The hop to the provider

The provider's routes start at its own node. `spliceLocalHop` puts our hop to the provider in front,
over the first channel whose local balance covers the amount, and refuses routes whose fees are not
under the limit. The fee check comes first, then the search for a channel, then the totals.
-/

namespace LiquidityClient

/-- Millisatoshis in a satoshi. -/
def msatPerSat : Int64 := 1000

/-- The route behind a hop to the provider, and the channel the hop goes over. -/
def spliceLocalHop (terms : Terms) (route : Route) (channels : List Channel) (feeLimitSat : Int64) :
    Except RouteError (UInt64 × Route) :=
  let hubFeeMsat := terms.hopFeeMsat route.totalAmountMsat
  let amountSat := (route.totalAmountMsat + hubFeeMsat) / msatPerSat
  let feeSat := (route.totalFeesMsat + hubFeeMsat) / msatPerSat
  if feeLimitSat ≤ feeSat then .error (.feeLimitExceeded feeSat feeLimitSat)
  else
    match channels.find? fun c => c.channelId ≠ 0 ∧ amountSat ≤ c.localBalance with
    | none => .error (.noLocalChannel amountSat)
    | some channel =>
      match route.prependHop channel.channelId terms.nodeKey hubFeeMsat terms.timeLockDelta with
      | .ok spliced => .ok (channel.channelId, spliced)
      | .error cause => .error (.fault cause)

end LiquidityClient
