import LiquidityClient.Error

/-!
# Bitcoin networks
-/

namespace LiquidityClient

/-- The networks on which addresses differ. -/
inductive Network where
  | bitcoin
  | testnet
  | signet
  | regtest
  deriving DecidableEq, Repr

namespace Network

/-- The network that the node calls by this name. -/
def ofName (name : String) : Except SwapError Network :=
  if name = "mainnet" ∨ name = "bitcoin" then .ok .bitcoin
  else if name = "testnet" then .ok .testnet
  else if name = "signet" then .ok .signet
  else if name = "regtest" then .ok .regtest
  else .error (.unsupportedNetwork name)

/-- The name of a network. -/
def name : Network → String
  | .bitcoin => "bitcoin"
  | .testnet => "testnet"
  | .signet => "signet"
  | .regtest => "regtest"

/-- The human-readable part of segregated-witness addresses. -/
def segwitLabel : Network → String
  | .bitcoin => "bc"
  | .testnet => "tb"
  | .signet => "tb"
  | .regtest => "bcrt"

/-- Is it one of the networks that share the test versions of legacy addresses? -/
def isTest : Network → Bool
  | .bitcoin => false
  | _ => true

end Network

end LiquidityClient
