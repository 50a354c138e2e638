import LiquidityClient.Grpc.Call
import LiquidityClient.Grpc.Uri
import LiquidityClient.Rest.Connection

/-!
# The connection to the provider

Where the provider's service is reached, and with which token. Making a connection checks the
address, reads the certificate that the settings name, looks at the token, in this order, and sends
nothing.
-/

namespace LiquidityClient

/-- A way to the provider's service. -/
structure ProviderConnection where
  address : String
  /-- What is sent as authorization with each call. -/
  authorization : Option String
  deriving DecidableEq, Repr

namespace ProviderConnection

/-- May the character stand in a token? -/
def isTokenChar (c : Char) : Bool :=
  c = '\t' || (32 ≤ c.toNat && c.toNat ≠ 127)

/-- The authorization by a token; an empty token is none. -/
def authorizationOf (token : String) : Except Fault (Option String) :=
  if token.isEmpty then .ok none
  else if token.toList.all isTokenChar then .ok (some ("Bearer " ++ token))
  else .error (.configuration "LSP token is not valid ASCII")

/-- Can the certificates in the file, if there is one, be used? Without encryption it does not
matter. -/
def certificateFits (address : String) : Option Bytes → Bool
  | none => true
  | some contents => !Uri.isEncrypted address || (Pem.certificates? contents).isSome

/-- The connection that settings describe. -/
def make (settings : ProviderSettings) : Program Files (Except Fault ProviderConnection) := do
  if !Uri.isAddress settings.address then
    return .error (.configuration ("LSP address " ++ settings.address ++ ": invalid URI"))
  else
    match ← readNamed settings.certificatePath with
    | .error cause => return .error cause
    | .ok certificate =>
      if !certificateFits settings.address certificate then
        return .error (.configuration "LSP TLS: not a certificate")
      else
        return (authorizationOf settings.token).map fun authorization =>
          ⟨settings.address, authorization⟩

end ProviderConnection

end LiquidityClient
