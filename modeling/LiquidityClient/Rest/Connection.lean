import LiquidityClient.Configuration.Storage
import LiquidityClient.Rest.Call
import LiquidityClient.Rest.Url
import LiquidityClient.Text.Pem

/-!
# The connection to the node

Where the node's web service is reached, and with which credential. Making a connection reads the
files that the settings name, the credential first, and sends nothing.
-/

namespace LiquidityClient

/-- A way to the node's web service. -/
structure NodeConnection where
  /-- The address, without slashes at its end. -/
  base : String
  /-- The credential in hexadecimal, sent with each request. -/
  macaroon : Option String
  deriving DecidableEq, Repr

namespace NodeConnection

/-- The address without slashes at its end. -/
def baseOf (address : String) : String :=
  String.ofList (address.toList.reverse.dropWhile (· = '/')).reverse

/-- Does the file, if there is one, hold a certificate? -/
def certificateFits : Option Bytes → Bool
  | none => true
  | some contents =>
    match Pem.certificates? contents with
    | some (_ :: _) => true
    | _ => false

/-- The connection that settings describe. -/
def make (settings : NodeSettings) : Program Files (Except Fault NodeConnection) := do
  match ← readNamed settings.macaroonPath with
  | .error cause => return .error cause
  | .ok macaroon =>
    match ← readNamed settings.certificatePath with
    | .error cause => return .error cause
    | .ok certificate =>
      if certificateFits certificate then
        return .ok ⟨baseOf settings.restAddress, macaroon.map Hex.encode⟩
      else return .error (.configuration "LND certificate: not a certificate")

/-- The whole address of a request. -/
def address (connection : NodeConnection) (request : HttpRequest) : String :=
  connection.base ++ request.path

end NodeConnection

end LiquidityClient
