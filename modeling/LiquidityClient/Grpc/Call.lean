import LiquidityClient.Collaborators

/-!
# Calls of the provider's service

`ProviderRequest.call` is the call that a request of the provider makes, `ProviderRequest.interpret`
what its outcome means. A refusal shows the text of its status with the description of its code; a
reply that is not the expected message is a fault of the transport too.
-/

namespace LiquidityClient

/-- A call of the service : its path and the message. -/
structure GrpcCall where
  path : String
  message : Bytes
  deriving DecidableEq, Repr

/-- Why a call failed. -/
structure GrpcStatus where
  code : Nat
  text : String
  deriving DecidableEq, Repr

namespace GrpcStatus

/-- The descriptions of the codes from 1 on. -/
def descriptions : List String :=
  ["The operation was cancelled", "Unknown error", "Client specified an invalid argument",
    "Deadline expired before operation could complete", "Some requested entity was not found",
    "Some entity that we attempted to create already exists",
    "The caller does not have permission to execute the specified operation",
    "Some resource has been exhausted",
    "The system is not in a state required for the operation's execution",
    "The operation was aborted", "Operation was attempted past the valid range",
    "Operation is not implemented or not supported", "Internal error",
    "The service is currently unavailable", "Unrecoverable data loss or corruption",
    "The request does not have valid authentication credentials"]

/-- The description of a code; one that is not known is an unknown error. -/
def describe (code : Nat) : String :=
  if code = 0 then "The operation completed successfully"
  else (descriptions[code - 1]?).getD "Unknown error"

/-- The status of a service that is not reached. -/
def unavailable (text : String) : GrpcStatus :=
  ⟨14, text⟩

/-- The status of a reply that is not the expected message. -/
def undecodable : GrpcStatus :=
  ⟨13, "failed to decode the reply"⟩

/-- What the status of a call is reported as. -/
def fault (status : GrpcStatus) (path : String) : Fault :=
  .transport (path ++ ": " ++ status.text ++ " (" ++ describe status.code ++ ")")

end GrpcStatus

namespace ProviderRequest

/-- The name of the service. -/
def service : String := "lspdrpc.LightningService"

/-- The name of the method that a request calls. -/
def methodName : ProviderRequest → String
  | .channelInformation _ => "ChannelInformation"
  | .ping _ => "Ping"
  | .registerPayment _ => "RegisterPayment"
  | .registerSubmarine _ => "RegisterSubmarine"
  | .receiveSubmarine _ => "ReceiveSubmarine"
  | .queryRoutes _ => "QueryRoutes"
  | .registerUserInfo _ => "RegisterUserInfo"
  | .reportMessage _ => "ReportMessage"
  | .openChannel _ => "OpenChannel"
  | .integrityNonce _ => "IntegrityNonce"
  | .integrityVerify _ => "IntegrityVerify"

/-- The message of a request. -/
def message : ProviderRequest → Bytes
  | .channelInformation request => Wire.encode request
  | .ping request => Wire.encode request
  | .registerPayment request => Wire.encode request
  | .registerSubmarine request => Wire.encode request
  | .receiveSubmarine request => Wire.encode request
  | .queryRoutes request => Wire.encode request
  | .registerUserInfo request => Wire.encode request
  | .reportMessage request => Wire.encode request
  | .openChannel request => Wire.encode request
  | .integrityNonce request => Wire.encode request
  | .integrityVerify request => Wire.encode request

/-- The reply of a request, if the bytes are one. -/
def readAnswer? : (request : ProviderRequest) → Bytes → Option request.Answer
  | .channelInformation _, bytes => Wire.decode? Wire.ChannelInformationReply bytes
  | .ping _, bytes => Wire.decode? Wire.PingReply bytes
  | .registerPayment _, bytes => Wire.decode? Wire.EmptyReply bytes
  | .registerSubmarine _, bytes => Wire.decode? Wire.Encrypted bytes
  | .receiveSubmarine _, bytes => Wire.decode? Wire.EmptyReply bytes
  | .queryRoutes _, bytes => Wire.decode? Wire.Encrypted bytes
  | .registerUserInfo _, bytes => Wire.decode? Wire.EmptyReply bytes
  | .reportMessage _, bytes => Wire.decode? Wire.EmptyReply bytes
  | .openChannel _, bytes => Wire.decode? Wire.EmptyReply bytes
  | .integrityNonce _, bytes => Wire.decode? Wire.Encrypted bytes
  | .integrityVerify _, bytes => Wire.decode? Wire.IntegrityVerifyReply bytes

/-- The path of a request. -/
def path (request : ProviderRequest) : String :=
  "/" ++ service ++ "/" ++ request.methodName

/-- The call that a request makes. -/
def call (request : ProviderRequest) : GrpcCall where
  path := request.path
  message := request.message

/-- What the outcome of a call means. -/
def interpret (request : ProviderRequest) : Except GrpcStatus Bytes → Except Fault request.Answer
  | .error status => .error (status.fault request.path)
  | .ok bytes =>
    match request.readAnswer? bytes with
    | some answer => .ok answer
    | none => .error (GrpcStatus.undecodable.fault request.path)

end ProviderRequest

end LiquidityClient
