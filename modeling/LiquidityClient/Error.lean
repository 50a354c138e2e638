import LiquidityClient.Text.Decimal

/-!
# Errors

A `Fault` is what any layer can report : a call that failed, a reply that makes no sense, bad input.
Sealing, routing and swaps add causes of their own, and `ClientError` joins them all. `message`
gives the text of an error, `kind` the class by which a caller decides what to do next, and exactly
the errors of kind `notInitialized` are recoverable by a new handshake.
-/

namespace LiquidityClient

/-- The causes shared by all layers. -/
inductive Fault where
  /-- The provider, or the node's service, could not be reached or refused a call. -/
  | transport (detail : String)
  /-- The local node refused or failed a call. -/
  | node (detail : String)
  /-- No channel terms are cached. -/
  | notInitialized
  /-- A reply breaks the protocol. -/
  | protocol (detail : String)
  /-- A reply is no message of the expected type. -/
  | malformed
  | configuration (detail : String)
  | invalidInput (detail : String)
  deriving Repr, DecidableEq

/-- The causes that keys and sealed messages add. -/
inductive SealError where
  | invalidKeyLength (expected actual : Nat)
  | invalidPublicKey (detail : String)
  | invalidSecretKey (detail : String)
  | encryption (detail : String)
  | decryption (detail : String)
  /-- The decrypted bytes are no message of the expected type. -/
  | malformed
  deriving Repr, DecidableEq

/-- The causes that finding and paying over a route adds. -/
inductive RouteError where
  | noRoute (detail : String)
  | feeLimitExceeded (feeSat limitSat : Int64)
  | noLocalChannel (amountSat : Int64)
  | invoiceExpired (expiredAt : Int64)
  | fault (cause : Fault)
  | sealing (cause : SealError)
  deriving Repr, DecidableEq

/-- The causes that submarine swaps add. -/
inductive SwapError where
  | invalidCsvHeight (height : UInt32)
  | pushTooLarge (length : Nat)
  /-- The address does not belong to the script that was rebuilt here. Never fund it. -/
  | scriptMismatch (expected actual : String)
  | invalidAddress (detail : String)
  | unsupportedNetwork (name : String)
  | invalidInput (detail : String)
  | insufficientFunds (totalSat feeSat : Nat)
  | signing (detail : String)
  | fault (cause : Fault)
  | sealing (cause : SealError)
  deriving Repr, DecidableEq

/-- What an operation of the client can fail with. -/
inductive ClientError where
  | fault (cause : Fault)
  | sealing (cause : SealError)
  | route (cause : RouteError)
  | swap (cause : SwapError)
  | alreadyReceivable (available requested : Int64)
  | paymentAddressMismatch
  /-- A background task died. -/
  | task (detail : String)
  deriving Repr, DecidableEq

/-- The classes of errors. -/
inductive ErrorKind where
  | transport
  | crypto
  | protocol
  | notInitialized
  | routing
  | scriptMismatch
  | configuration
  | node
  | invalidInput
  | internal
  deriving Repr, DecidableEq

namespace Fault

/-- The text of a fault. -/
def message : Fault → String
  | .transport detail => "transport error: " ++ detail
  | .node detail => "node error: " ++ detail
  | .notInitialized => "channel information not initialized"
  | .protocol detail => "protocol error: " ++ detail
  | .malformed => "malformed payload"
  | .configuration detail => "configuration error: " ++ detail
  | .invalidInput detail => "invalid input: " ++ detail

/-- The class of a fault. -/
def kind : Fault → ErrorKind
  | .transport _ => .transport
  | .node _ => .node
  | .notInitialized => .notInitialized
  | .protocol _ => .protocol
  | .malformed => .protocol
  | .configuration _ => .configuration
  | .invalidInput _ => .invalidInput

end Fault

namespace SealError

/-- The text of the error. -/
def message : SealError → String
  | .invalidKeyLength expected actual =>
    "invalid key length: expected " ++ Decimal.ofNat expected ++ ", got " ++ Decimal.ofNat actual
  | .invalidPublicKey detail => "invalid public key: " ++ detail
  | .invalidSecretKey detail => "invalid secret key: " ++ detail
  | .encryption detail => "encryption failed: " ++ detail
  | .decryption detail => "decryption failed: " ++ detail
  | .malformed => "malformed payload"

/-- The class of the error. -/
def kind : SealError → ErrorKind
  | .malformed => .protocol
  | _ => .crypto

end SealError

namespace RouteError

/-- The text of the error. -/
def message : RouteError → String
  | .noRoute detail => "no route: " ++ detail
  | .feeLimitExceeded feeSat limitSat =>
    "fee " ++ Decimal.ofInt feeSat.toInt ++ " sat is not under the limit of "
      ++ Decimal.ofInt limitSat.toInt ++ " sat"
  | .noLocalChannel amountSat =>
    "no local channel has " ++ Decimal.ofInt amountSat.toInt ++ " sat of local balance"
  | .invoiceExpired expiredAt => "invoice expired at unix time " ++ Decimal.ofInt expiredAt.toInt
  | .fault cause => cause.message
  | .sealing cause => cause.message

/-- The class of the error. -/
def kind : RouteError → ErrorKind
  | .fault cause => cause.kind
  | .sealing cause => cause.kind
  | .invoiceExpired _ => .invalidInput
  | _ => .routing

end RouteError

namespace SwapError

/-- The text of the error. -/
def message : SwapError → String
  | .invalidCsvHeight height => "CSV height " ++ Decimal.ofNat height.toNat ++ " outside 2..=32767"
  | .pushTooLarge length => "cannot push " ++ Decimal.ofNat length ++ " bytes directly"
  | .scriptMismatch expected actual =>
    "script address mismatch: expected " ++ expected ++ ", got " ++ actual
  | .invalidAddress detail => "invalid address: " ++ detail
  | .unsupportedNetwork name => "unsupported network: " ++ name
  | .invalidInput detail => "invalid input: " ++ detail
  | .insufficientFunds totalSat feeSat =>
    "refund inputs of " ++ Decimal.ofNat totalSat ++ " sat leave only dust after a fee of "
      ++ Decimal.ofNat feeSat ++ " sat"
  | .signing detail => "signing failed: " ++ detail
  | .fault cause => cause.message
  | .sealing cause => cause.message

/-- The class of the error. -/
def kind : SwapError → ErrorKind
  | .scriptMismatch _ _ => .scriptMismatch
  | .invalidCsvHeight _ => .configuration
  | .unsupportedNetwork _ => .configuration
  | .signing _ => .crypto
  | .fault cause => cause.kind
  | .sealing cause => cause.kind
  | _ => .invalidInput

end SwapError

namespace ClientError

/-- The text of the error. -/
def message : ClientError → String
  | .fault cause => cause.message
  | .sealing cause => cause.message
  | .route cause => cause.message
  | .swap cause => cause.message
  | .alreadyReceivable available requested =>
    "a channel can already receive " ++ Decimal.ofInt available.toInt ++ " sat (requested "
      ++ Decimal.ofInt requested.toInt ++ " sat)"
  | .paymentAddressMismatch => "payment address differs between invoices"
  | .task detail => "task failed: " ++ detail

/-- The class of the error. -/
def kind : ClientError → ErrorKind
  | .fault cause => cause.kind
  | .sealing cause => cause.kind
  | .route cause => cause.kind
  | .swap cause => cause.kind
  | .alreadyReceivable _ _ => .invalidInput
  | .paymentAddressMismatch => .node
  | .task _ => .internal

/-- Can a new handshake and a second try help? -/
def isRecoverable (e : ClientError) : Bool :=
  e.kind = .notInitialized

end ClientError

namespace ErrorKind

/-- The name of the class. -/
def name : ErrorKind → String
  | .transport => "Transport"
  | .crypto => "Crypto"
  | .protocol => "Protocol"
  | .notInitialized => "NotInitialized"
  | .routing => "Routing"
  | .scriptMismatch => "ScriptMismatch"
  | .configuration => "Configuration"
  | .node => "Node"
  | .invalidInput => "InvalidInput"
  | .internal => "Internal"

end ErrorKind

end LiquidityClient
