import LiquidityClient.Terms

/-!
# The messages of the provider's service

Requests and replies with the field numbers of the service's published schema. `messageTypes` lists
every schema by its name. Levels of reports and results of attestations travel as numbers; an
unknown number stands for the first of them.
-/

namespace LiquidityClient.Wire

/-- A sealed message. -/
structure Encrypted where
  data : Bytes
  deriving DecidableEq, Repr

instance : Message Encrypted where
  schema := .cons "data" 1 .bytes .nil
  toRecord r := (r.data, ())
  ofRecord := fun (data, _) => ⟨data⟩
  ofRecord_toRecord _ := rfl

/-- Asks for the channel terms, with the asking node's id in hexadecimal. -/
structure ChannelInformationRequest where
  pubkey : String
  deriving DecidableEq, Repr

instance : Message ChannelInformationRequest where
  schema := .cons "pubkey" 1 .string .nil
  toRecord r := (r.pubkey, ())
  ofRecord := fun (pubkey, _) => ⟨pubkey⟩
  ofRecord_toRecord _ := rfl

/-- Asks whether the provider answers. -/
structure PingRequest where
  nonce : Int32
  deriving DecidableEq, Repr

instance : Message PingRequest where
  schema := .cons "nonce" 1 .int32 .nil
  toRecord r := (r.nonce, ())
  ofRecord := fun (nonce, _) => ⟨nonce⟩
  ofRecord_toRecord _ := rfl

/-- The provider's sign of life. -/
structure PingReply where
  nonce : Int32
  deriving DecidableEq, Repr

instance : Message PingReply where
  schema := .cons "nonce" 1 .int32 .nil
  toRecord r := (r.nonce, ())
  ofRecord := fun (nonce, _) => ⟨nonce⟩
  ofRecord_toRecord _ := rfl

/-- A payment that is to arrive over a channel opened on the fly. -/
structure PaymentInformation where
  paymentHash : Bytes
  paymentSecret : Bytes
  destination : Bytes
  incomingAmountMsat : Int64
  outgoingAmountMsat : Int64
  deriving DecidableEq, Repr

instance : Message PaymentInformation where
  schema :=
    .cons "payment_hash" 1 .bytes (.cons "payment_secret" 2 .bytes (.cons "destination" 3 .bytes
      (.cons "incoming_amount_msat" 4 .int64 (.cons "outgoing_amount_msat" 5 .int64 .nil))))
  toRecord r :=
    (r.paymentHash, r.paymentSecret, r.destination, r.incomingAmountMsat, r.outgoingAmountMsat, ())
  ofRecord := fun (hash, secret, destination, incoming, outgoing, _) =>
    ⟨hash, secret, destination, incoming, outgoing⟩
  ofRecord_toRecord _ := rfl

/-- Registers a payment; the blob is a sealed `PaymentInformation`. -/
structure RegisterPaymentRequest where
  lspId : String
  blob : Bytes
  deriving DecidableEq, Repr

instance : Message RegisterPaymentRequest where
  schema := .cons "lsp_id" 1 .string (.cons "blob" 3 .bytes .nil)
  toRecord r := (r.lspId, r.blob, ())
  ofRecord := fun (lspId, blob, _) => ⟨lspId, blob⟩
  ofRecord_toRecord _ := rfl

/-- A reply without content. -/
structure EmptyReply where
  deriving DecidableEq, Repr

instance : Message EmptyReply where
  schema := .nil
  toRecord _ := ()
  ofRecord _ := {}
  ofRecord_toRecord _ := rfl

/-- Registers a submarine swap. -/
structure RegisterSubmarineRequest where
  encryptPubkey : Bytes
  paymentHash : Bytes
  repayPubkey : Bytes
  destination : Bytes
  swapScriptVersion : Int32
  deriving DecidableEq, Repr

instance : Message RegisterSubmarineRequest where
  schema :=
    .cons "encrypt_pubkey" 1 .bytes (.cons "payment_hash" 2 .bytes (.cons "repay_pubkey" 3 .bytes
      (.cons "destination" 4 .bytes (.cons "swap_script_version" 5 .int32 .nil))))
  toRecord r :=
    (r.encryptPubkey, r.paymentHash, r.repayPubkey, r.destination, r.swapScriptVersion, ())
  ofRecord := fun (key, hash, repay, destination, version, _) =>
    ⟨key, hash, repay, destination, version⟩
  ofRecord_toRecord _ := rfl

/-- The provider's part of a swap. -/
structure RegisterSubmarineReply where
  htlcPubkey : Bytes
  scriptAddress : String
  deriving DecidableEq, Repr

instance : Message RegisterSubmarineReply where
  schema := .cons "htlc_pubkey" 1 .bytes (.cons "script_address" 2 .string .nil)
  toRecord r := (r.htlcPubkey, r.scriptAddress, ())
  ofRecord := fun (key, address, _) => ⟨key, address⟩
  ofRecord_toRecord _ := rfl

/-- Asks the provider to pay an invoice against a funded swap. -/
structure ReceiveSubmarineRequest where
  paymentHash : Bytes
  invoice : String
  deriving DecidableEq, Repr

instance : Message ReceiveSubmarineRequest where
  schema := .cons "payment_hash" 1 .bytes (.cons "invoice" 2 .string .nil)
  toRecord r := (r.paymentHash, r.invoice, ())
  ofRecord := fun (hash, invoice, _) => ⟨hash, invoice⟩
  ofRecord_toRecord _ := rfl

/-- Asks for routes to the payee of an invoice that avoid some edges. -/
structure QueryRoutesRequest where
  encryptPubkey : Bytes
  invoice : String
  ignoredPairs : List Edge
  amount : Int64
  deriving DecidableEq, Repr

instance : Message QueryRoutesRequest where
  schema :=
    .cons "encrypt_pubkey" 1 .bytes (.cons "invoice" 2 .string
      (.cons "ignored_pairs" 3 (.repeated (Message.schema Edge)) (.cons "amount" 4 .int64 .nil)))
  toRecord r := (r.encryptPubkey, r.invoice, r.ignoredPairs.map Message.toRecord, r.amount, ())
  ofRecord :=
    fun (key, invoice, pairs, amount, _) => ⟨key, invoice, pairs.map Message.ofRecord, amount⟩
  ofRecord_toRecord r := by
    rcases r with ⟨_, _, pairs, _⟩
    have : (pairs.map Message.toRecord).map (Message.ofRecord (α := Edge)) = pairs := by
      simp [Function.comp_def, Message.ofRecord_toRecord]
    simp only [this]

/-- Routes from the provider's node to a payee. -/
structure QueryRoutesResponse where
  routes : List Route
  successProb : Binary64
  deriving DecidableEq, Repr

instance : Message QueryRoutesResponse where
  schema := .cons "routes" 1 (.repeated (Message.schema Route))
    (.cons "success_prob" 2 .double .nil)
  toRecord r := (r.routes.map Message.toRecord, r.successProb, ())
  ofRecord := fun (routes, probability, _) => ⟨routes.map Message.ofRecord, probability⟩
  ofRecord_toRecord r := by
    rcases r with ⟨routes, _⟩
    have : (routes.map Message.toRecord).map (Message.ofRecord (α := Route)) = routes := by
      simp [Function.comp_def, Message.ofRecord_toRecord]
    simp only [this]

/-- Registers a mail address. -/
structure RegisterUserInfoRequest where
  mailAddress : String
  deriving DecidableEq, Repr

instance : Message RegisterUserInfoRequest where
  schema := .cons "mail_address" 1 .string .nil
  toRecord r := (r.mailAddress, ())
  ofRecord := fun (address, _) => ⟨address⟩
  ofRecord_toRecord _ := rfl

/-- The weight of a report. -/
inductive ReportLevel where
  | normal
  | notify
  | critical
  deriving DecidableEq, Repr

namespace ReportLevel

/-- The number of a level. -/
def number : ReportLevel → Int32
  | .normal => 0
  | .notify => 1
  | .critical => 2

/-- The level with this number. -/
def ofNumber (n : Int32) : ReportLevel :=
  if n = 1 then .notify else if n = 2 then .critical else .normal

/-- The level as a word. -/
def word : ReportLevel → String
  | .normal => "Normal"
  | .notify => "Notify"
  | .critical => "Critical"

end ReportLevel

/-- A diagnostic report. -/
structure ReportRequest where
  category : String
  level : Int32
  message : String
  deriving DecidableEq, Repr

instance : Message ReportRequest where
  schema := .cons "category" 1 .string (.cons "level" 2 .int32 (.cons "message" 3 .string .nil))
  toRecord r := (r.category, r.level, r.message, ())
  ofRecord := fun (category, level, message, _) => ⟨category, level, message⟩
  ofRecord_toRecord _ := rfl

/-- Asks for a channel to the node with this id in hexadecimal. -/
structure OpenChannelRequest where
  pubkey : String
  deriving DecidableEq, Repr

instance : Message OpenChannelRequest where
  schema := .cons "pubkey" 1 .string .nil
  toRecord r := (r.pubkey, ())
  ofRecord := fun (pubkey, _) => ⟨pubkey⟩
  ofRecord_toRecord _ := rfl

/-- Asks for a nonce to which the attestation of a device is bound. -/
structure IntegrityNonceRequest where
  encryptPubkey : Bytes
  pubkey : Bytes
  id : String
  deriving DecidableEq, Repr

instance : Message IntegrityNonceRequest where
  schema := .cons "encrypt_pubkey" 1 .bytes (.cons "pubkey" 2 .bytes (.cons "id" 3 .string .nil))
  toRecord r := (r.encryptPubkey, r.pubkey, r.id, ())
  ofRecord := fun (key, pubkey, id, _) => ⟨key, pubkey, id⟩
  ofRecord_toRecord _ := rfl

/-- A nonce for an attestation. -/
structure IntegrityNonceReply where
  nonce : String
  deriving DecidableEq, Repr

instance : Message IntegrityNonceReply where
  schema := .cons "nonce" 1 .string .nil
  toRecord r := (r.nonce, ())
  ofRecord := fun (nonce, _) => ⟨nonce⟩
  ofRecord_toRecord _ := rfl

/-- Submits an attestation. -/
structure IntegrityVerifyRequest where
  pubkey : Bytes
  token : String
  id : String
  deriving DecidableEq, Repr

instance : Message IntegrityVerifyRequest where
  schema := .cons "pubkey" 1 .bytes (.cons "token" 2 .string (.cons "id" 3 .string .nil))
  toRecord r := (r.pubkey, r.token, r.id, ())
  ofRecord := fun (pubkey, token, id, _) => ⟨pubkey, token, id⟩
  ofRecord_toRecord _ := rfl

/-- The result of an attestation. -/
inductive IntegrityResult where
  | none
  | ok
  | ng
  deriving DecidableEq, Repr

namespace IntegrityResult

/-- The result with this number. -/
def ofNumber (n : Int32) : IntegrityResult :=
  if n = 1 then .ok else if n = 2 then .ng else .none

/-- The result as a word. -/
def word : IntegrityResult → String
  | .none => "None"
  | .ok => "Ok"
  | .ng => "Ng"

end IntegrityResult

/-- The answer to an attestation. -/
structure IntegrityVerifyReply where
  result : Int32
  deriving DecidableEq, Repr

instance : Message IntegrityVerifyReply where
  schema := .cons "result" 1 .int32 .nil
  toRecord r := (r.result, ())
  ofRecord := fun (result, _) => ⟨result⟩
  ofRecord_toRecord _ := rfl

/-- The schema of every message by its name. -/
def messageTypes : List (String × Schema) :=
  [("Encrypted", Message.schema Encrypted),
    ("ChannelInformationRequest", Message.schema ChannelInformationRequest),
    ("ChannelInformationReply", Message.schema ChannelInformationReply),
    ("PingRequest", Message.schema PingRequest),
    ("PingReply", Message.schema PingReply),
    ("PaymentInformation", Message.schema PaymentInformation),
    ("RegisterPaymentRequest", Message.schema RegisterPaymentRequest),
    ("RegisterPaymentReply", Message.schema EmptyReply),
    ("RegisterSubmarineRequest", Message.schema RegisterSubmarineRequest),
    ("RegisterSubmarineReply", Message.schema RegisterSubmarineReply),
    ("ReceiveSubmarineRequest", Message.schema ReceiveSubmarineRequest),
    ("ReceiveSubmarineReply", Message.schema EmptyReply),
    ("NodePair", Message.schema Edge),
    ("QueryRoutesRequest", Message.schema QueryRoutesRequest),
    ("RegisterUserInfoRequest", Message.schema RegisterUserInfoRequest),
    ("RegisterUserInfoReply", Message.schema EmptyReply),
    ("ReportRequest", Message.schema ReportRequest),
    ("ReportReply", Message.schema EmptyReply),
    ("OpenChannelRequest", Message.schema OpenChannelRequest),
    ("OpenChannelReply", Message.schema EmptyReply),
    ("IntegrityNonceRequest", Message.schema IntegrityNonceRequest),
    ("IntegrityNonceReply", Message.schema IntegrityNonceReply),
    ("IntegrityVerifyRequest", Message.schema IntegrityVerifyRequest),
    ("IntegrityVerifyReply", Message.schema IntegrityVerifyReply),
    ("MppRecord", Message.schema MultiPathRecord),
    ("Hop", Message.schema Hop),
    ("Route", Message.schema Route),
    ("QueryRoutesResponse", Message.schema QueryRoutesResponse)]

/-- The schema of the message with this name. -/
def schemaOf? (name : String) : Option Schema :=
  (messageTypes.find? fun entry => entry.1 = name).map (·.2)

end LiquidityClient.Wire
