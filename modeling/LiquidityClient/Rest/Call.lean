import LiquidityClient.Collaborators
import LiquidityClient.Http
import LiquidityClient.Rest.Records

/-!
# Calls of the node's web service

`NodeRequest.http` is the request that a call of the node makes, `NodeRequest.interpret` what its
outcome means : a service that is not reached is a fault of the transport, a refusal and a document
that cannot be read are faults of the node. As in routes, the members of an object stand in the
order of their names.
-/

namespace LiquidityClient

open JsonValue (ofText ofDecimal ofBytes ofMembers)

/-- How long an invoice is valid, in seconds. -/
def invoiceExpirySecs : Int := 3600

/-! ## Requests -/

/-- A hint in JSON. -/
def HopHint.toJson (hint : HopHint) : JsonValue :=
  ofMembers
    [("chan_id", ofDecimal hint.channelId.toNat),
      ("cltv_expiry_delta", .integer hint.cltvExpiryDelta.toNat),
      ("fee_base_msat", .integer hint.feeBaseMsat.toNat),
      ("fee_proportional_millionths", .integer hint.feeProportionalMillionths.toNat),
      ("node_id", ofText hint.nodeId)]

/-- A wanted invoice in JSON. -/
def InvoiceRequest.toJson (request : InvoiceRequest) : JsonValue :=
  ofMembers
    ([("expiry", ofDecimal invoiceExpirySecs),
      ("is_nompp", .boolean true),
      ("memo", ofText request.memo),
      ("only_create", .boolean (request.mode = .createOnly))]
      ++ (request.paymentAddress.map fun address => ("payment_addr", ofBytes address)).toList
      ++ [("r_preimage", ofBytes request.preimage)]
      ++ (request.routeHint.map fun hint =>
        ("route_hints", .array [ofMembers [("hop_hints", .array [hint.toJson])]])).toList
      ++ [("value", ofDecimal request.amountSat.toInt)])

namespace NodeRequest

/-- What a request of the node does. -/
def method : NodeRequest → HttpMethod
  | .addInvoice _ => .post
  | .addPlainInvoice _ _ => .post
  | .addWatchScript _ _ _ => .post
  | .publishTransaction _ _ => .post
  | .sendToRoute _ _ => .post
  | .closeChannel _ _ _ => .delete
  | _ => .get

/-- The path of a request of the node. -/
def path : NodeRequest → String
  | .getInfo => "/v1/getinfo"
  | .listChannels => "/v1/channels?active_only=true"
  | .listPayments => "/v1/payments?include_incomplete=true&reversed=true"
  | .addInvoice _ => "/v1/invoices"
  | .addPlainInvoice _ _ => "/v1/invoices"
  | .decodePayRequest invoice => "/v1/payreq/" ++ invoice
  | .addWatchScript _ _ _ => "/v2/wallet/script/import/witness"
  | .publishTransaction _ _ => "/v2/wallet/tx"
  | .queryRoutes nodeKey amountMsat feeLimitMsat =>
    "/v1/graph/routes/" ++ nodeKey ++ "/" ++ Decimal.ofInt (amountMsat / 1000).toInt
      ++ "?fee_limit.fixed_msat=" ++ Decimal.ofInt feeLimitMsat.toInt
  | .sendToRoute _ _ => "/v1/channels/transactions/route"
  | .closeChannel txid index satPerVbyte =>
    "/v1/channels/" ++ txid ++ "/" ++ Decimal.ofNat index.toNat
      ++ "?sat_per_vbyte=" ++ Decimal.ofNat satPerVbyte.toNat

/-- The document that a request of the node carries. -/
def body : NodeRequest → Option JsonValue
  | .addInvoice request => some request.toJson
  | .addPlainInvoice amountMsat memo =>
    some (ofMembers
      [("expiry", ofDecimal invoiceExpirySecs),
        ("memo", ofText memo),
        ("value_msat", ofDecimal amountMsat.toInt)])
  | .addWatchScript script blockHash blockHeight =>
    some (ofMembers
      [("block_hash_str", ofText blockHash),
        ("block_height", .integer blockHeight.toNat),
        ("script", ofBytes script)])
  | .publishTransaction transaction label =>
    some (ofMembers [("label", ofText label), ("tx_hex", ofBytes transaction)])
  | .sendToRoute paymentHash route =>
    some (ofMembers [("payment_hash", ofBytes paymentHash), ("route", route.toJson)])
  | _ => none

/-- The request that a call of the node makes. -/
def http (request : NodeRequest) : HttpRequest where
  method := request.method
  path := request.path
  body := request.body

/-! ## Answers -/

/-- The name by which a refusal tells of the request. -/
def label : NodeRequest → String
  | .closeChannel txid index _ => "close " ++ txid ++ ":" ++ Decimal.ofNat index.toNat
  | request => "LND " ++ request.path

/-- The only info on the node that counts, that of its first chain. -/
def firstChain : List NodeInfo → Except Fault NodeInfo
  | [] => .error (.node "getinfo reports no chain")
  | info :: _ => .ok info

/-- The outcome of publishing, which names an error or is empty. -/
def published (publishError : String) : Except Fault Unit :=
  if publishError.isEmpty then .ok () else .error (.node ("publish: " ++ publishError))

/-- What the document means in which a call of the node is answered, if it can be read. -/
def readAnswer? : (request : NodeRequest) → JsonValue → Option (Except Fault request.Answer)
  | .getInfo, value => (NodeInfo.ofJson? value).map firstChain
  | .listChannels, value => (listOfJson? "channels" Channel.ofJson? value).map .ok
  | .listPayments, value => (listOfJson? "payments" Payment.ofJson? value).map .ok
  | .addInvoice _, value => (AddedInvoice.ofJson? value).map .ok
  | .addPlainInvoice _ _, value => (AddedInvoice.ofJson? value).map .ok
  | .decodePayRequest _, value => (PayRequest.ofJson? value).map .ok
  | .addWatchScript _ _ _, value => (textOfJson? "address" value).map .ok
  | .publishTransaction _ _, value => (textOfJson? "publish_error" value).map published
  | .queryRoutes _ _ _, value => (listOfJson? "routes" Route.ofJson? value).map .ok
  | .sendToRoute _ _, value => (SendResult.ofJson? value).map .ok
  | .closeChannel _ _ _, _ => some (.ok ())

/-- What a successful response means. The body of a closed channel, a stream of news, is not waited
for. -/
def accepted (request : NodeRequest) (response : HttpResponse) : Except Fault request.Answer :=
  match request with
  | .closeChannel _ _ _ => .ok ()
  | request =>
    match response.document?.bind request.readAnswer? with
    | some answer => answer
    | none => .error (.node ("LND " ++ request.path ++ ": bad response: not the expected document"))

/-- What the outcome of a call of the node means; a service that is not reached tells why. -/
def interpret (request : NodeRequest) : Except String HttpResponse → Except Fault request.Answer
  | .error detail => .error (.transport ("LND " ++ request.path ++ ": " ++ detail))
  | .ok response =>
    if HttpStatus.isSuccess response.status then request.accepted response
    else
      .error (.node
        (request.label ++ ": HTTP " ++ HttpStatus.text response.status ++ ": " ++
          response.bodyText))

end NodeRequest

end LiquidityClient
