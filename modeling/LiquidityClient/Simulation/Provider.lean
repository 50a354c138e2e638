import LiquidityClient.Bitcoin.Address
import LiquidityClient.Collaborators
import LiquidityClient.Simulation.Plan
import LiquidityClient.Swap.RedeemScript

/-!
# A scripted provider

It opens sealed requests with its secret key, seals its replies to the key in the request, and
answers by its script : terms, routes, and swaps on one network with one lock height.
-/

namespace LiquidityClient.Simulation

/-- How an answer of the provider differs from its usual one. -/
structure ProviderChange where
  terms : Option Wire.ChannelInformationReply := none
  routes : Option (List Route) := none
  /-- The number that answers a ping. -/
  pong : Option Int32 := none
  /-- The nonce for an attestation. -/
  nonce : Option String := none
  result : Option Int32 := none
  htlcKey : Option Bytes := none
  scriptAddress : Option String := none
  /-- An envelope in place of the sealed reply. -/
  envelope : Option Bytes := none
  /-- A plaintext in place of the reply. -/
  plaintext : Option Bytes := none
  /-- The key to which the reply is sealed. -/
  recipient : Option PublicKey := none

/-- The script of a provider. -/
structure ProviderScript where
  secret : SecretKey
  /-- The provider's key of swaps. -/
  htlcSecret : SecretKey
  terms : Wire.ChannelInformationReply
  routes : List Route := []
  csvHeight : UInt32 := 144
  network : Network := .regtest
  plan : Plan ProviderChange := []

/-- A call as the provider saw it, opened if it was sealed. -/
structure ProviderCall where
  method : String
  message : Wire.AnyMessage
  /-- The provider's id in a registration of a payment. -/
  providerId : Option String := none

/-- The fault of a request that cannot be opened. -/
def unreadable : Fault :=
  .transport "fake lsp cannot open request"

namespace ProviderScript

/-- The message in a sealed request. -/
def openRequest (script : ProviderScript) (α : Type) [Wire.Message α] (data : Bytes) :
    Except Fault α :=
  match openMessage α script.secret ⟨data⟩ with
  | .ok message => .ok message
  | .error _ => .error unreadable

/-- A reply sealed to the key in the request, unless the plan changes it. -/
def sealReply {α : Type} [Wire.Message α] (change : ProviderChange) (replyKey : Bytes)
    (seed : SealSeed)
    (reply : α) : Except Fault Wire.Encrypted :=
  match change.envelope with
  | some envelope => .ok ⟨envelope⟩
  | none =>
    match change.recipient <|> PublicKey.ofBytes? replyKey with
    | some recipient =>
      .ok ⟨sealBytes recipient seed (change.plaintext.getD (Wire.encode reply))⟩
    | none => .error unreadable

/-- The address of the swap that a request asks for; empty if there is no such swap. -/
def swapAddress (script : ProviderScript) (request : Wire.RegisterSubmarineRequest) : String :=
  match PublicKey.ofBytes? request.repayPubkey with
  | none => ""
  | some refundKey =>
    match SwapParameters.redeemScript
        ⟨request.paymentHash, script.htlcSecret.publicKey, refundKey, script.csvHeight⟩ with
    | .ok redeemScript => Address.payToScriptHash script.network redeemScript
    | .error _ => ""

/-- What a call does : what the provider sees of it, and its answer. A call that cannot be opened is
not seen. -/
def handle (script : ProviderScript) (seed : SealSeed) : (request : ProviderRequest) →
    Except Fault (ProviderCall × (ProviderChange → Except Fault request.Answer))
  | .channelInformation m =>
    .ok (⟨"channel_information", .of m, none⟩, fun c => .ok (c.terms.getD script.terms))
  | .ping m => .ok (⟨"ping", .of m, none⟩, fun c => .ok ⟨c.pong.getD m.nonce⟩)
  | .registerPayment m => do
    let payment ← script.openRequest Wire.PaymentInformation m.blob
    return (⟨"register_payment", .of payment, some m.lspId⟩, fun _ => .ok {})
  | .registerSubmarine e => do
    let m ← script.openRequest Wire.RegisterSubmarineRequest e.data
    return (⟨"register_submarine", .of m, none⟩, fun c =>
      sealReply (α := Wire.RegisterSubmarineReply) c m.encryptPubkey seed
        ⟨c.htlcKey.getD script.htlcSecret.publicKey.compressed,
          c.scriptAddress.getD (script.swapAddress m)⟩)
  | .receiveSubmarine e => do
    let m ← script.openRequest Wire.ReceiveSubmarineRequest e.data
    return (⟨"receive_submarine", .of m, none⟩, fun _ => .ok {})
  | .queryRoutes e => do
    let m ← script.openRequest Wire.QueryRoutesRequest e.data
    return (⟨"query_routes", .of m, none⟩, fun c =>
      sealReply (α := Wire.QueryRoutesResponse) c m.encryptPubkey seed
        ⟨c.routes.getD script.routes, ⟨0x3fe0000000000000⟩⟩)
  | .registerUserInfo e => do
    let m ← script.openRequest Wire.RegisterUserInfoRequest e.data
    return (⟨"register_user_info", .of m, none⟩, fun _ => .ok {})
  | .reportMessage e => do
    let m ← script.openRequest Wire.ReportRequest e.data
    return (⟨"report_message", .of m, none⟩, fun _ => .ok {})
  | .openChannel m => .ok (⟨"open_channel", .of m, none⟩, fun _ => .ok {})
  | .integrityNonce e => do
    let m ← script.openRequest Wire.IntegrityNonceRequest e.data
    return (⟨"integrity_nonce", .of m, none⟩, fun c =>
      sealReply (α := Wire.IntegrityNonceReply) c m.encryptPubkey seed
        ⟨c.nonce.getD ("nonce-" ++ m.id)⟩)
  | .integrityVerify e => do
    let m ← script.openRequest Wire.IntegrityVerifyRequest e.data
    return (⟨"integrity_verify", .of m, none⟩, fun c =>
      .ok ⟨c.result.getD (if m.token = "signed-nonce-" ++ m.id then 1 else 2)⟩)

end ProviderScript

end LiquidityClient.Simulation
