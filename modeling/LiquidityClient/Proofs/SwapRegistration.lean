import LiquidityClient.Proofs.ScriptParameters
import LiquidityClient.Proofs.SealedEnvelope
import LiquidityClient.Proofs.Transcript
import LiquidityClient.Proofs.WitnessAddress
import LiquidityClient.Swap.Engine

/-!
# Registered swaps

A registration asks the provider for an offer and rebuilds the script from it (`Rebuilt`,
`runs_requestOffer_iff`), then compares the provider's address with that of the script, has the node
watch the script, and compares the provider's address with the node's (`runs_acceptOffer_cases`).
`register_verifies` puts this together : no run accepts an address other than that of the rebuilt
script, and since the address tells the script's hash and the script its parameters, none accepts
the address of a script with another key, payment hash or lock. A provider whose answers suit the
settings and the requested hash gets a registration as far as its script (`OfferAnswers.Suit`).
-/

namespace LiquidityClient.Swap

open Program

variable {settings : SwapSettings} {terms : Terms} {nodeId paymentHash refundKey : Bytes}
  {offer : SwapOffer} {p : SwapParameters} {log part rest : Transcript Collaborators}

/-! ## The offer -/

/-- The transcript is that of a request for an offer : the provider made the offer, and its script
was rebuilt with these parameters. -/
structure Rebuilt (settings : SwapSettings) (terms : Terms) (nodeId paymentHash refundKey : Bytes)
    (log : Transcript Collaborators) (offer : SwapOffer) (p : SwapParameters) : Prop where
  transcript : ∃ providerKey replyKey ephemeral nonce reply,
    parsePublicKey terms.providerKey = .ok providerKey ∧
    log = [⟨.freshKey, some replyKey⟩, ⟨.freshKey, some ephemeral⟩,
      ⟨.freshBytes Envelope.nonceLength, some nonce⟩,
      ⟨.provider (.registerSubmarine (sealMessage providerKey ⟨ephemeral, nonce.val⟩
        ({ encryptPubkey := replyKey.publicKey.compressed
           paymentHash
           repayPubkey := refundKey
           destination := nodeId
           swapScriptVersion := scriptVersion } : Wire.RegisterSubmarineRequest))),
        some (.ok reply)⟩,
      ⟨.node .getInfo, some (.ok offer.info)⟩] ∧
    openMessage Wire.RegisterSubmarineReply replyKey reply = .ok offer.response
  hash_eq : p.paymentHash = paymentHash ∧ paymentHash.length = 32
  htlcKey_eq : parsePublicKey offer.response.htlcPubkey = .ok p.htlcKey
  refundKey_eq : parsePublicKey refundKey = .ok p.refundKey
  csvHeight_eq : p.csvHeight = settings.csvHeight
  network_eq : Network.ofName offer.info.network = .ok offer.network
  script_eq : p.redeemScript = .ok offer.script

theorem requireHash_eq_ok : requireHash paymentHash = .ok () ↔ paymentHash.length = 32 := by
  unfold requireHash
  split_ifs with h <;> simp [h]

/-- An offer is requested exactly with the transcripts from which it is rebuilt. -/
theorem runs_requestOffer_iff :
    Runs (requestOffer settings terms nodeId paymentHash refundKey).run log (some (.ok offer)) ↔
      ∃ p, Rebuilt settings terms nodeId paymentHash refundKey log offer p := by
  constructor
  · intro h
    unfold requestOffer at h
    obtain ⟨⟨⟩, hhash, hkeys⟩ := Action.runs_ofExcept_bind_ok h
    obtain ⟨ourKey, hour, hprovider⟩ := Action.runs_ofExcept_mapError_bind_ok hkeys
    obtain ⟨providerKey, hterms, hdraw⟩ := Action.runs_ofExcept_mapError_bind_ok hprovider
    obtain ⟨replyKey, log₁, rfl, hseal⟩ := Action.runs_ask_bind_ok hdraw
    obtain ⟨envelope, log₂, log₃, rfl, hsealed, hcall⟩ := Action.runs_bind_ok hseal
    obtain ⟨ephemeral, nonce, rfl, rfl⟩ := runs_sealFresh_ok hsealed
    obtain ⟨reply, log₄, rfl, hopen⟩ := Action.runs_provider_bind_ok hcall
    obtain ⟨response, hresponse, htheir⟩ := Action.runs_ofExcept_mapError_bind_ok hopen
    obtain ⟨theirKey, hkey, hinfo⟩ := Action.runs_ofExcept_mapError_bind_ok htheir
    obtain ⟨info, log₅, rfl, hname⟩ := Action.runs_node_bind_ok hinfo
    obtain ⟨network, hnetwork, hrebuild⟩ := Action.runs_ofExcept_bind_ok hname
    obtain ⟨script, hscript, hend⟩ := Action.runs_ofExcept_bind_ok hrebuild
    obtain ⟨rfl, hoffer⟩ := Action.runs_pure_iff.1 hend
    cases hoffer
    exact ⟨⟨paymentHash, theirKey, ourKey, settings.csvHeight⟩,
      ⟨providerKey, replyKey, ephemeral, nonce, reply, hterms, rfl, hresponse⟩,
      ⟨rfl, requireHash_eq_ok.1 hhash⟩, hkey, hour, rfl, hnetwork, hscript⟩
  · rintro ⟨⟨_, theirKey, ourKey, _⟩, ⟨providerKey, replyKey, ephemeral, nonce, reply, hterms, rfl,
      hresponse⟩, ⟨rfl, hlength⟩, hkey, hour, rfl, hnetwork, hscript⟩
    unfold requestOffer
    refine Action.runs_ofExcept_bind (requireHash_eq_ok.2 hlength) ?_
    refine Action.runs_ofExcept_mapError_bind hour ?_
    refine Action.runs_ofExcept_mapError_bind hterms ?_
    refine .answered (.answered (.answered (.answered ?_)))
    refine Action.runs_ofExcept_mapError_bind hresponse ?_
    refine Action.runs_ofExcept_mapError_bind hkey ?_
    refine .answered ?_
    refine Action.runs_ofExcept_bind hnetwork ?_
    refine Action.runs_ofExcept_bind hscript ?_
    exact .pure _

/-- Watching a script is not asked for. -/
def NotWatching (request : Request) : Prop :=
  ∀ script blockHash height, request ≠ .node (.addWatchScript script blockHash height)

theorem inOrder_requestOffer :
    InOrder NotWatching (requestOffer settings terms nodeId paymentHash refundKey).run := by
  unfold requestOffer
  refine Action.inOrder_bind (Action.inOrder_ofExcept _) fun _ => ?_
  refine Action.inOrder_bind (Action.inOrder_ofExcept _) fun ourKey => ?_
  refine Action.inOrder_bind (Action.inOrder_ofExcept _) fun providerKey => ?_
  refine Action.inOrder_bind (Action.inOrder_ask nofun) fun replyKey => ?_
  refine Action.inOrder_bind (inOrder_sealFresh nofun fun _ => nofun) fun envelope => ?_
  refine Action.inOrder_bind (Action.inOrder_mapError (Action.inOrder_provider nofun))
    fun reply => ?_
  refine Action.inOrder_bind (Action.inOrder_ofExcept _) fun response => ?_
  refine Action.inOrder_bind (Action.inOrder_ofExcept _) fun theirKey => ?_
  refine Action.inOrder_bind (Action.inOrder_mapError (Action.inOrder_node nofun)) fun info => ?_
  refine Action.inOrder_bind (Action.inOrder_ofExcept _) fun network => ?_
  exact Action.inOrder_bind (Action.inOrder_ofExcept _) fun script => Action.inOrder_pure _

/-! ## Its acceptance -/

/-- How a registration ends with what the node answers when it is to watch the script. -/
def watchResult (offer : SwapOffer) (paymentHash refundKey : Bytes) :
    Option (Except Fault String) → Option (Except SwapError RegisteredSwap)
  | none => none
  | some (.error cause) => some (.error (.fault cause))
  | some (.ok watched) =>
    if watched = offer.response.scriptAddress then some (.ok (offer.swap paymentHash refundKey))
    else some (.error (.scriptMismatch watched offer.response.scriptAddress))

theorem runs_acceptOffer_cases {result : Option (Except SwapError RegisteredSwap)}
    (h : Runs (acceptOffer paymentHash refundKey offer).run log result) :
    if offer.address = offer.response.scriptAddress then
      ∃ reply, log = [⟨.node (.addWatchScript offer.script offer.info.blockHash
          offer.info.blockHeight), reply⟩] ∧
        result = watchResult offer paymentHash refundKey reply
    else log = [] ∧
      result = some (.error (.scriptMismatch offer.address offer.response.scriptAddress)) := by
  unfold acceptOffer requireAddress at h
  split_ifs with haddress
  · rw [if_pos haddress] at h
    cases h with
    | @answered _ _ _ reply _ _ rest =>
      refine ⟨some reply, ?_⟩
      cases reply with
      | error cause =>
        obtain ⟨rfl, rfl⟩ := Program.runs_pure_iff.1 rest
        exact ⟨rfl, rfl⟩
      | ok watched =>
        rw [watchResult]
        have hlast : Runs (ExceptT.run (Action.ofExcept
          (if watched = offer.response.scriptAddress then Except.ok () else
            Except.error (SwapError.scriptMismatch watched offer.response.scriptAddress)) >>=
            fun _ => pure (offer.swap paymentHash refundKey))) _ result := rest
        split_ifs at hlast ⊢ with hwatched
        · obtain ⟨rfl, rfl⟩ := Program.runs_pure_iff.1 hlast
          exact ⟨rfl, rfl⟩
        · obtain ⟨rfl, rfl⟩ := Program.runs_pure_iff.1 hlast
          exact ⟨rfl, rfl⟩
    | crashed => exact ⟨none, rfl, rfl⟩
  · rw [if_neg haddress] at h
    exact Program.runs_pure_iff.1 h

/-! ## Registrations -/

/-- No swap came of a run, but an error, unless a collaborator crashed. -/
def Refused (log : Transcript Collaborators)
    (result : Option (Except SwapError RegisteredSwap)) : Prop :=
  (∃ error, result = some (.error error)) ∨ (result = none ∧ ∃ e ∈ log, e.reply = none)

/-- The provider's address is refused as not being that of the rebuilt script, which the node is not
asked to watch. -/
def RefusedFor (offer : SwapOffer) (log : Transcript Collaborators)
    (result : Option (Except SwapError RegisteredSwap)) : Prop :=
  result = some (.error (.scriptMismatch offer.address offer.response.scriptAddress)) ∧
    ∀ e ∈ log, NotWatching e.request

variable {result : Option (Except SwapError RegisteredSwap)}

/-- Without an offer there is no swap. -/
theorem refused_of_not_rebuilt
    (h : Runs (register settings terms nodeId paymentHash refundKey).run log result)
    (hnone : ¬∃ part offer p, part <+: log ∧
      Rebuilt settings terms nodeId paymentHash refundKey part offer p) :
    Refused log result ∧ ∀ e ∈ log, NotWatching e.request := by
  rcases Action.runs_bind_cases h with
    ⟨offer, part, rest, rfl, hoffer, -⟩ | ⟨error, herror, rfl⟩ | ⟨hcrash, rfl⟩
  · obtain ⟨p, hrebuilt⟩ := runs_requestOffer_iff.1 hoffer
    exact absurd ⟨part, offer, p, List.prefix_append part rest, hrebuilt⟩ hnone
  · exact ⟨Or.inl ⟨error, rfl⟩, inOrder_requestOffer.allowed_of_runs herror⟩
  · exact ⟨Or.inr ⟨rfl, hcrash.exists_crash⟩, inOrder_requestOffer.allowed_of_runs hcrash⟩

/-- After an offer it depends on the two addresses how a registration ends. -/
theorem runs_register_of_rebuilt
    (h : Runs (register settings terms nodeId paymentHash refundKey).run log result)
    (hpart : part <+: log)
    (hoffer : Rebuilt settings terms nodeId paymentHash refundKey part offer p) :
    if offer.address = offer.response.scriptAddress then
      ∃ reply, log = part ++ [⟨.node (.addWatchScript offer.script offer.info.blockHash
          offer.info.blockHeight), reply⟩] ∧
        result = watchResult offer paymentHash refundKey reply
    else RefusedFor offer log result := by
  obtain ⟨rest, rfl⟩ := hpart
  have hrequest := runs_requestOffer_iff.2 ⟨p, hoffer⟩
  have haccept := runs_acceptOffer_cases (Action.runs_of_runs_bind h hrequest)
  split_ifs at haccept ⊢
  · obtain ⟨reply, rfl, hresult⟩ := haccept
    exact ⟨reply, rfl, hresult⟩
  · obtain ⟨rfl, hresult⟩ := haccept
    rw [List.append_nil]
    exact ⟨hresult, inOrder_requestOffer.allowed_of_runs hrequest⟩

theorem watchResult_eq_ok {reply : Option (Except Fault String)} {swap : RegisteredSwap}
    (h : watchResult offer paymentHash refundKey reply = some (.ok swap)) :
    reply = some (.ok offer.response.scriptAddress) ∧ swap = offer.swap paymentHash refundKey := by
  unfold watchResult at h
  split at h
  · cases h
  · cases h
  · split_ifs at h with haddress
    · cases h
      exact ⟨by rw [haddress], rfl⟩
    · cases h

/-- The address of a script with other parameters is not that of the rebuilt script, if the hashes
of the two scripts do not collide. -/
theorem Rebuilt.address_ne
    (hoffer : Rebuilt settings terms nodeId paymentHash refundKey log offer p)
    {network : Network} {p' : SwapParameters} {script : Bytes} (hhtlc : p'.htlcKey.Valid)
    (hrefund : p'.refundKey.Valid) (hscript : p'.redeemScript = .ok script) (hne : p' ≠ p)
    (hcollide : Sha256.hash script = Sha256.hash offer.script → script = offer.script) :
    Address.payToScriptHash network script ≠ offer.address := by
  intro haddress
  obtain rfl := hcollide (Address.payToScriptHash_inj.1 haddress).2
  exact hne (SwapParameters.eq_of_redeemScript_eq hscript hoffer.script_eq hhtlc
    (PublicKey.valid_of_parse hoffer.htlcKey_eq) hrefund
    (PublicKey.valid_of_parse hoffer.refundKey_eq))

/-! ## Suitable answers -/

/-- What the collaborators answer to a request for an offer. -/
structure OfferAnswers extends SealedAnswer Wire.RegisterSubmarineReply where
  info : NodeInfo

namespace OfferAnswers

variable {answers : OfferAnswers} {providerKey : PublicKey} {network : Network}

/-- The request for an offer with these answers. -/
def exchanges (answers : OfferAnswers) (providerKey : PublicKey)
    (nodeId paymentHash refundKey : Bytes) : Transcript Collaborators :=
  [⟨.freshKey, some answers.replyKey⟩, ⟨.freshKey, some answers.ephemeral⟩,
    ⟨.freshBytes Envelope.nonceLength, some answers.nonce⟩,
    ⟨.provider (.registerSubmarine (sealMessage providerKey ⟨answers.ephemeral, answers.nonce.val⟩
      ({ encryptPubkey := answers.replyKey.publicKey.compressed
         paymentHash
         repayPubkey := refundKey
         destination := nodeId
         swapScriptVersion := scriptVersion } : Wire.RegisterSubmarineRequest))),
      some (.ok answers.reply)⟩,
    ⟨.node .getInfo, some (.ok answers.info)⟩]

/-- The answers suit the registration of a swap with these parameters : the provider's response fits
in an envelope and names its key, and the node is on the network. -/
structure Suit (answers : OfferAnswers) (network : Network) (p : SwapParameters) : Prop where
  fits : answers.Fits
  htlcKey_eq : parsePublicKey answers.response.htlcPubkey = .ok p.htlcKey
  network_eq : Network.ofName answers.info.network = .ok network

/-- From suitable answers the offer is rebuilt. -/
theorem Suit.rebuilt {script : Bytes} (h : answers.Suit network p)
    (hterms : parsePublicKey terms.providerKey = .ok providerKey)
    (hhash : p.paymentHash.length = 32) (hrefund : parsePublicKey refundKey = .ok p.refundKey)
    (hheight : p.csvHeight = settings.csvHeight) (hscript : p.redeemScript = .ok script) :
    Rebuilt settings terms nodeId p.paymentHash refundKey
      (answers.exchanges providerKey nodeId p.paymentHash refundKey)
      ⟨answers.response, answers.info, network, script⟩ p where
  transcript := ⟨providerKey, answers.replyKey, answers.ephemeral, answers.nonce, _, hterms, rfl,
    openMessage_sealMessage_of_doubleFree answers.replyKey h.fits.nonce_length (by decide)
      (by decide) h.fits.response_lt⟩
  hash_eq := ⟨rfl, hhash⟩
  htlcKey_eq := h.htlcKey_eq
  refundKey_eq := hrefund
  csvHeight_eq := hheight
  network_eq := h.network_eq
  script_eq := hscript

end OfferAnswers

/-- It depends on the answers alone whether a registration begins by rebuilding this offer. -/
theorem Rebuilt.prefix_record_iff {σ : Type} {answer : Answering Collaborators σ} {state : σ}
    (hoffer : Rebuilt settings terms nodeId paymentHash refundKey part offer p) :
    part <+: (record answer (register settings terms nodeId paymentHash refundKey).run state).2 ↔
      Gives answer part state :=
  (runs_requestOffer_iff.2 ⟨p, hoffer⟩).prefix_record_bind_iff

/-- If the provider gave the address of the rebuilt script, the node is asked to watch it, and its
answer ends the registration. -/
theorem Rebuilt.runs_register
    (hoffer : Rebuilt settings terms nodeId paymentHash refundKey part offer p)
    (haddress : offer.address = offer.response.scriptAddress)
    (reply : Option (Except Fault String)) :
    Runs (register settings terms nodeId paymentHash refundKey).run
      (part ++ [⟨.node (.addWatchScript offer.script offer.info.blockHash offer.info.blockHeight),
        reply⟩])
      (watchResult offer paymentHash refundKey reply) := by
  refine (runs_requestOffer_iff.2 ⟨p, hoffer⟩).bind ?_
  have haccept : Runs (acceptOffer paymentHash refundKey offer).run
      [⟨.node (.addWatchScript offer.script offer.info.blockHash offer.info.blockHeight), reply⟩]
      (watchResult offer paymentHash refundKey reply) := by
    unfold acceptOffer
    refine Action.runs_ofExcept_bind (if_pos haddress) ?_
    match reply with
    | none => exact .crashed
    | some (.error cause) => exact .answered (.pure _)
    | some (.ok watched) =>
      have hlast : Runs (ExceptT.run (Action.ofExcept (requireAddress watched
          offer.response.scriptAddress) >>= fun _ => pure (offer.swap paymentHash refundKey))) []
          (watchResult offer paymentHash refundKey (some (.ok watched))) := by
        unfold requireAddress watchResult
        dsimp only
        split_ifs with hwatched
        · exact .pure _
        · exact .pure _
      exact .answered hlast
  exact haccept

/-- If the node gives this address too, there is a swap. -/
theorem Rebuilt.registers
    (hoffer : Rebuilt settings terms nodeId paymentHash refundKey part offer p)
    (haddress : offer.address = offer.response.scriptAddress) :
    Runs (register settings terms nodeId paymentHash refundKey).run
      (part ++ [⟨.node (.addWatchScript offer.script offer.info.blockHash offer.info.blockHeight),
        some (.ok offer.response.scriptAddress)⟩])
      (some (.ok (offer.swap paymentHash refundKey))) := by
  have hrun := hoffer.runs_register haddress (some (.ok offer.response.scriptAddress))
  rwa [watchResult, if_pos rfl] at hrun

/-- Suitable answers with the address of the script, first the provider's and then the node's, lead
to a swap. -/
theorem OfferAnswers.Suit.exists_runs {answers : OfferAnswers} {providerKey : PublicKey}
    {network : Network} {script : Bytes} (h : answers.Suit network p)
    (hterms : parsePublicKey terms.providerKey = .ok providerKey)
    (hhash : p.paymentHash.length = 32) (hrefund : parsePublicKey refundKey = .ok p.refundKey)
    (hheight : p.csvHeight = settings.csvHeight) (hscript : p.redeemScript = .ok script)
    (haddress : answers.response.scriptAddress = Address.payToScriptHash network script)
    (nodeId : Bytes) : ∃ log swap,
      Runs (register settings terms nodeId p.paymentHash refundKey).run log (some (.ok swap)) :=
  ⟨_, _, (h.rebuilt hterms hhash hrefund hheight hscript).registers haddress.symm⟩

/-- A registered swap has the script that was rebuilt from the offer, at the address that the
provider and the node both gave, which is the script's. Without an offer there is no swap. If the
provider gave another address than the script's, in particular the address of a script with other
parameters, the swap is refused and the script not watched. Otherwise the node is asked to watch the
script, and it depends on its address whether there is a swap. -/
theorem register_verifies {σ : Type} (answer : (r : Request) → σ → Option r.Reply × σ) (state : σ)
    (settings : SwapSettings) (terms : Terms) (nodeId paymentHash refundKey : Bytes) :
    let (result, log) :=
      record answer (register settings terms nodeId paymentHash refundKey).run state
    let Made := fun part offer p =>
      part <+: log ∧ Rebuilt settings terms nodeId paymentHash refundKey part offer p
    (∀ swap, result = some (.ok swap) → ∃ part offer p, Made part offer p ∧
      swap.paymentHash = p.paymentHash ∧
      parsePublicKey swap.htlcKey = .ok p.htlcKey ∧
      parsePublicKey swap.refundKey = .ok p.refundKey ∧
      p.csvHeight = settings.csvHeight ∧ p.redeemScript = .ok swap.script ∧
      swap.scriptAddress = Address.payToScriptHash offer.network swap.script ∧
      swap.scriptAddress = offer.response.scriptAddress ∧
      ⟨.node (.addWatchScript swap.script offer.info.blockHash swap.height),
        some (.ok swap.scriptAddress)⟩ ∈ log) ∧
    ((¬∃ part offer p, Made part offer p) →
      Refused log result ∧ ∀ e ∈ log, NotWatching e.request) ∧
    ∀ part offer p, Made part offer p →
      (offer.response.scriptAddress ≠ offer.address → RefusedFor offer log result) ∧
      (∀ (network : Network) (p' : SwapParameters) (script : Bytes),
        p'.htlcKey.Valid → p'.refundKey.Valid → p'.redeemScript = .ok script → p' ≠ p →
          (Sha256.hash script = Sha256.hash offer.script → script = offer.script) →
            offer.response.scriptAddress = Address.payToScriptHash network script →
              RefusedFor offer log result) ∧
      (offer.response.scriptAddress = offer.address →
        ∃ reply, log = part ++ [⟨.node (.addWatchScript offer.script offer.info.blockHash
            offer.info.blockHeight), reply⟩] ∧
          result = watchResult offer paymentHash refundKey reply) := by
  have hrun := runs_record answer (register settings terms nodeId paymentHash refundKey).run state
  generalize record answer (register settings terms nodeId paymentHash refundKey).run state =
    recorded at hrun ⊢
  obtain ⟨result, log⟩ := recorded
  dsimp only at hrun ⊢
  refine ⟨?_, refused_of_not_rebuilt hrun, ?_⟩
  · rintro swap rfl
    obtain ⟨offer, part, rest, rfl, hoffer, -⟩ := Action.runs_bind_ok hrun
    obtain ⟨p, hrebuilt⟩ := runs_requestOffer_iff.1 hoffer
    have hend := runs_register_of_rebuilt hrun (List.prefix_append part rest) hrebuilt
    split_ifs at hend with haddress
    · obtain ⟨reply, hlog, hresult⟩ := hend
      obtain ⟨rfl, rfl⟩ := watchResult_eq_ok hresult.symm
      refine ⟨part, offer, p, ⟨List.prefix_append part rest, hrebuilt⟩, hrebuilt.hash_eq.1.symm,
        hrebuilt.htlcKey_eq, hrebuilt.refundKey_eq, hrebuilt.csvHeight_eq, hrebuilt.script_eq,
        haddress.symm, rfl, ?_⟩
      rw [hlog]
      exact List.mem_append_right _ (List.mem_singleton_self _)
    · cases hend.1
  · rintro part offer p ⟨hpart, hrebuilt⟩
    have hend := runs_register_of_rebuilt hrun hpart hrebuilt
    refine ⟨fun haddress => ?_, fun network p' script hhtlc hrefund hscript hne hcollide heq => ?_,
      fun haddress => ?_⟩
    · rwa [if_neg haddress.symm] at hend
    · have haddress : Address.payToScriptHash network script ≠ offer.address :=
        hrebuilt.address_ne hhtlc hrefund hscript hne hcollide
      rw [← heq] at haddress
      rwa [if_neg haddress.symm] at hend
    · rwa [if_pos haddress.symm] at hend

/-- The parameters of a swap between two keys of the secret 1, with the default lock. -/
def unitSwap : SwapParameters :=
  ⟨Bytes.repeated 32 7, ⟨Secp256k1.generator⟩, ⟨Secp256k1.generator⟩, 144⟩

/-- Its script. -/
def unitScript : Bytes :=
  unitSwap.redeemScript.toOption.getD []

/-- A provider that offers the swap with the address of its script, and a node. -/
def unitAnswers : OfferAnswers where
  toSealedAnswer := sevenfold ⟨unitKey, Address.payToScriptHash .regtest unitScript⟩
  info := ⟨"", 100, "", "regtest"⟩

/-- A registration reaches the node, which gives the same address, and there is a swap. -/
theorem register_verifies_unitSwap :
    ∃ (log : Transcript Collaborators) (swap : RegisteredSwap),
      (record (I := Collaborators) replayed
        (register {} unitTerms [] unitSwap.paymentHash unitKey).run log).1 = some (.ok swap) ∧
      (∃ network, swap.scriptAddress = Address.payToScriptHash network swap.script) ∧
      ∃ blockHash, ⟨.node (.addWatchScript swap.script blockHash swap.height),
        some (.ok swap.scriptAddress)⟩ ∈ log := by
  have hscript : unitSwap.redeemScript = .ok unitScript := by
    obtain ⟨script, hscript⟩ :=
      SwapParameters.exists_redeemScript (p := unitSwap) (by decide) (by decide)
    rw [unitScript, hscript]
    rfl
  have hsuit : unitAnswers.Suit .regtest unitSwap :=
    ⟨⟨List.length_replicate, by decide +kernel⟩, parsePublicKey_unitKey, by decide⟩
  have hterms : parsePublicKey unitTerms.providerKey = .ok ⟨Secp256k1.generator⟩ :=
    parsePublicKey_unitKey
  have hrefund : parsePublicKey unitKey = .ok unitSwap.refundKey := parsePublicKey_unitKey
  have hheight : unitSwap.csvHeight = ({} : SwapSettings).csvHeight := rfl
  obtain ⟨log, swap, hrun⟩ := hsuit.exists_runs hterms (by decide) hrefund hheight hscript rfl []
  refine ⟨log, swap, by rw [hrun.record_replayed], ?_⟩
  -- the key stands for itself, so that nothing evaluates the run once more
  generalize unitKey = key at hrun
  have hverifies :=
    register_verifies (replayed (I := Collaborators)) log {} unitTerms [] unitSwap.paymentHash key
  rw [hrun.record_replayed] at hverifies
  obtain ⟨part, offer, p, -, -, -, -, -, -, haddress, -, hwatched⟩ := hverifies.1 swap rfl
  exact ⟨⟨_, haddress⟩, _, hwatched⟩

end LiquidityClient.Swap
