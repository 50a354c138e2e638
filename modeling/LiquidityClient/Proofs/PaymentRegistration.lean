import LiquidityClient.Proofs.RouteConsistency
import LiquidityClient.Proofs.SealedEnvelope
import LiquidityClient.Proofs.Transcript
import LiquidityClient.Registration

/-!
# Registered payments

A registration has three parts : it settles its terms (`quoteOf`), has the node make two invoices
(`invoicesFor`) and tells the provider (`announce`); by `registerPayment_eq` these are all of it.
The first part ends without a quote if a channel can receive the amount, if an amount in
millisatoshis overflows or if the terms have no hint (`runs_quoteOf_ok_iff`), and then no invoice is
asked for; only the first of these is told as a refusal, right behind the list of channels
(`runs_registerPayment_gate`). The second has the invoices of one quote made, and the third says
nothing to the provider unless they share their address. So what the provider is told agrees with
both invoices (`Agreed`, `registerPayment_consistent`), and a registration whose parts succeed gets
that far (`runs_registerPayment_of_sealed`).
-/

namespace LiquidityClient

open Program

variable {terms : Terms} {nodeId : Bytes} {amountSat amountMsat : Int64} {memo : String}
  {log part rest : Transcript Collaborators}

/-! ## Amounts -/

theorem toMsat_eq_ok_iff : toMsat amountSat = .ok amountMsat ↔
    Word.IsInt64 (1000 * amountSat.toInt) ∧ amountMsat.toInt = 1000 * amountSat.toInt := by
  have hunit : amountSat.toInt * msatPerSat.toInt = 1000 * amountSat.toInt := Int.mul_comm _ _
  unfold toMsat checkedProduct?
  dsimp only
  rw [hunit]
  split_ifs with hfits
  · have hproduct := toInt_mul_of_isInt64 (hunit ▸ hfits)
    rw [Except.ok.injEq, ← Int64.toInt_inj, hproduct, hunit, eq_comm, and_iff_right hfits]
  · simp [hfits]

theorem le_max_int64_iff {a b c : Int64} : a ≤ max b c ↔ a ≤ b ∨ a ≤ c := by
  have hmax : max b c = if b ≤ c then c else b := rfl
  simp only [hmax, Int64.le_iff_toInt_le]
  split_ifs <;> omega

/-- A bound of a largest value is one of some value. -/
theorem le_foldl_max_iff {α : Type} {f : α → Int64} {xs : List α} {best : Int64} :
    amountSat ≤ xs.foldl (fun best x => max best (f x)) best ↔
      amountSat ≤ best ∨ ∃ x ∈ xs, amountSat ≤ f x := by
  induction xs generalizing best with
  | nil => simp
  | cons x xs ih => rw [List.foldl_cons, ih, le_max_int64_iff, List.exists_mem_cons_iff, or_assoc]

theorem le_receivableMax_iff {channels : List Channel} :
    amountSat ≤ receivableMax channels ↔
      amountSat ≤ 0 ∨ ∃ channel ∈ channels, amountSat ≤ channel.receivable :=
  le_foldl_max_iff

/-- A new channel is for positive amounts that no channel can receive. -/
theorem requireNewChannel_eq_ok_iff {channels : List Channel} :
    requireNewChannel channels amountSat = .ok () ↔
      0 < amountSat ∧ ∀ channel ∈ channels, channel.receivable < amountSat := by
  have hnew : ¬amountSat ≤ receivableMax channels ↔
      0 < amountSat ∧ ∀ channel ∈ channels, channel.receivable < amountSat := by
    rw [le_receivableMax_iff]
    simp only [not_or, not_exists, not_and, Int64.not_le]
  unfold requireNewChannel
  dsimp only
  split_ifs with h
  · exact ⟨nofun, fun hok => absurd h (hnew.2 hok)⟩
  · exact ⟨fun _ => hnew.1 h, fun _ => rfl⟩

theorem neg_le_serviceFeeSat (terms : Terms) (amountSat : Int64) :
    -9223372036854776 ≤ (terms.serviceFeeSat amountSat).toInt := by
  unfold Terms.serviceFeeSat
  dsimp only
  generalize (Int.bmod _ _).tdiv 10000 = shareMsat
  split_ifs with hfits
  · have hminimum : -2 ^ 63 ≤ max shareMsat terms.minimumFeeMsat.toInt :=
      le_max_of_le_right terms.minimumFeeMsat.le_toInt
    have hshare := Int.tdiv_le_tdiv (show (0 : Int) < 1000 by decide) hminimum
    rw [Int64.toInt_ofInt_of_le hfits.1 hfits.2]
    exact le_trans (by decide) hshare
  · decide

/-- What is left of an amount after the fee does not overflow if the amount in millisatoshis does
not. -/
theorem toInt_sub_serviceFeeSat (terms : Terms) (hpos : 0 < amountSat)
    (hfits : Word.IsInt64 (1000 * amountSat.toInt)) :
    (amountSat - terms.serviceFeeSat amountSat).toInt =
      amountSat.toInt - (terms.serviceFeeSat amountSat).toInt := by
  have hleast := neg_le_serviceFeeSat terms amountSat
  have hlargest := (terms.serviceFeeSat amountSat).toInt_lt
  have hamount : 0 < amountSat.toInt := Int64.lt_iff_toInt_lt.1 hpos
  exact toInt_sub_of_isInt64 ⟨by omega, by omega⟩

/-- Is the value an unsigned 32-bit number? -/
def IsWord32 (n : Int64) : Prop :=
  0 ≤ n.toInt ∧ n.toInt < UInt32.size

theorem toWord32?_eq_some_iff {n : Int64} {word : UInt32} :
    toWord32? n = some word ↔ (word.toNat : Int) = n.toInt := by
  have hword := word.toNat_lt
  unfold toWord32?
  split_ifs with h
  · rw [Option.some.injEq, ← UInt32.toNat_inj, UInt32.toNat_ofNat']
    simp only [UInt32.size] at h
    omega
  · simp only [UInt32.size] at h
    simp only [false_iff]
    omega

/-- Hints are through the channel to come, at the fees of the terms, which are unsigned 32-bit
numbers. -/
theorem hopHint_eq_ok_iff {hint : HopHint} :
    terms.hopHint = .ok hint ↔
      ((hint.feeBaseMsat.toNat : Int) = terms.baseFeeMsat.toInt ∧
        (hint.feeProportionalMillionths.toNat : Int) = terms.feeMillionths.toInt) ∧
      hint.nodeId = terms.nodeKey ∧ hint.channelId = hintChannelId ∧
      hint.cltvExpiryDelta = terms.timeLockDelta := by
  simp only [← toWord32?_eq_some_iff]
  obtain ⟨nodeId, channelId, base, rate, delta⟩ := hint
  unfold Terms.hopHint
  split
  · next h => simp [h]
  · next h =>
    split
    · next h' => simp [h']
    · next h' =>
      simp only [h, h', Except.ok.injEq, HopHint.mk.injEq, Option.some.injEq]
      grind

theorem isWord32_of_hopHint {hint : HopHint} (h : terms.hopHint = .ok hint) :
    IsWord32 terms.baseFeeMsat ∧ IsWord32 terms.feeMillionths := by
  obtain ⟨⟨hbase, hrate⟩, -⟩ := hopHint_eq_ok_iff.1 h
  have hbaseBound := hint.feeBaseMsat.toNat_lt_size
  have hrateBound := hint.feeProportionalMillionths.toNat_lt_size
  exact ⟨⟨by omega, by omega⟩, ⟨by omega, by omega⟩⟩

namespace Registration

/-! ## The parts of a registration -/

/-- What a registration settles before it asks for invoices. -/
structure Quote where
  preimage : Bytes
  incomingMsat : Int64
  outgoingMsat : Int64
  hint : HopHint

/-- Settles a registration, unless a channel can receive the amount. -/
def quoteOf (terms : Terms) (amountSat : Int64) : Action ClientError Quote := do
  let channels ← Action.node .listChannels
  requireNewChannel channels amountSat
  let preimage ← Action.ask (.freshBytes 32)
  let incomingMsat ← toMsat amountSat
  let outgoingMsat ← toMsat (amountSat - terms.serviceFeeSat amountSat)
  let hint ← terms.hopHint
  return ⟨preimage.val, incomingMsat, outgoingMsat, hint⟩

/-- The invoice that the node keeps, for what the provider forwards. -/
def Quote.keptInvoice (quote : Quote) (terms : Terms) (amountSat : Int64) (memo : String) :
    InvoiceRequest where
  amountSat := amountSat - terms.serviceFeeSat amountSat
  preimage := quote.preimage
  memo
  routeHint := some quote.hint
  paymentAddress := none
  mode := .register

/-- The invoice for the payer, at the address of the one that the node keeps. -/
def Quote.payerInvoice (quote : Quote) (amountSat : Int64) (memo : String) (kept : AddedInvoice) :
    InvoiceRequest where
  amountSat
  preimage := quote.preimage
  memo
  routeHint := some quote.hint
  paymentAddress := some kept.paymentAddress
  mode := .createOnly

/-- What the provider is told. -/
def Quote.information (quote : Quote) (nodeId : Bytes) (kept forPayer : AddedInvoice) :
    Wire.PaymentInformation where
  paymentHash := forPayer.paymentHash
  paymentSecret := kept.paymentAddress
  destination := nodeId
  incomingAmountMsat := quote.incomingMsat
  outgoingAmountMsat := quote.outgoingMsat

/-- Has the node make both invoices. -/
def invoicesFor (terms : Terms) (amountSat : Int64) (memo : String) (quote : Quote) :
    Action ClientError (AddedInvoice × AddedInvoice) := do
  let kept ← Action.node (.addInvoice (quote.keptInvoice terms amountSat memo))
  let forPayer ← Action.node (.addInvoice (quote.payerInvoice amountSat memo kept))
  return (kept, forPayer)

/-- Seals what the provider is told. -/
def sealInformation (terms : Terms) (information : Wire.PaymentInformation) :
    Action ClientError Wire.Encrypted := do
  let providerKey ← parsePublicKey terms.providerKey
  sealFresh providerKey information

/-- Tells the provider, if the invoices share their address. -/
def announce (terms : Terms) (nodeId : Bytes) (quote : Quote) (kept forPayer : AddedInvoice) :
    Action ClientError String := do
  if forPayer.paymentAddress ≠ kept.paymentAddress then throw .paymentAddressMismatch
  let envelope ← sealInformation terms (quote.information nodeId kept forPayer)
  let _ ← Action.provider (.registerPayment ⟨"", envelope.data⟩)
  return forPayer.paymentRequest

/-- What comes after the quote. -/
def afterQuote (terms : Terms) (nodeId : Bytes) (amountSat : Int64) (memo : String)
    (quote : Quote) :
    Action ClientError String := do
  let (kept, forPayer) ← invoicesFor terms amountSat memo quote
  announce terms nodeId quote kept forPayer

theorem registerPayment_eq (terms : Terms) (nodeId : Bytes) (amountSat : Int64) (memo : String) :
    registerPayment terms nodeId amountSat memo =
      quoteOf terms amountSat >>= afterQuote terms nodeId amountSat memo := by
  unfold registerPayment quoteOf afterQuote invoicesFor announce sealInformation
  simp only [LawfulMonad.bind_assoc, pure_bind, Quote.keptInvoice, Quote.payerInvoice,
    Quote.information]

variable {quote : Quote} {kept forPayer : AddedInvoice}

/-! ## The quote -/

/-- The transcript is that of a registration with this quote. -/
structure Quoted (terms : Terms) (amountSat : Int64) (log : Transcript Collaborators)
    (quote : Quote) : Prop where
  transcript : ∃ channels preimage,
    log = [⟨.node .listChannels, some (.ok channels)⟩, ⟨.freshBytes 32, some preimage⟩] ∧
      quote.preimage = preimage.val ∧ ∀ channel ∈ channels, channel.receivable < amountSat
  amount_pos : 0 < amountSat
  incoming_eq : Word.IsInt64 (1000 * amountSat.toInt) ∧
    quote.incomingMsat.toInt = 1000 * amountSat.toInt
  outgoing_eq :
    Word.IsInt64 (1000 * (amountSat.toInt - (terms.serviceFeeSat amountSat).toInt)) ∧
      quote.outgoingMsat.toInt = 1000 * (amountSat.toInt - (terms.serviceFeeSat amountSat).toInt)
  hint_eq : terms.hopHint = .ok quote.hint

/-- A registration is settled exactly with these transcripts. -/
theorem runs_quoteOf_ok_iff :
    Runs (quoteOf terms amountSat).run log (some (.ok quote)) ↔
      Quoted terms amountSat log quote := by
  constructor
  · intro h
    unfold quoteOf at h
    obtain ⟨channels, log₁, rfl, hnew⟩ := Action.runs_node_bind_ok h
    obtain ⟨⟨⟩, hchannels, hdraw⟩ := Action.runs_ofExcept_bind_ok hnew
    obtain ⟨preimage, log₂, rfl, hincoming⟩ := Action.runs_ask_bind_ok hdraw
    obtain ⟨incomingMsat, hin, houtgoing⟩ := Action.runs_ofExcept_mapError_bind_ok hincoming
    obtain ⟨outgoingMsat, hout, hhint⟩ := Action.runs_ofExcept_mapError_bind_ok houtgoing
    obtain ⟨hint, hterms, hend⟩ := Action.runs_ofExcept_mapError_bind_ok hhint
    obtain ⟨rfl, hquote⟩ := Action.runs_pure_iff.1 hend
    cases hquote
    obtain ⟨hpos, hreceivable⟩ := requireNewChannel_eq_ok_iff.1 hchannels
    have hincoming := toMsat_eq_ok_iff.1 hin
    have houtgoing := toMsat_eq_ok_iff.1 hout
    -- the amount fits in millisatoshis, so taking the fee from it does not wrap
    rw [toInt_sub_serviceFeeSat terms hpos hincoming.1] at houtgoing
    exact ⟨⟨channels, preimage, rfl, rfl, hreceivable⟩, hpos, hincoming, houtgoing, hterms⟩
  · rintro ⟨⟨channels, preimage, rfl, hpreimage, hreceivable⟩, hpos, hincoming, houtgoing, hterms⟩
    obtain ⟨_, incomingMsat, outgoingMsat, hint⟩ := quote
    obtain rfl := hpreimage
    rw [← toInt_sub_serviceFeeSat terms hpos hincoming.1] at houtgoing
    unfold quoteOf
    refine .answered ?_
    refine Action.runs_ofExcept_bind (requireNewChannel_eq_ok_iff.2 ⟨hpos, hreceivable⟩) ?_
    refine .answered ?_
    refine Action.runs_ofExcept_mapError_bind (toMsat_eq_ok_iff.2 hincoming) ?_
    refine Action.runs_ofExcept_mapError_bind (toMsat_eq_ok_iff.2 houtgoing) ?_
    refine Action.runs_ofExcept_mapError_bind hterms ?_
    exact .pure _

/-! ## The invoices -/

/-- Is the node asked for an invoice? -/
def asksInvoice : Request → Bool
  | .node (.addInvoice _) => true
  | .node (.addPlainInvoice _ _) => true
  | _ => false

/-- Is the provider asked something? -/
def asksProvider : Request → Bool
  | .provider _ => true
  | _ => false

/-- The calls of the node for invoices. -/
def invoiceCalls (log : Transcript Collaborators) : Transcript Collaborators :=
  log.filter fun e => asksInvoice e.request

/-- The node was asked for two invoices, and made both. -/
def InvoicesMade (log : Transcript Collaborators) (first second : AddedInvoice) : Prop :=
  ∃ r r', invoiceCalls log =
    [⟨.node (.addInvoice r), some (.ok first)⟩, ⟨.node (.addInvoice r'), some (.ok second)⟩]

theorem invoiceCalls_eq_nil (h : ∀ e ∈ log, asksInvoice e.request = false) :
    invoiceCalls log = [] :=
  List.filter_eq_nil_iff.2 fun e he => by simp [h e he]

theorem invoiceCalls_append (log log' : Transcript Collaborators) :
    invoiceCalls (log ++ log') = invoiceCalls log ++ invoiceCalls log' :=
  List.filter_append ..

/-- While a registration is settled, neither an invoice is asked for nor the provider. -/
theorem inOrder_quoteOf : InOrder (fun r => asksInvoice r = false ∧ asksProvider r = false)
    (quoteOf terms amountSat).run := by
  unfold quoteOf
  refine Action.inOrder_bind (Action.inOrder_mapError (Action.inOrder_node ⟨rfl, rfl⟩))
    fun channels => ?_
  refine Action.inOrder_bind (Action.inOrder_ofExcept _) fun _ => ?_
  refine Action.inOrder_bind (Action.inOrder_ask ⟨rfl, rfl⟩) fun preimage => ?_
  refine Action.inOrder_bind (Action.inOrder_ofExcept _) fun incomingMsat => ?_
  refine Action.inOrder_bind (Action.inOrder_ofExcept _) fun outgoingMsat => ?_
  exact Action.inOrder_bind (Action.inOrder_ofExcept _) fun hint => Action.inOrder_pure _

theorem Quoted.quiet (h : Quoted terms amountSat part quote) :
    ∀ e ∈ part, asksInvoice e.request = false ∧ asksProvider e.request = false :=
  inOrder_quoteOf.allowed_of_runs (runs_quoteOf_ok_iff.2 h)

/-- The calls for the invoices of a quote, both of which the node made. -/
def invoiceExchanges (terms : Terms) (amountSat : Int64) (memo : String) (quote : Quote)
    (kept forPayer : AddedInvoice) : Transcript Collaborators :=
  [⟨.node (.addInvoice (quote.keptInvoice terms amountSat memo)), some (.ok kept)⟩,
    ⟨.node (.addInvoice (quote.payerInvoice amountSat memo kept)), some (.ok forPayer)⟩]

/-- Up to its invoices a registration asks the provider nothing. -/
theorem Quoted.unannounced (hquote : Quoted terms amountSat part quote)
    (hrest : ∀ e ∈ rest, asksProvider e.request = false) :
    ∀ e ∈ part ++ (invoiceExchanges terms amountSat memo quote kept forPayer ++ rest),
      asksProvider e.request = false := by
  have hinvoices : ∀ e ∈ invoiceExchanges terms amountSat memo quote kept forPayer,
      asksProvider e.request = false :=
    List.forall_mem_cons.2 ⟨rfl, List.forall_mem_singleton.2 rfl⟩
  rw [List.forall_mem_append, List.forall_mem_append]
  exact ⟨fun e he => (hquote.quiet e he).2, hinvoices, hrest⟩

theorem runs_invoicesFor_ok_iff :
    Runs (invoicesFor terms amountSat memo quote).run log (some (.ok (kept, forPayer))) ↔
      log = invoiceExchanges terms amountSat memo quote kept forPayer := by
  constructor
  · intro h
    obtain ⟨kept, log₁, rfl, hpayer⟩ := Action.runs_node_bind_ok h
    obtain ⟨forPayer, log₂, rfl, hend⟩ := Action.runs_node_bind_ok hpayer
    obtain ⟨rfl, hmade⟩ := Action.runs_pure_iff.1 hend
    cases hmade
    rfl
  · rintro rfl
    exact .answered (.answered (.pure _))

/-- Both invoices of a quote are made only in a run that gives them. -/
theorem not_invoicesMade {result : Option (Except ClientError (AddedInvoice × AddedInvoice))}
    (h : Runs (invoicesFor terms amountSat memo quote).run log result)
    (hvalue : ∀ made, result ≠ some (.ok made)) (first second : AddedInvoice) :
    ¬InvoicesMade log first second := by
  rintro ⟨r, r', hcalls⟩
  rcases Action.runs_node_bind_cases h with ⟨kept, log₁, rfl, hpayer⟩ | ⟨reply, rfl, -, -⟩
  · rcases Action.runs_node_bind_cases hpayer with
      ⟨forPayer, log₂, rfl, hend⟩ | ⟨reply, rfl, hreply, -⟩
    · exact absurd (Action.runs_pure_iff.1 hend).2 (hvalue _)
    · cases hcalls
      exact hreply second rfl
  · cases hcalls

theorem inOrder_invoicesFor :
    InOrder (fun r => asksProvider r = false) (invoicesFor terms amountSat memo quote).run := by
  unfold invoicesFor
  refine Action.inOrder_bind (Action.inOrder_mapError (Action.inOrder_node rfl)) fun kept => ?_
  refine Action.inOrder_bind (Action.inOrder_mapError (Action.inOrder_node rfl)) fun forPayer => ?_
  exact Action.inOrder_pure _

/-! ## The announcement -/

/-- How a registration ends with what the provider answers. -/
def registeredResult (forPayer : AddedInvoice) :
    Option (Except Fault Wire.EmptyReply) → Option (Except ClientError String)
  | none => none
  | some (.error cause) => some (.error (.fault cause))
  | some (.ok _) => some (.ok forPayer.paymentRequest)

/-- The transcript is that of the sealing of this message to the provider. -/
def Sealed (terms : Terms) (information : Wire.PaymentInformation) (log : Transcript Collaborators)
    (envelope : Wire.Encrypted) : Prop :=
  ∃ providerKey ephemeral nonce, parsePublicKey terms.providerKey = .ok providerKey ∧
    log = [⟨.freshKey, some ephemeral⟩, ⟨.freshBytes Envelope.nonceLength, some nonce⟩] ∧
      envelope = sealMessage providerKey ⟨ephemeral, nonce.val⟩ information

theorem runs_sealInformation_ok_iff {information : Wire.PaymentInformation}
    {envelope : Wire.Encrypted} :
    Runs (sealInformation terms information).run log (some (.ok envelope)) ↔
      Sealed terms information log envelope := by
  constructor
  · intro h
    obtain ⟨providerKey, hkey, hseal⟩ := Action.runs_ofExcept_mapError_bind_ok h
    obtain ⟨ephemeral, nonce, rfl, rfl⟩ := runs_sealFresh_ok hseal
    exact ⟨providerKey, ephemeral, nonce, hkey, rfl, rfl⟩
  · rintro ⟨providerKey, ephemeral, nonce, hkey, rfl, rfl⟩
    refine Action.runs_ofExcept_mapError_bind hkey ?_
    exact .answered (.answered (.pure _))

/-- The holder of the provider's key reads what was sealed. -/
theorem Sealed.opens {information : Wire.PaymentInformation} {envelope : Wire.Encrypted}
    (h : Sealed terms information log envelope) {secret : SecretKey}
    (hkey : parsePublicKey terms.providerKey = .ok secret.publicKey) :
    openBytes secret envelope.data = .ok (Wire.encode information) ∧
      ((Wire.encode information).length < UInt64.size →
        openMessage Wire.PaymentInformation secret envelope = .ok information) := by
  obtain ⟨providerKey, ephemeral, nonce, hprovider, -, rfl⟩ := h
  obtain rfl := Except.ok.inj (hprovider.symm.trans hkey)
  exact ⟨openBytes_sealBytes secret nonce.2 _,
    openMessage_sealMessage_of_doubleFree secret nonce.2 (by decide) (by decide)⟩

theorem inOrder_sealInformation {information : Wire.PaymentInformation} :
    InOrder (fun r => asksInvoice r = false ∧ asksProvider r = false)
      (sealInformation terms information).run :=
  Action.inOrder_bind (Action.inOrder_ofExcept _) fun _ =>
    inOrder_sealFresh ⟨rfl, rfl⟩ fun _ => ⟨rfl, rfl⟩

/-- Invoices with different addresses are not announced. -/
theorem announce_eq_throw (hne : forPayer.paymentAddress ≠ kept.paymentAddress) :
    announce terms nodeId quote kept forPayer = throw .paymentAddressMismatch := by
  unfold announce
  rw [if_pos hne]
  rfl

/-- An announcement that does not reach the provider ends without a value. -/
theorem runs_announce_cases {result : Option (Except ClientError String)}
    (h : Runs (announce terms nodeId quote kept forPayer).run log result) :
    (forPayer.paymentAddress = kept.paymentAddress ∧ ∃ part envelope reply,
      Sealed terms (quote.information nodeId kept forPayer) part envelope ∧
      log = part ++ [⟨.provider (.registerPayment ⟨"", envelope.data⟩), reply⟩] ∧
      result = registeredResult forPayer reply) ∨
    ((∀ invoice, result ≠ some (.ok invoice)) ∧ ∀ e ∈ log, asksProvider e.request = false) := by
  by_cases haddress : forPayer.paymentAddress = kept.paymentAddress
  · unfold announce at h
    rw [if_neg (not_not.2 haddress)] at h
    rcases Action.runs_bind_cases h with
      ⟨envelope, part, rest, rfl, hseal, hcall⟩ | ⟨error, herror, rfl⟩ | ⟨hcrash, rfl⟩
    · refine Or.inl ⟨haddress, part, envelope, ?_⟩
      rcases Runs.ask_cases hcall with ⟨reply, log₁, rfl, hend⟩ | ⟨rfl, rfl⟩
      · refine ⟨some reply, runs_sealInformation_ok_iff.1 hseal, ?_⟩
        cases reply <;> obtain ⟨rfl, rfl⟩ := runs_pure_iff.1 hend <;> exact ⟨rfl, rfl⟩
      · exact ⟨none, runs_sealInformation_ok_iff.1 hseal, rfl, rfl⟩
    · exact Or.inr ⟨nofun, fun e he => (inOrder_sealInformation.allowed_of_runs herror e he).2⟩
    · exact Or.inr ⟨nofun, fun e he => (inOrder_sealInformation.allowed_of_runs hcrash e he).2⟩
  · rw [announce_eq_throw haddress] at h
    obtain ⟨rfl, rfl⟩ := Action.runs_throw_iff.1 h
    exact Or.inr ⟨nofun, List.forall_mem_nil _⟩

/-! ## Registrations -/

/-- A run has no value : it ends with an error, or with a collaborator that crashed. -/
def Stopped (log : Transcript Collaborators) (result : Option (Except ClientError String)) : Prop :=
  (∃ error, result = some (.error error)) ∨ (result = none ∧ ∃ e ∈ log, e.reply = none)

variable {result : Option (Except ClientError String)}

theorem stopped_of_runs {x : Action ClientError String} (h : Runs x.run log result)
    (hvalue : ∀ invoice, result ≠ some (.ok invoice)) : Stopped log result := by
  match result with
  | none => exact Or.inr ⟨rfl, h.exists_crash⟩
  | some (.error error) => exact Or.inl ⟨error, rfl⟩
  | some (.ok invoice) => exact absurd rfl (hvalue invoice)

/-- A registration that is not settled asks neither for an invoice nor the provider. -/
theorem runs_registerPayment_cases
    (h : Runs (registerPayment terms nodeId amountSat memo).run log result) :
    ((∀ invoice, result ≠ some (.ok invoice)) ∧
      ∀ e ∈ log, asksInvoice e.request = false ∧ asksProvider e.request = false) ∨
    ∃ part rest quote, log = part ++ rest ∧ Quoted terms amountSat part quote ∧
      Runs (afterQuote terms nodeId amountSat memo quote).run rest result := by
  rw [registerPayment_eq] at h
  rcases Action.runs_bind_cases h with
    ⟨quote, part, rest, rfl, hquote, hrest⟩ | ⟨error, herror, rfl⟩ | ⟨hcrash, rfl⟩
  · exact Or.inr ⟨part, rest, quote, rfl, runs_quoteOf_ok_iff.1 hquote, hrest⟩
  · exact Or.inl ⟨nofun, inOrder_quoteOf.allowed_of_runs herror⟩
  · exact Or.inl ⟨nofun, inOrder_quoteOf.allowed_of_runs hcrash⟩

/-- Without both invoices the provider is told nothing. -/
theorem runs_afterQuote_cases
    (h : Runs (afterQuote terms nodeId amountSat memo quote).run log result) :
    ((∀ invoice, result ≠ some (.ok invoice)) ∧ (∀ e ∈ log, asksProvider e.request = false) ∧
      ∀ first second, ¬InvoicesMade log first second) ∨
    ∃ kept forPayer rest, log = invoiceExchanges terms amountSat memo quote kept forPayer ++ rest ∧
      Runs (announce terms nodeId quote kept forPayer).run rest result := by
  rcases Action.runs_bind_cases h with
    ⟨⟨kept, forPayer⟩, part, rest, rfl, hmade, hrest⟩ | ⟨error, herror, rfl⟩ | ⟨hcrash, rfl⟩
  · exact Or.inr ⟨kept, forPayer, rest, by rw [runs_invoicesFor_ok_iff.1 hmade], hrest⟩
  · exact Or.inl ⟨nofun, inOrder_invoicesFor.allowed_of_runs herror, not_invoicesMade herror nofun⟩
  · exact Or.inl ⟨nofun, inOrder_invoicesFor.allowed_of_runs hcrash, not_invoicesMade hcrash nofun⟩

/-- What the provider is told agrees with the two invoices that were made before, and nothing else
was said to it. -/
structure Agreed (terms : Terms) (nodeId : Bytes) (amountSat : Int64) (memo : String)
    (before : Transcript Collaborators) (request : Wire.RegisterPaymentRequest)
    (kept forPayer : AddedInvoice) : Prop where
  first_word : ∀ e ∈ before, asksProvider e.request = false
  invoices : ∃ preimage hint, preimage.length = 32 ∧ terms.hopHint = .ok hint ∧
    invoiceCalls before =
      [⟨.node (.addInvoice
          { amountSat := amountSat - terms.serviceFeeSat amountSat
            preimage
            memo
            routeHint := some hint
            paymentAddress := none
            mode := .register }), some (.ok kept)⟩,
        ⟨.node (.addInvoice
          { amountSat
            preimage
            memo
            routeHint := some hint
            paymentAddress := some kept.paymentAddress
            mode := .createOnly }), some (.ok forPayer)⟩]
  keptAmount_eq : (amountSat - terms.serviceFeeSat amountSat).toInt =
    amountSat.toInt - (terms.serviceFeeSat amountSat).toInt
  address_eq : forPayer.paymentAddress = kept.paymentAddress
  blob : ∃ information : Wire.PaymentInformation,
    information.paymentSecret = kept.paymentAddress ∧
    information.paymentHash = forPayer.paymentHash ∧
    information.destination = nodeId ∧
    information.incomingAmountMsat.toInt = 1000 * amountSat.toInt ∧
    information.outgoingAmountMsat.toInt =
      information.incomingAmountMsat.toInt - 1000 * (terms.serviceFeeSat amountSat).toInt ∧
    ∀ secret : SecretKey, parsePublicKey terms.providerKey = .ok secret.publicKey →
      openBytes secret request.blob = .ok (Wire.encode information) ∧
        ((Wire.encode information).length < UInt64.size →
          openMessage Wire.PaymentInformation secret ⟨request.blob⟩ = .ok information)

/-- What is announced agrees with the invoices of the quote. -/
theorem Quoted.agreed {drawn : Transcript Collaborators} {envelope : Wire.Encrypted}
    (hquote : Quoted terms amountSat part quote)
    (haddress : forPayer.paymentAddress = kept.paymentAddress)
    (hsealed : Sealed terms (quote.information nodeId kept forPayer) drawn envelope) :
    Agreed terms nodeId amountSat memo
      (part ++ (invoiceExchanges terms amountSat memo quote kept forPayer ++ drawn))
      ⟨"", envelope.data⟩ kept forPayer where
  first_word := by
    have hdrawn := inOrder_sealInformation.allowed_of_runs (runs_sealInformation_ok_iff.2 hsealed)
    exact hquote.unannounced fun e he => (hdrawn e he).2
  invoices := by
    obtain ⟨channels, preimage, rfl, hpreimage, -⟩ := hquote.transcript
    obtain ⟨_, ephemeral, nonce, -, rfl, -⟩ := hsealed
    exact ⟨quote.preimage, quote.hint, hpreimage ▸ preimage.2, hquote.hint_eq, rfl⟩
  keptAmount_eq := toInt_sub_serviceFeeSat terms hquote.amount_pos hquote.incoming_eq.1
  address_eq := haddress
  blob := by
    have hincoming := hquote.incoming_eq.2
    have houtgoing := hquote.outgoing_eq.2
    refine ⟨quote.information nodeId kept forPayer, rfl, rfl, rfl, hincoming, ?_,
      fun secret hkey => hsealed.opens hkey⟩
    rw [Quote.information, hincoming, houtgoing, Int.mul_sub]

/-- A registration ends when the provider is told of it, with its answer, or the provider is told
nothing and there is no invoice for the payer. -/
theorem runs_registerPayment_agreed
    (h : Runs (registerPayment terms nodeId amountSat memo).run log result) :
    (∃ before request kept forPayer reply,
      log = before ++ [⟨.provider (.registerPayment request), reply⟩] ∧
      Agreed terms nodeId amountSat memo before request kept forPayer ∧
      result = registeredResult forPayer reply) ∨
    ((∀ invoice, result ≠ some (.ok invoice)) ∧ ∀ e ∈ log, asksProvider e.request = false) := by
  rcases runs_registerPayment_cases h with
    ⟨hvalue, hquiet⟩ | ⟨part, rest, quote, rfl, hquote, hrest⟩
  · exact Or.inr ⟨hvalue, fun e he => (hquiet e he).2⟩
  rcases runs_afterQuote_cases hrest with ⟨hvalue, hquiet, -⟩ | ⟨kept, forPayer, last, rfl, hlast⟩
  · exact Or.inr ⟨hvalue,
      List.forall_mem_append.2 ⟨fun e he => (hquote.quiet e he).2, hquiet⟩⟩
  rcases runs_announce_cases hlast with
    ⟨haddress, drawn, envelope, reply, hsealed, rfl, hresult⟩ | ⟨hvalue, hquiet⟩
  · exact Or.inl ⟨_, _, kept, forPayer, reply, by simp only [List.append_assoc],
      hquote.agreed haddress hsealed, hresult⟩
  · exact Or.inr ⟨hvalue, hquote.unannounced hquiet⟩

/-- Without a quote no invoice is asked for. -/
theorem stopped_of_not_quoted
    (h : Runs (registerPayment terms nodeId amountSat memo).run log result)
    (hnone : ¬∃ part quote, Quoted terms amountSat part quote) :
    Stopped log result ∧ invoiceCalls log = [] ∧ ∀ e ∈ log, asksProvider e.request = false := by
  rcases runs_registerPayment_cases h with ⟨hvalue, hquiet⟩ | ⟨part, _, quote, -, hquote, -⟩
  · exact ⟨stopped_of_runs h hvalue, invoiceCalls_eq_nil fun e he => (hquiet e he).1,
      fun e he => (hquiet e he).2⟩
  · exact absurd ⟨part, quote, hquote⟩ hnone

/-- Two invoices with different addresses end a registration. -/
theorem mismatch_of_invoicesMade
    (h : Runs (registerPayment terms nodeId amountSat memo).run log result)
    (hmade : InvoicesMade log kept forPayer)
    (hne : kept.paymentAddress ≠ forPayer.paymentAddress) :
    result = some (.error .paymentAddressMismatch) ∧ ∀ e ∈ log, asksProvider e.request = false := by
  rcases runs_registerPayment_cases h with
    ⟨-, hquiet⟩ | ⟨part, rest, quote, rfl, hquote, hrest⟩
  · obtain ⟨r, r', hcalls⟩ := hmade
    rw [invoiceCalls_eq_nil fun e he => (hquiet e he).1] at hcalls
    cases hcalls
  have hcalls : invoiceCalls (part ++ rest) = invoiceCalls rest := by
    rw [invoiceCalls_append, invoiceCalls_eq_nil fun e he => (hquote.quiet e he).1, List.nil_append]
  -- before its end the quote asks for no invoice, so that both are those made for it
  rw [InvoicesMade, hcalls] at hmade
  rcases runs_afterQuote_cases hrest with ⟨-, -, hnot⟩ | ⟨kept', forPayer', last, rfl, hlast⟩
  · exact absurd hmade (hnot kept forPayer)
  obtain ⟨r, r', hcalls⟩ := hmade
  rw [invoiceCalls_append] at hcalls
  generalize invoiceCalls last = calls at hcalls
  cases hcalls
  rw [announce_eq_throw hne.symm] at hlast
  obtain ⟨rfl, rfl⟩ := Action.runs_throw_iff.1 hlast
  exact ⟨rfl, hquote.unannounced (List.forall_mem_nil _)⟩

/-- Is the error that a channel can receive the amount? -/
def IsRefusal : ClientError → Prop
  | .alreadyReceivable _ _ => True
  | _ => False

/-- A registration starts by listing the channels. If it has them, the gate decides whether it ends
there; whatever fails without the list or behind the gate is no refusal. -/
theorem runs_registerPayment_gate
    (h : Runs (registerPayment terms nodeId amountSat memo).run log result) :
    ∃ reply rest, log = ⟨.node .listChannels, reply⟩ :: rest ∧
      match reply with
      | some (.ok channels) =>
        if amountSat ≤ receivableMax channels then
          rest = [] ∧ result = some (.error (.alreadyReceivable (receivableMax channels) amountSat))
        else ∀ e, result = some (.error e) → ¬IsRefusal e
      | _ => ∀ e, result = some (.error e) → ¬IsRefusal e := by
  unfold registerPayment at h
  obtain ⟨reply, rest, rfl, hreply⟩ := Action.runs_node_bind_replied h
  refine ⟨reply, rest, rfl, ?_⟩
  match reply, hreply with
  | none, ⟨_, hresult⟩ =>
    subst hresult
    exact nofun
  | some (.error cause), ⟨_, hresult⟩ =>
    subst hresult
    rintro e he
    cases he
    exact id
  | some (.ok channels), hgate =>
    dsimp only
    split_ifs with hrefused
    · exact Action.runs_ofExcept_bind_error (if_pos hrefused) hgate
    · rintro e rfl
      -- whatever fails behind the gate is a fault, an error of sealing or a mismatch of addresses
      have hpassed : Action.FailsOnly (fun e => ¬IsRefusal e)
          (Action.ofExcept (requireNewChannel channels amountSat)) :=
        Action.failsOnly_ofExcept fun e he => by
          rw [requireNewChannel, if_neg hrefused] at he
          cases he
      refine Action.failsOnly_bind hpassed (fun _ => ?_) _ e hgate
      refine Action.failsOnly_bind (Action.failsOnly_ask _) fun preimage => ?_
      refine Action.failsOnly_bind (Action.failsOnly_ofExcept_mapError fun _ => id) fun inMsat => ?_
      refine Action.failsOnly_bind (Action.failsOnly_ofExcept_mapError fun _ => id)
        fun outMsat => ?_
      refine Action.failsOnly_bind (Action.failsOnly_ofExcept_mapError fun _ => id) fun hint => ?_
      refine Action.failsOnly_bind (Action.failsOnly_mapError fun _ => id) fun kept => ?_
      refine Action.failsOnly_bind (Action.failsOnly_mapError fun _ => id) fun forPayer => ?_
      split_ifs
      · exact Action.failsOnly_throw (show ¬IsRefusal .paymentAddressMismatch from id)
      · refine Action.failsOnly_bind (Action.failsOnly_ofExcept_mapError fun _ => id) fun key => ?_
        refine Action.failsOnly_bind failsOnly_sealFresh fun envelope => ?_
        refine Action.failsOnly_bind (Action.failsOnly_mapError fun _ => id) fun _ => ?_
        exact Action.failsOnly_pure _

/-- An amount that a channel can receive ends a registration. -/
theorem runs_registerPayment_of_receivable {channels : List Channel}
    (h : Runs (registerPayment terms nodeId amountSat memo).run
      ([⟨.node .listChannels, some (.ok channels)⟩] ++ rest) result)
    (hreceivable : ∃ channel ∈ channels, amountSat ≤ channel.receivable) :
    rest = [] ∧
      result = some (.error (.alreadyReceivable (receivableMax channels) amountSat)) := by
  obtain ⟨_, _, hlog, hgate⟩ := runs_registerPayment_gate h
  cases hlog
  dsimp only at hgate
  rwa [if_pos (le_receivableMax_iff.2 (Or.inr hreceivable))] at hgate

/-- Invoices of one quote that share their address are announced, if the provider's key is one. -/
theorem runs_registerPayment_of_sealed {drawn : Transcript Collaborators}
    {envelope : Wire.Encrypted}
    (hquote : Quoted terms amountSat part quote)
    (haddress : forPayer.paymentAddress = kept.paymentAddress)
    (hsealed : Sealed terms (quote.information nodeId kept forPayer) drawn envelope)
    (reply : Option (Except Fault Wire.EmptyReply)) :
    Runs (registerPayment terms nodeId amountSat memo).run
      (part ++ (invoiceExchanges terms amountSat memo quote kept forPayer ++ (drawn ++
        [⟨.provider (.registerPayment ⟨"", envelope.data⟩), reply⟩])))
      (registeredResult forPayer reply) := by
  rw [registerPayment_eq]
  refine (runs_quoteOf_ok_iff.2 hquote).bind ?_
  refine (runs_invoicesFor_ok_iff.2 rfl).bind ?_
  have hannounce : Runs (announce terms nodeId quote kept forPayer).run
      (drawn ++ [⟨.provider (.registerPayment ⟨"", envelope.data⟩), reply⟩])
      (registeredResult forPayer reply) := by
    unfold announce
    rw [if_neg (not_not.2 haddress)]
    refine (runs_sealInformation_ok_iff.2 hsealed).bind ?_
    match reply with
    | none => exact .crashed
    | some (.error cause) => exact .answered (.pure _)
    | some (.ok accepted) => exact .answered (.pure _)
  exact hannounce

/-- Whenever the provider is told of a payment, the node has made two invoices of one preimage, memo
and hint before, at one address, and what the provider can open agrees with them. No invoice is
asked for if a channel can receive the amount, if an amount overflows or if the terms have no hint.
The provider is told nothing of invoices with different addresses. The payer's invoice is given only
when the provider has accepted. -/
theorem registerPayment_consistent {σ : Type}
    (answer : (r : Request) → σ → Option r.Reply × σ) (state : σ) (terms : Terms) (nodeId : Bytes)
    (amountSat : Int64) (memo : String) :
    let (result, log) := record answer (registerPayment terms nodeId amountSat memo).run state
    let feeSat := (terms.serviceFeeSat amountSat).toInt
    (∀ request reply, ⟨.provider (.registerPayment request), reply⟩ ∈ log →
      ∃ before kept forPayer,
        log = before ++ [⟨.provider (.registerPayment request), reply⟩] ∧
        Agreed terms nodeId amountSat memo before request kept forPayer ∧
        result = registeredResult forPayer reply) ∧
    (∀ channels, [⟨.node .listChannels, some (.ok channels)⟩] <+: log →
      (∃ channel ∈ channels, amountSat ≤ channel.receivable) →
        log = [⟨.node .listChannels, some (.ok channels)⟩] ∧
        result = some (.error (.alreadyReceivable (receivableMax channels) amountSat))) ∧
    (¬Word.IsInt64 (1000 * amountSat.toInt) ∨ ¬Word.IsInt64 (1000 * (amountSat.toInt - feeSat)) ∨
        ¬IsWord32 terms.baseFeeMsat ∨ ¬IsWord32 terms.feeMillionths →
      Stopped log result ∧ invoiceCalls log = [] ∧ ∀ e ∈ log, asksProvider e.request = false) ∧
    (∀ kept forPayer, InvoicesMade log kept forPayer →
      kept.paymentAddress ≠ forPayer.paymentAddress →
        result = some (.error .paymentAddressMismatch) ∧
        ∀ e ∈ log, asksProvider e.request = false) ∧
    ∀ invoice, result = some (.ok invoice) →
      ∃ before request kept forPayer accepted,
        log = before ++ [⟨.provider (.registerPayment request), some (.ok accepted)⟩] ∧
        Agreed terms nodeId amountSat memo before request kept forPayer ∧
        invoice = forPayer.paymentRequest := by
  have hrun := runs_record answer (registerPayment terms nodeId amountSat memo).run state
  generalize record answer (registerPayment terms nodeId amountSat memo).run state =
    recorded at hrun ⊢
  obtain ⟨result, log⟩ := recorded
  dsimp only at hrun ⊢
  refine ⟨fun request reply hmem => ?_, ?_, fun hunfit => ?_,
    fun kept forPayer hmade hne => mismatch_of_invoicesMade hrun hmade hne, ?_⟩
  · rcases runs_registerPayment_agreed hrun with
      ⟨before, told, kept, forPayer, answered, rfl, hagreed, hresult⟩ | ⟨-, hquiet⟩
    · rcases List.mem_append.1 hmem with hbefore | hlast
      · cases hagreed.first_word _ hbefore
      · cases List.mem_singleton.1 hlast
        exact ⟨before, kept, forPayer, rfl, hagreed, hresult⟩
    · cases hquiet _ hmem
  · rintro channels ⟨rest, rfl⟩ hreceivable
    obtain ⟨rfl, hresult⟩ := runs_registerPayment_of_receivable hrun hreceivable
    exact ⟨List.append_nil _, hresult⟩
  · refine stopped_of_not_quoted hrun ?_
    rintro ⟨part, quote, hquote⟩
    obtain ⟨hbase, hrate⟩ := isWord32_of_hopHint hquote.hint_eq
    rcases hunfit with hnot | hnot | hnot | hnot
    · exact hnot hquote.incoming_eq.1
    · exact hnot hquote.outgoing_eq.1
    · exact hnot hbase
    · exact hnot hrate
  · rintro invoice rfl
    rcases runs_registerPayment_agreed hrun with
      ⟨before, request, kept, forPayer, reply, rfl, hagreed, hresult⟩ | ⟨hvalue, -⟩
    · match reply, hresult with
      | some (.ok accepted), hresult =>
        cases hresult
        exact ⟨before, request, kept, forPayer, accepted, rfl, hagreed, rfl⟩
    · exact absurd rfl (hvalue invoice)

/-- Terms with a fee of two satoshis. -/
def paidTerms : Terms :=
  { unitTerms with minimumFeeMsat := 2000 }

/-- The quote for five satoshis on these terms. -/
def paidQuote : Quote :=
  ⟨Bytes.repeated 32 7, 5000, 3000, ⟨"02", hintChannelId, 0, 0, 40⟩⟩

/-- An invoice that the node makes for it. -/
def paidInvoice (paymentRequest : String) : AddedInvoice :=
  ⟨paymentRequest, [1], [2]⟩

/-- What the provider is told of two such invoices. -/
def paidInformation : Wire.PaymentInformation :=
  paidQuote.information [] (paidInvoice "kept") (paidInvoice "invoice")

/-- A registration with this quote that the provider accepts. -/
def acceptedLog : Transcript Collaborators :=
  let drawn := sevenfold paidInformation
  let envelope :=
    sealMessage ⟨Secp256k1.generator⟩ ⟨drawn.ephemeral, drawn.nonce.val⟩ paidInformation
  [⟨.node .listChannels, some (.ok [])⟩,
      ⟨.freshBytes 32, some ⟨Bytes.repeated 32 7, List.length_replicate⟩⟩] ++
    (invoiceExchanges paidTerms 5 "" paidQuote (paidInvoice "kept") (paidInvoice "invoice") ++
      ([⟨.freshKey, some drawn.ephemeral⟩,
          ⟨.freshBytes Envelope.nonceLength, some drawn.nonce⟩] ++
        [⟨.provider (.registerPayment ⟨"", envelope.data⟩), some (.ok {})⟩]))

/-- The provider accepts a registration of five satoshis at a fee of two, and the payer's invoice is
given. -/
theorem registerPayment_consistent_accepted :
    let (result, log) := record (I := Collaborators) replayed
      (registerPayment paidTerms [] 5 "").run acceptedLog
    result = some (.ok "invoice") ∧ ∃ before request kept forPayer accepted,
      log = before ++ [⟨.provider (.registerPayment request), some (.ok accepted)⟩] ∧
      Agreed paidTerms [] 5 "" before request kept forPayer ∧
      "invoice" = forPayer.paymentRequest := by
  have hquote : Quoted paidTerms 5 (acceptedLog.take 2) paidQuote :=
    ⟨⟨[], _, rfl, rfl, List.forall_mem_nil _⟩, by decide, by decide, by decide, by decide⟩
  have hsealed : Sealed paidTerms paidInformation _ _ :=
    ⟨_, (sevenfold paidInformation).ephemeral, (sevenfold paidInformation).nonce,
      parsePublicKey_unitKey, rfl, rfl⟩
  have haddress : (paidInvoice "invoice").paymentAddress = (paidInvoice "kept").paymentAddress :=
    rfl
  have hrun : Runs (registerPayment paidTerms [] 5 "").run acceptedLog (some (.ok "invoice")) :=
    runs_registerPayment_of_sealed hquote haddress hsealed (some (.ok {}))
  generalize acceptedLog = log at hrun ⊢
  have hconsistent :=
    registerPayment_consistent (replayed (I := Collaborators)) log paidTerms [] 5 ""
  rw [hrun.record_replayed] at hconsistent ⊢
  exact ⟨rfl, hconsistent.2.2.2.2 "invoice" rfl⟩

end Registration

end LiquidityClient
