import LiquidityClient.Proofs.PaymentRegistration

/-!
# Amounts of registered payments

The receiver of a registered payment gets its amount less the service fee. A registration asks for
invoices exactly if the amount is positive, no amount overflows and the terms have a hint
(`Quotable`, `quotable_iff`), however large the fee is. So it leaves the receiver something
(`LeavesSomething`) exactly where the fee is less than the amount, and otherwise it has the node
make an invoice for zero or for a negative amount (`registerPayment_leaves_iff`).
-/

namespace LiquidityClient

open Program

variable {terms : Terms} {nodeId : Bytes} {amountSat : Int64} {memo : String}
  {log part : Transcript Collaborators}

/-! ## The fee -/

/-- The service fee is not negative if its minimum is not. -/
theorem serviceFeeSat_nonneg (amountSat : Int64) (hminimum : 0 ≤ terms.minimumFeeMsat.toInt) :
    0 ≤ (terms.serviceFeeSat amountSat).toInt := by
  unfold Terms.serviceFeeSat
  dsimp only
  generalize (Int.bmod _ _).tdiv 10000 = shareMsat
  split_ifs with hfits
  · rw [Int64.toInt_ofInt_of_le hfits.1 hfits.2]
    exact Int.tdiv_nonneg (le_max_of_le_right hminimum) (by decide)
  · decide

namespace Registration

/-! ## Amounts with a quote -/

/-- A registration of this amount can be settled : no number is out of its range. -/
structure Quotable (terms : Terms) (amountSat : Int64) : Prop where
  amount_pos : 0 < amountSat.toInt
  incoming_fits : Word.IsInt64 (1000 * amountSat.toInt)
  outgoing_fits : Word.IsInt64 (1000 * (amountSat.toInt - (terms.serviceFeeSat amountSat).toInt))
  baseFee_fits : IsWord32 terms.baseFeeMsat
  feeRate_fits : IsWord32 terms.feeMillionths

theorem Quoted.quotable {quote : Quote} (h : Quoted terms amountSat part quote) :
    Quotable terms amountSat where
  amount_pos := Int64.lt_iff_toInt_lt.1 h.amount_pos
  incoming_fits := h.incoming_eq.1
  outgoing_fits := h.outgoing_eq.1
  baseFee_fits := (isWord32_of_hopHint h.hint_eq).1
  feeRate_fits := (isWord32_of_hopHint h.hint_eq).2

theorem exists_hopHint (hbase : IsWord32 terms.baseFeeMsat) (hrate : IsWord32 terms.feeMillionths) :
    ∃ hint, terms.hopHint = .ok hint := by
  have hword : ∀ {n : Int64},
      IsWord32 n → ((UInt32.ofNat n.toInt.toNat).toNat : Int) = n.toInt := by
    rintro n ⟨hnonneg, hlt⟩
    rw [UInt32.toNat_ofNat']
    simp only [UInt32.size] at hlt
    omega
  exact ⟨⟨terms.nodeKey, hintChannelId, _, _, terms.timeLockDelta⟩,
    hopHint_eq_ok_iff.2 ⟨⟨hword hbase, hword hrate⟩, rfl, rfl, rfl⟩⟩

/-- The first exchanges of a registration with a node that has no channel. -/
def openingExchanges : Transcript Collaborators :=
  [⟨.node .listChannels, some (.ok [])⟩,
    ⟨.freshBytes 32, some ⟨Bytes.repeated 32 0, by decide⟩⟩]

/-- A node without channels has every amount settled that can be. -/
theorem Quotable.quoted (h : Quotable terms amountSat) :
    ∃ quote, Quoted terms amountSat openingExchanges quote := by
  obtain ⟨hint, hhint⟩ := exists_hopHint h.baseFee_fits h.feeRate_fits
  refine ⟨⟨Bytes.repeated 32 0, Int64.ofInt (1000 * amountSat.toInt),
    Int64.ofInt (1000 * (amountSat.toInt - (terms.serviceFeeSat amountSat).toInt)), hint⟩,
    ⟨[], _, rfl, rfl, nofun⟩, Int64.lt_iff_toInt_lt.2 h.amount_pos, ⟨h.incoming_fits, ?_⟩,
    ⟨h.outgoing_fits, ?_⟩, hhint⟩
  · exact Int64.toInt_ofInt_of_le h.incoming_fits.1 h.incoming_fits.2
  · exact Int64.toInt_ofInt_of_le h.outgoing_fits.1 h.outgoing_fits.2

theorem quotable_iff :
    Quotable terms amountSat ↔ ∃ part quote, Quoted terms amountSat part quote := by
  constructor
  · intro h
    exact ⟨_, h.quoted⟩
  · rintro ⟨part, quote, h⟩
    exact h.quotable

/-! ## The amounts of a run -/

/-- If an invoice is asked for, it is one for what is left of the amount, or the payer's for all of
it. -/
def AsksForAmount (terms : Terms) (amountSat : Int64) : Request → Prop
  | .node (.addInvoice r) =>
    (r.mode = .register ∧ r.amountSat = amountSat - terms.serviceFeeSat amountSat) ∨
      (r.mode = .createOnly ∧ r.amountSat = amountSat)
  | .node (.addPlainInvoice _ _) => False
  | _ => True

theorem asksForAmount_of_quiet {r : Request} (h : asksInvoice r = false ∧ asksProvider r = false) :
    AsksForAmount terms amountSat r := by
  unfold AsksForAmount
  split
  · cases h.1
  · cases h.1
  · trivial

theorem inOrder_announce {quote : Quote} {kept forPayer : AddedInvoice} :
    InOrder (AsksForAmount terms amountSat) (announce terms nodeId quote kept forPayer).run := by
  unfold announce
  split_ifs
  · exact Action.inOrder_throw _
  · refine Action.inOrder_bind (inOrder_sealInformation.mono fun _ => asksForAmount_of_quiet)
      fun envelope => ?_
    exact Action.inOrder_bind (Action.inOrder_mapError (Action.inOrder_provider trivial))
      fun _ => Action.inOrder_pure _

theorem inOrder_registerPayment (terms : Terms) (nodeId : Bytes) (amountSat : Int64)
    (memo : String) :
    InOrder (AsksForAmount terms amountSat) (registerPayment terms nodeId amountSat memo).run := by
  rw [registerPayment_eq]
  refine Action.inOrder_bind (inOrder_quoteOf.mono fun _ => asksForAmount_of_quiet) fun quote => ?_
  refine Action.inOrder_bind ?_ fun made => inOrder_announce
  refine Action.inOrder_bind (Action.inOrder_mapError (Action.inOrder_node (.inl ⟨rfl, rfl⟩)))
    fun kept => ?_
  exact Action.inOrder_bind (Action.inOrder_mapError (Action.inOrder_node (.inr ⟨rfl, rfl⟩)))
    fun forPayer => Action.inOrder_pure _

variable {result : Option (Except ClientError String)}

/-- Invoices are asked for only if there is a quote, and the one that the node keeps is for what the
fee leaves of the amount. -/
theorem addInvoice_of_runs {r : InvoiceRequest} {reply : Option (Except Fault AddedInvoice)}
    (h : Runs (registerPayment terms nodeId amountSat memo).run log result)
    (hmem : ⟨.node (.addInvoice r), reply⟩ ∈ log) :
    Quotable terms amountSat ∧ (r.mode = .register →
      r.amountSat.toInt = amountSat.toInt - (terms.serviceFeeSat amountSat).toInt) := by
  have hquotable : Quotable terms amountSat := by
    by_contra hnot
    obtain ⟨-, hcalls, -⟩ := stopped_of_not_quoted h (mt quotable_iff.2 hnot)
    have hasks := List.filter_eq_nil_iff.1 hcalls _ hmem
    exact hasks rfl
  refine ⟨hquotable, fun hmode => ?_⟩
  rcases (inOrder_registerPayment terms nodeId amountSat memo).allowed_of_runs h _ hmem with
    ⟨-, hamount⟩ | ⟨hpayer, -⟩
  · rw [hamount]
    exact toInt_sub_serviceFeeSat terms (Int64.lt_iff_toInt_lt.2 hquotable.amount_pos)
      hquotable.incoming_fits
  · cases hmode.symm.trans hpayer

/-- A quote leads to an invoice for what the fee leaves of the amount. -/
theorem Quotable.exists_runs (h : Quotable terms amountSat) (nodeId : Bytes) (memo : String) :
    ∃ r, r.mode = .register ∧
      r.amountSat.toInt = amountSat.toInt - (terms.serviceFeeSat amountSat).toInt ∧
      Runs (registerPayment terms nodeId amountSat memo).run
        (openingExchanges ++ [⟨.node (.addInvoice r), none⟩]) none := by
  obtain ⟨quote, hquote⟩ := h.quoted
  refine ⟨quote.keptInvoice terms amountSat memo, rfl, ?_, ?_⟩
  · exact toInt_sub_serviceFeeSat terms (Int64.lt_iff_toInt_lt.2 h.amount_pos) h.incoming_fits
  · rw [registerPayment_eq]
    exact (runs_quoteOf_ok_iff.2 hquote).bind .crashed

/-! ## What is left -/

/-- Something is left for the receiver : the invoice that the node keeps, and what the provider is
told to forward, are for a positive amount that is at most the payer's. -/
structure LeavesSomething (terms : Terms) (amountSat : Int64) (log : Transcript Collaborators) :
    Prop where
  invoices : ∀ r reply, ⟨.node (.addInvoice r), reply⟩ ∈ log → r.mode = .register →
    0 < r.amountSat.toInt ∧ r.amountSat.toInt ≤ amountSat.toInt
  announced : ∀ request reply, ⟨.provider (.registerPayment request), reply⟩ ∈ log →
    ∃ information : Wire.PaymentInformation,
      0 < information.outgoingAmountMsat.toInt ∧
      information.outgoingAmountMsat.toInt ≤ information.incomingAmountMsat.toInt ∧
      ∀ secret : SecretKey, parsePublicKey terms.providerKey = .ok secret.publicKey →
        openBytes secret request.blob = .ok (Wire.encode information)

theorem leavesSomething_of_runs (hminimum : 0 ≤ terms.minimumFeeMsat.toInt)
    (hfee : Quotable terms amountSat → (terms.serviceFeeSat amountSat).toInt < amountSat.toInt)
    (h : Runs (registerPayment terms nodeId amountSat memo).run log result) :
    LeavesSomething terms amountSat log := by
  have hnonneg := serviceFeeSat_nonneg amountSat hminimum
  constructor
  · intro r reply hmem hmode
    obtain ⟨hquotable, hamount⟩ := addInvoice_of_runs h hmem
    have hless := hfee hquotable
    have heq := hamount hmode
    omega
  · intro request reply hmem
    rcases runs_registerPayment_agreed h with
      ⟨before, told, kept, forPayer, answered, rfl, hagreed, -⟩ | ⟨-, hquiet⟩
    · rcases List.mem_append.1 hmem with hbefore | hlast
      · cases hagreed.first_word _ hbefore
      · cases List.mem_singleton.1 hlast
        obtain ⟨_, _, -, -, hcalls⟩ := hagreed.invoices
        have hmade := List.mem_of_mem_filter (hcalls ▸ List.mem_cons_self)
        have hless := hfee (addInvoice_of_runs h (List.mem_append_left _ hmade)).1
        obtain ⟨information, -, -, -, hin, hout, hopen⟩ := hagreed.blob
        exact ⟨information, by omega, by omega, fun secret hkey => (hopen secret hkey).1⟩
    · cases hquiet _ hmem

/-- Something is left for the receiver in every run exactly if the fee is less than the amount, or
the amount has no quote. Invoices are asked for exactly if it has one, whether the fee leaves
something or not, and the one that the node keeps is for the amount less the fee. -/
theorem registerPayment_leaves_iff (hminimum : 0 ≤ terms.minimumFeeMsat.toInt) (nodeId : Bytes)
    (amountSat : Int64) (memo : String) :
    ((∀ (σ : Type) (answer : (r : Request) → σ → Option r.Reply × σ) (state : σ),
        LeavesSomething terms amountSat
          (record answer (registerPayment terms nodeId amountSat memo).run state).2) ↔
      (Quotable terms amountSat → (terms.serviceFeeSat amountSat).toInt < amountSat.toInt)) ∧
    ((∀ (σ : Type) (answer : (r : Request) → σ → Option r.Reply × σ) (state : σ),
        invoiceCalls
          (record answer (registerPayment terms nodeId amountSat memo).run state).2 = []) ↔
      ¬Quotable terms amountSat) ∧
    ∀ (σ : Type) (answer : (r : Request) → σ → Option r.Reply × σ) (state : σ) (r : InvoiceRequest)
      (reply : Option (Except Fault AddedInvoice)),
      ⟨.node (.addInvoice r), reply⟩ ∈
          (record answer (registerPayment terms nodeId amountSat memo).run state).2 →
        r.mode = .register →
          r.amountSat.toInt = amountSat.toInt - (terms.serviceFeeSat amountSat).toInt ∧
          r.amountSat.toInt ≤ amountSat.toInt := by
  refine ⟨?_, ?_, fun σ answer state r reply hmem hmode => ?_⟩
  · rw [forall_record_iff (P := LeavesSomething terms amountSat)]
    constructor
    · intro hleaves hquotable
      obtain ⟨r, hmode, hamount, hrun⟩ := hquotable.exists_runs nodeId memo
      have hpos := ((hleaves _ _ hrun).invoices r none (by simp) hmode).1
      omega
    · intro hfee log result h
      exact leavesSomething_of_runs hminimum hfee h
  · rw [forall_record_iff (P := fun log => invoiceCalls log = [])]
    constructor
    · intro hnone hquotable
      obtain ⟨r, -, -, hrun⟩ := hquotable.exists_runs nodeId memo
      cases hnone _ _ hrun
    · intro hnot log result h
      exact (stopped_of_not_quoted h (mt quotable_iff.2 hnot)).2.1
  · have hamount := (addInvoice_of_runs (runs_record _ _ _) hmem).2 hmode
    have hnonneg := serviceFeeSat_nonneg amountSat hminimum
    exact ⟨hamount, by omega⟩

/-- Terms with a minimum fee of two thousand satoshis. -/
def flooredTerms : Terms where
  name := "lsp"
  providerKey := []
  nodeKey := "02"
  host := "lsp:9735"
  channelCapacity := 1000000
  targetConf := 6
  baseFeeMsat := 1000
  feeRate := .ofInt 0
  timeLockDelta := 40
  feePermyriad := 40
  minimumFeeMsat := 2000000
  maxInactiveDuration := 3600
  version := "v2"

/-- A node without channels, which makes every invoice, and a provider that accepts. -/
def bareNode : (r : Request) → Unit → Option r.Reply × Unit
  | .node .listChannels, s => (some (.ok []), s)
  | .freshBytes count, s => (some ⟨List.replicate count 0, List.length_replicate⟩, s)
  | .node (.addInvoice _), s => (some (.ok ⟨"invoice", [], []⟩), s)
  | _, s => (none, s)

/-- Of three thousand satoshis one thousand are left. -/
theorem registerPayment_leaves_floored :
    0 ≤ flooredTerms.minimumFeeMsat.toInt ∧ LeavesSomething flooredTerms 3000
      (record bareNode (registerPayment flooredTerms [] 3000 "").run ()).2 := by
  have hminimum : 0 ≤ flooredTerms.minimumFeeMsat.toInt := by decide
  have hleaves := (registerPayment_leaves_iff hminimum [] 3000 "").1.2 fun _ => by decide
  exact ⟨hminimum, hleaves Unit bareNode ()⟩

/-- Of one thousand satoshis nothing is left, and the node is asked for an invoice over less than
nothing. -/
theorem not_registerPayment_leaves :
    ¬∀ (terms : Terms) (nodeId : Bytes) (amountSat : Int64) (memo : String) (σ : Type)
      (answer : (r : Request) → σ → Option r.Reply × σ) (state : σ),
      0 ≤ terms.feePermyriad → 0 ≤ terms.minimumFeeMsat → 0 ≤ terms.baseFeeMsat →
        LeavesSomething terms amountSat
          (record answer (registerPayment terms nodeId amountSat memo).run state).2 := by
  intro h
  have hleaves := h flooredTerms [] 1000 "" Unit bareNode () (by decide) (by decide) (by decide)
  have hpos := (hleaves.invoices _ _ (.tail _ (.tail _ (.head _))) rfl).1
  exact absurd hpos (by decide)

end Registration

end LiquidityClient
