import LiquidityClient.Proofs.RefundAccounts
import LiquidityClient.Proofs.RefundIndependence
import LiquidityClient.Proofs.ScriptParameters
import LiquidityClient.Proofs.TransactionReading

/-!
# Refunds that are broadcast

A refund asks the node for its network, and then at most once to publish a transaction
(`Swap.runs_refund_iff`). Where the network has no known name, the address is none of the network,
or no refund can be built, nothing is asked after the first answer. What is published can be read
(`Refund.sizable_of_build`), and spells the transaction that was built; the id that the refund gives
is the hash of that transaction without witnesses (`Transaction.txid_eq`), whatever its witnesses
are.
-/

namespace LiquidityClient

open Program

/-! ## Output scripts of addresses -/

theorem Bech32.length_program_le {text label : String} {version : Nat} {program : Bytes}
    (h : decodeProgram? text = some (label, version, program)) : program.length ≤ 40 := by
  unfold decodeProgram? at h
  dsimp only at h
  -- The one way through the checks.
  repeat' split at h
  all_goals cases h
  omega

namespace Address

theorem length_script_le_of_read? {text : String} {address : Address}
    (h : read? text = some address) : address.script.length ≤ 42 := by
  unfold read? at h
  split at h
  · next label version program hprogram =>
    have hlength := Bech32.length_program_le hprogram
    split_ifs at h
    cases h
    rw [script, List.length_cons, List.length_cons]
    omega
  · grind [script]

theorem length_script_le {network : Network} {text : String} {address : Address}
    (h : parse network text = .ok address) : address.script.length ≤ 42 := by
  unfold parse at h
  split at h
  · cases h
  · next hread =>
    split_ifs at h
    cases h
    exact length_script_le_of_read? hread

end Address

/-! ## The id of a transaction -/

namespace Transaction

/-- A transaction without its witnesses. -/
def unsigned (tx : Transaction) : Transaction :=
  { tx with inputs := tx.inputs.map TxIn.unsigned }

/-- The id of a transaction with inputs is the hash of its bytes without the witnesses. -/
theorem txid_eq {tx : Transaction} (h : tx.inputs ≠ []) :
    tx.txid = Sha256.doubleHash tx.unsigned.encode := by
  have hbare : tx.unsigned.hasWitness = false := by
    simp [hasWitness, unsigned, TxIn.unsigned, h]
  have hsame : (tx.inputs.map TxIn.unsigned).map TxIn.unsigned = tx.inputs.map TxIn.unsigned := by
    rw [List.map_map]
    rfl
  rw [encode, hbare, if_neg Bool.false_ne_true, unsigned, encodeBase_congr hsame, txid]

end Transaction

namespace Refund

variable {inputs : List RefundInput} {destination : Bytes} {csvHeight : UInt32}
  {ratePerKw : UInt64} {tx : Transaction}

theorem inputs_ne_nil_of_build (h : build inputs destination csvHeight ratePerKw = .ok tx) :
    tx.inputs ≠ [] := by
  obtain ⟨hne, -⟩ := build_eq_ok_iff.1 h
  have hlength := (sweepsAt_of_build h).1
  rwa [← List.length_pos_iff, hlength, List.length_pos_iff]

/-- All sizes of a refund have 64 bits if those of what it is built from do. -/
theorem sizable_of_build (h : build inputs destination csvHeight ratePerKw = .ok tx)
    (hcount : inputs.length < UInt64.size)
    (hscripts : ∀ input ∈ inputs, input.script.length < UInt64.size)
    (hdestination : destination.length < UInt64.size) : tx.Sizable := by
  obtain ⟨hlength, hsweeps⟩ := sweepsAt_of_build h
  obtain ⟨-, -, -, value, houtputs, -⟩ := exists_output_of_build h
  have hone : tx.outputs.length < UInt64.size := by
    rw [houtputs, List.length_singleton]
    decide
  refine ⟨by rwa [hlength], hone, fun txIn htxIn => ?_, ?_⟩
  · obtain ⟨i, hi, rfl⟩ := List.getElem_of_mem htxIn
    have hinput : i < inputs.length := hlength ▸ hi
    obtain ⟨txIn, key, hat⟩ := hsweeps i inputs[i] (List.getElem?_eq_getElem hinput)
    obtain rfl : tx.inputs[i] = txIn := by
      rw [← Option.some_inj, ← List.getElem?_eq_getElem hi, hat.txIn_eq]
    have hsignature := Signature.length_der_sign_le key
      (tx.signatureHash i tx.inputs[i] inputs[i].script inputs[i].amountSat 1)
    have hscript := hscripts _ (List.getElem_mem hinput)
    refine ⟨length_of_parseTxid? hat.names.txid_eq, ?_, ?_, ?_⟩
    · rw [hat.signatureScript_eq]
      decide
    · rw [hat.witness_eq]
      exact (by decide : 3 < UInt64.size)
    · simp only [hat.witness_eq, List.forall_mem_cons, List.length_append, List.length_singleton]
      exact ⟨Nat.lt_of_le_of_lt (Nat.add_le_add_right hsignature 1) (by decide), by decide, hscript,
        nofun⟩
  · rw [houtputs]
    exact List.forall_mem_singleton.2 hdestination

end Refund

/-! ## What a refund does -/

namespace Swap

variable {settings : SwapSettings} {inputs : List RefundInput} {address label : String}
  {log : Transcript Collaborators} {result : Option (Except SwapError Bytes)}

/-- What the node tells, the inputs and the address give this transaction : the network is a known
one, the address is one of it, and the refund of the inputs to the address can be built. -/
def SweptBy (settings : SwapSettings) (inputs : List RefundInput) (address : String)
    (info : NodeInfo) (tx : Transaction) : Prop :=
  ∃ network destination, Network.ofName info.network = .ok network ∧
    Address.parse network address = .ok destination ∧
    Refund.build inputs destination.script settings.csvHeight settings.feeRateSatPerKw = .ok tx

theorem sweepTransaction_eq_ok_iff {info : NodeInfo} {tx : Transaction} :
    sweepTransaction settings inputs address info = .ok tx ↔
      SweptBy settings inputs address info tx := by
  constructor
  · intro h
    obtain ⟨network, hnetwork, h⟩ := exists_of_bind_eq_ok h
    obtain ⟨destination, hdestination, h⟩ := exists_of_bind_eq_ok h
    exact ⟨network, destination, hnetwork, hdestination, h⟩
  · rintro ⟨network, destination, hnetwork, hdestination, h⟩
    simp only [sweepTransaction, hnetwork, hdestination, Bind.bind, Except.bind]
    exact h

/-- What a refund gives once the transaction is handed to the node. -/
def sentResult (tx : Transaction) : Option (Except Fault Unit) → Option (Except SwapError Bytes)
  | none => none
  | some (.error cause) => some (.error (.fault cause))
  | some (.ok ()) => some (.ok tx.txid)

/-- What a refund can do : it ends with the node's first answer, with an error before there is a
transaction, or with the answer to the transaction. -/
inductive RefundRun (settings : SwapSettings) (inputs : List RefundInput) (address label : String) :
    Transcript Collaborators → Option (Except SwapError Bytes) → Prop
  | crashed : RefundRun settings inputs address label [⟨.node .getInfo, none⟩] none
  | noInfo (cause : Fault) :
      RefundRun settings inputs address label [⟨.node .getInfo, some (.error cause)⟩]
        (some (.error (.fault cause)))
  | notBuilt {info : NodeInfo} {e : SwapError}
      (h : sweepTransaction settings inputs address info = .error e) :
      RefundRun settings inputs address label [⟨.node .getInfo, some (.ok info)⟩] (some (.error e))
  | sent {info : NodeInfo} {tx : Transaction}
      (h : sweepTransaction settings inputs address info = .ok tx)
      (reply : Option (Except Fault Unit)) :
      RefundRun settings inputs address label
        [⟨.node .getInfo, some (.ok info)⟩,
          ⟨.node (.publishTransaction tx.encode label), reply⟩]
        (sentResult tx reply)

theorem runs_refund_iff :
    Runs (refund settings inputs address label).run log result ↔
      RefundRun settings inputs address label log result := by
  rw [run_refund]
  constructor
  · intro h
    rcases h.ask_cases with ⟨cause | info, rest, rfl, hrest⟩ | ⟨rfl, rfl⟩
    · obtain ⟨rfl, rfl⟩ := runs_pure_iff.1 hrest
      exact .noInfo cause
    · dsimp only at hrest
      cases hsweep : sweepTransaction settings inputs address info with
      | error e =>
        rw [hsweep] at hrest
        obtain ⟨rfl, rfl⟩ := runs_pure_iff.1 hrest
        exact .notBuilt hsweep
      | ok tx =>
        rw [hsweep] at hrest
        rcases hrest.ask_cases with ⟨cause | _, rest, rfl, hend⟩ | ⟨rfl, rfl⟩
        · obtain ⟨rfl, rfl⟩ := runs_pure_iff.1 hend
          exact .sent hsweep (some (.error cause))
        · obtain ⟨rfl, rfl⟩ := runs_pure_iff.1 hend
          exact .sent hsweep (some (.ok ()))
        · exact .sent hsweep none
    · exact .crashed
  · intro h
    cases h with
    | crashed => exact .crashed
    | noInfo cause => exact .answered (.pure _)
    | notBuilt h =>
      refine .answered ?_
      simp only [h]
      exact .pure _
    | sent h reply =>
      refine .answered ?_
      simp only [h]
      obtain _ | ⟨cause | _⟩ := reply
      · exact .crashed
      · exact .answered (.pure _)
      · exact .answered (.pure _)

theorem mem_published {raw : Bytes} {reply : Option (Except Fault Unit)}
    (h : ⟨.node (.publishTransaction raw label), reply⟩ ∈ log) : (raw, label) ∈ published log :=
  List.mem_filterMap.2 ⟨_, h, rfl⟩

/-- Either the transaction that the first answer gives is handed to the node, or the first answer
gives none and nothing is published. -/
theorem RefundRun.sent_or_not (h : RefundRun settings inputs address label log result) :
    (∃ info tx reply, SweptBy settings inputs address info tx ∧
        log = [⟨.node .getInfo, some (.ok info)⟩,
          ⟨.node (.publishTransaction tx.encode label), reply⟩] ∧
        result = sentResult tx reply) ∨
      (published log = [] ∧
        (∀ info tx, ⟨.node .getInfo, some (.ok info)⟩ ∈ log →
          ¬SweptBy settings inputs address info tx) ∧
        ∀ txid, result ≠ some (.ok txid)) := by
  cases h with
  | crashed => exact Or.inr ⟨rfl, by simp, nofun⟩
  | noInfo cause => exact Or.inr ⟨rfl, by simp, nofun⟩
  | @notBuilt info e h =>
    refine Or.inr ⟨rfl, fun info' tx hinfo hswept => ?_, nofun⟩
    obtain rfl : info' = info := by simpa using hinfo
    rw [sweepTransaction_eq_ok_iff.2 hswept] at h
    cases h
  | @sent info tx h reply =>
    exact Or.inl ⟨info, tx, reply, sweepTransaction_eq_ok_iff.1 h, rfl, rfl⟩

theorem sentResult_eq_ok_iff {tx : Transaction} {reply : Option (Except Fault Unit)}
    {txid : Bytes} :
    sentResult tx reply = some (.ok txid) ↔ reply = some (.ok ()) ∧ txid = tx.txid := by
  obtain _ | ⟨cause | _⟩ := reply <;> simp [sentResult, eq_comm]

/-- The transaction of a refund is read back from its bytes, and named by the hash of its bytes
without witnesses. -/
theorem SweptBy.spec {info : NodeInfo} {tx : Transaction}
    (h : SweptBy settings inputs address info tx) (hcount : inputs.length < UInt64.size)
    (hscripts : ∀ input ∈ inputs, input.script.length < UInt64.size) :
    Transaction.read? tx.encode = some tx ∧ tx.txid = Sha256.doubleHash tx.unsigned.encode := by
  obtain ⟨network, destination, -, hdestination, hbuild⟩ := h
  have hlength := Address.length_script_le hdestination
  have hsizable := Refund.sizable_of_build hbuild hcount hscripts
    (Nat.lt_of_le_of_lt hlength (by decide))
  exact ⟨Transaction.read?_eq_some_iff.2 ⟨hsizable, rfl⟩,
    Transaction.txid_eq (Refund.inputs_ne_nil_of_build hbuild)⟩

/-- A refund, whatever the node answers, where lengths are 64-bit words. It has at most one
transaction published, and has one published exactly where the node tells its network, the address
is one of it, and a refund of the inputs to the address can be built : the bytes are those that are
read as this transaction. It gives an id exactly if the node accepts the transaction, and the id is
the hash of the transaction without witnesses. -/
theorem refund_broadcasts (hcount : inputs.length < UInt64.size)
    (hscripts : ∀ input ∈ inputs, input.script.length < UInt64.size)
    (hrun : Runs (refund settings inputs address label).run log result) :
    (published log).length ≤ 1 ∧
      (∀ raw label', (raw, label') ∈ published log ↔
        label' = label ∧ ∃ info network destination tx,
          ⟨.node .getInfo, some (.ok info)⟩ ∈ log ∧ Network.ofName info.network = .ok network ∧
            Address.parse network address = .ok destination ∧
            Refund.build inputs destination.script settings.csvHeight settings.feeRateSatPerKw =
              .ok tx ∧
            Transaction.read? raw = some tx) ∧
      ∀ txid, result = some (.ok txid) ↔ ∃ raw tx,
        ⟨.node (.publishTransaction raw label), some (.ok ())⟩ ∈ log ∧
          Transaction.read? raw = some tx ∧ txid = Sha256.doubleHash tx.unsigned.encode := by
  rcases (runs_refund_iff.1 hrun).sent_or_not with
    ⟨info, tx, reply, hswept, rfl, rfl⟩ | ⟨hnone, hnot, hresult⟩
  · obtain ⟨hread, htxid⟩ := hswept.spec hcount hscripts
    refine ⟨Nat.le_refl 1, fun raw label' => ⟨fun hmem => ?_, ?_⟩, fun txid => ⟨fun hok => ?_, ?_⟩⟩
    · cases List.mem_singleton.1 hmem
      obtain ⟨network, destination, hnetwork, hdestination, hbuild⟩ := hswept
      exact ⟨rfl, info, network, destination, tx, .head _, hnetwork, hdestination, hbuild, hread⟩
    · rintro ⟨rfl, info', network, destination, tx', hinfo, hnetwork, hdestination, hbuild, hraw⟩
      obtain rfl : info' = info := by simpa using hinfo
      have hsame : sweepTransaction settings inputs address info' = .ok tx' :=
        sweepTransaction_eq_ok_iff.2 ⟨network, destination, hnetwork, hdestination, hbuild⟩
      rw [sweepTransaction_eq_ok_iff.2 hswept] at hsame
      cases hsame
      obtain ⟨-, rfl⟩ := Transaction.read?_eq_some_iff.1 hraw
      exact .head _
    · obtain ⟨rfl, rfl⟩ := sentResult_eq_ok_iff.1 hok
      exact ⟨tx.encode, tx, .tail _ (.head _), hread, htxid⟩
    · rintro ⟨raw, tx', hmem, hraw, rfl⟩
      obtain ⟨rfl, rfl⟩ : raw = tx.encode ∧ some (.ok ()) = reply := by simpa using hmem
      rw [hread] at hraw
      cases hraw
      exact sentResult_eq_ok_iff.2 ⟨rfl, htxid.symm⟩
  · rw [hnone]
    refine ⟨Nat.zero_le 1, fun raw label' => ⟨nofun, ?_⟩, fun txid => ⟨fun hok => ?_, ?_⟩⟩
    · rintro ⟨-, info, network, destination, tx, hinfo, hnetwork, hdestination, hbuild, -⟩
      exact (hnot info tx hinfo ⟨network, destination, hnetwork, hdestination, hbuild⟩).elim
    · exact (hresult txid hok).elim
    · rintro ⟨raw, tx, hmem, -⟩
      have hpublished := mem_published hmem
      rw [hnone] at hpublished
      cases hpublished

/-- The sweep of one swap on the test chain is published, and gives the transaction's id. -/
theorem refund_broadcasts_locked :
    ∃ raw tx log,
      Runs (refund {} [Client.lockedSwap] Client.returnAddress "swap refund").run log
          (some (.ok (Sha256.doubleHash tx.unsigned.encode))) ∧
        (raw, "swap refund") ∈ published log ∧ Transaction.read? raw = some tx := by
  obtain ⟨tx, htx⟩ := Client.exists_sweepTransaction
  have hscripts : ∀ input ∈ [Client.lockedSwap], input.script.length < UInt64.size := by
    have hlength := SwapParameters.length_redeemScript_lt
      (Refund.sweeps_default ⟨5, by decide, by decide⟩).script_eq
    exact List.forall_mem_singleton.2 (Nat.lt_trans hlength (by decide))
  have hrun : Runs (refund {} [Client.lockedSwap] Client.returnAddress "swap refund").run _
      (some (.ok tx.txid)) := runs_refund_iff.2 (.sent htx (some (.ok ())))
  obtain ⟨raw, tx', hmem, hread, hid⟩ :=
    ((refund_broadcasts (by decide) hscripts hrun).2.2 tx.txid).1 rfl
  exact ⟨raw, tx', _, hid ▸ hrun, mem_published hmem, hread⟩

end Swap

end LiquidityClient
