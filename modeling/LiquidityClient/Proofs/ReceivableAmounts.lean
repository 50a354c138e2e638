import LiquidityClient.Proofs.LocalHop
import LiquidityClient.Proofs.PaymentRegistration

/-!
# Receivable amounts

What one channel can receive is the remote balance less the remote reserve and half of the
commitment fee (`Channel.exactReceivable`), as long as no word overflows (`Channel.Measured`). The
largest receivable amount is determined by the positive amounts that it covers, which are those that
one channel can receive, so it does not depend on the order in which channels are listed or on how
they are put into groups. A registration is refused for exactly these amounts and for those that are
not positive, and then it has asked for the channels only (`Registration.receivable_gate`).
-/

namespace LiquidityClient

open Program

variable {amountSat : Int64} {channels : List Channel}

/-! ## Channels -/

/-- What a channel can receive, in satoshis : half of the commitment fee is kept back. -/
def Channel.exactReceivable (channel : Channel) : Int :=
  channel.remoteBalance.toInt - channel.remoteReserveSat.toNat - channel.commitFee.toInt / 2

/-- The reserve and the commitment fee of a channel are amounts, and no word overflows where they
are taken from the remote balance. -/
structure Channel.Measured (channel : Channel) : Prop where
  commitFee_nonneg : 0 ≤ channel.commitFee.toInt
  reserve_lt : channel.remoteReserveSat.toNat < Word.half64
  product : Word.IsInt64 (channel.commitFee.toInt * commitFeeMarginPercent.toInt)
  afterReserve : Word.IsInt64 (channel.remoteBalance.toInt - channel.remoteReserveSat.toNat)
  afterMargin : Word.IsInt64 channel.exactReceivable

theorem Channel.Measured.toInt_receivable {channel : Channel} (h : channel.Measured) :
    channel.receivable.toInt = channel.exactReceivable := by
  have hmargin : (channel.commitFee * commitFeeMarginPercent / 100).toInt =
      channel.commitFee.toInt / 2 := by
    have hnonneg := h.commitFee_nonneg
    have hpercent : commitFeeMarginPercent.toInt = 50 := rfl
    have hhundred : (100 : Int64).toInt = 100 := rfl
    rw [Int64.toInt_div_of_ne_right _ _ (by decide), toInt_mul_of_isInt64 h.product, hpercent,
      hhundred, Int.tdiv_eq_ediv_of_nonneg (by omega)]
    omega
  have hreserve : (channel.remoteBalance - channel.remoteReserveSat.toInt64).toInt =
      channel.remoteBalance.toInt - channel.remoteReserveSat.toNat := by
    have hword := toInt_toInt64_of_lt h.reserve_lt
    rw [toInt_sub_of_isInt64 (hword ▸ h.afterReserve), hword]
  have hfits : Word.IsInt64
      ((channel.remoteBalance - channel.remoteReserveSat.toInt64).toInt -
        (channel.commitFee * commitFeeMarginPercent / 100).toInt) := by
    rw [hmargin, hreserve]
    exact h.afterMargin
  unfold receivable exactReceivable
  rw [toInt_sub_of_isInt64 hfits, hmargin, hreserve]

/-- One of the channels can receive the amount. -/
def ReceivableByOne (channels : List Channel) (amountSat : Int64) : Prop :=
  ∃ channel ∈ channels, amountSat.toInt ≤ channel.exactReceivable

theorem receivableByOne_iff (hmeasured : ∀ channel ∈ channels, channel.Measured) :
    ReceivableByOne channels amountSat ↔ ∃ channel ∈ channels, amountSat ≤ channel.receivable := by
  refine exists_congr fun channel => and_congr_right fun hmem => ?_
  rw [Int64.le_iff_toInt_le, (hmeasured channel hmem).toInt_receivable]

/-! ## The largest receivable amount -/

theorem receivableMax_nonneg (channels : List Channel) : 0 ≤ receivableMax channels :=
  le_receivableMax_iff.2 (Or.inl (Int64.le_refl 0))

/-- A word that covers the same amounts is the same. -/
theorem eq_of_forall_le_int64_iff {m n : Int64} (h : ∀ a : Int64, a ≤ m ↔ a ≤ n) : m = n :=
  Int64.le_antisymm ((h m).1 (Int64.le_refl m)) ((h n).2 (Int64.le_refl n))

theorem receivableMax_eq_of_perm {listed : List Channel} (h : listed.Perm channels) :
    receivableMax listed = receivableMax channels := by
  refine eq_of_forall_le_int64_iff fun a => ?_
  simp only [le_receivableMax_iff, h.mem_iff]

/-- Channels can be gone through in groups. -/
theorem receivableMax_flatten (parts : List (List Channel)) :
    receivableMax parts.flatten = (parts.map receivableMax).foldl max 0 := by
  refine eq_of_forall_le_int64_iff fun a => ?_
  have hparts : a ≤ parts.foldl (fun best part => max best (receivableMax part)) 0 ↔
      a ≤ 0 ∨ ∃ part ∈ parts, a ≤ receivableMax part := le_foldl_max_iff
  rw [List.foldl_map, hparts]
  simp only [le_receivableMax_iff, List.mem_flatten]
  constructor
  · rintro (hzero | ⟨channel, ⟨part, hpart, hmem⟩, hle⟩)
    · exact Or.inl hzero
    · exact Or.inr ⟨part, hpart, Or.inr ⟨channel, hmem, hle⟩⟩
  · rintro (hzero | ⟨part, hpart, hzero | ⟨channel, hmem, hle⟩⟩)
    · exact Or.inl hzero
    · exact Or.inl hzero
    · exact Or.inr ⟨channel, ⟨part, hpart, hmem⟩, hle⟩

/-! ## The gate -/

namespace Registration

/-- A positive amount is at most the largest receivable amount exactly if one channel can receive
it. The largest amount is never negative, and neither the order of the channels nor grouping them
changes it. A registration first lists the channels. If an amount is not positive or one channel can
receive it, the registration ends there as already receivable, and no other one ends so. -/
theorem receivable_gate (channels : List Channel)
    (hmeasured : ∀ channel ∈ channels, channel.Measured) :
    (∀ amountSat : Int64, 0 < amountSat →
      (amountSat ≤ receivableMax channels ↔ ReceivableByOne channels amountSat)) ∧
    0 ≤ receivableMax channels ∧
    (∀ listed : List Channel, listed.Perm channels →
      receivableMax listed = receivableMax channels) ∧
    (∀ parts : List (List Channel), parts.flatten.Perm channels →
      receivableMax channels = (parts.map receivableMax).foldl max 0) ∧
    ∀ (terms : Terms) (nodeId : Bytes) (amountSat : Int64) (memo : String) (σ : Type)
      (answer : (r : Request) → σ → Option r.Reply × σ) (state : σ),
      let (result, log) :=
        record answer (registerPayment terms nodeId amountSat memo).run state
      ∃ reply rest, log = ⟨.node .listChannels, reply⟩ :: rest ∧
        (reply = some (.ok channels) →
          ((∃ e, result = some (.error e) ∧ IsRefusal e) ↔
            amountSat ≤ 0 ∨ ReceivableByOne channels amountSat) ∧
          (amountSat ≤ 0 ∨ ReceivableByOne channels amountSat → rest = [] ∧
            result = some (.error (.alreadyReceivable (receivableMax channels) amountSat)))) ∧
        ((∀ listed, reply ≠ some (.ok listed)) →
          ∀ e, result = some (.error e) → ¬IsRefusal e) := by
  have hlargest : ∀ a : Int64,
      a ≤ receivableMax channels ↔ a ≤ 0 ∨ ReceivableByOne channels a := fun a => by
    rw [le_receivableMax_iff, receivableByOne_iff hmeasured]
  refine ⟨fun a ha => (hlargest a).trans (or_iff_right (Int64.not_le.2 ha)),
    receivableMax_nonneg channels, fun listed h => receivableMax_eq_of_perm h,
      fun parts h => ?_, ?_⟩
  · rw [← receivableMax_flatten, receivableMax_eq_of_perm h]
  intro terms nodeId amountSat memo σ answer state
  have hrun := runs_record answer (registerPayment terms nodeId amountSat memo).run state
  generalize record answer (registerPayment terms nodeId amountSat memo).run state =
    recorded at hrun ⊢
  obtain ⟨result, log⟩ := recorded
  dsimp only at hrun ⊢
  obtain ⟨reply, rest, rfl, hgate⟩ := runs_registerPayment_gate hrun
  refine ⟨reply, rest, rfl, ?_, fun hnone => ?_⟩
  · rintro rfl
    rw [← hlargest]
    dsimp only at hgate
    split_ifs at hgate with hrefused
    · exact ⟨⟨fun _ => hrefused, fun _ => ⟨_, hgate.2, trivial⟩⟩, fun _ => hgate⟩
    · exact ⟨⟨fun ⟨e, hresult, he⟩ => absurd he (hgate e hresult), fun h => absurd h hrefused⟩,
        fun h => absurd h hrefused⟩
  · match reply, hgate with
    | none, hgate => exact hgate
    | some (.error _), hgate => exact hgate
    | some (.ok listed), _ => exact absurd rfl (hnone listed)

/-- A channel with these balances on the provider's side. -/
def measuredChannel (remoteBalance commitFee : Int64) (remoteReserveSat : UInt64) : Channel :=
  { LocalHop.channelOf 1 0 with remoteBalance, commitFee, remoteReserveSat }

theorem receivable_gate_largest :
    (∀ channel ∈ [measuredChannel 100 0 1000, measuredChannel 10000 101 2000], channel.Measured) ∧
      0 < (7950 : Int64) ∧
      7950 ≤ receivableMax [measuredChannel 100 0 1000, measuredChannel 10000 101 2000] ∧
      ¬7951 ≤ receivableMax [measuredChannel 100 0 1000, measuredChannel 10000 101 2000] := by
  have hmeasured : ∀ channel ∈ [measuredChannel 100 0 1000, measuredChannel 10000 101 2000],
      channel.Measured := by
    intro channel hmem
    simp only [List.mem_cons, List.not_mem_nil, or_false] at hmem
    rcases hmem with rfl | rfl <;>
      exact ⟨by decide, by decide, by decide, by decide, by decide⟩
  obtain ⟨hcovered, -⟩ := receivable_gate _ hmeasured
  refine ⟨hmeasured, by decide, (hcovered 7950 (by decide)).2 ?_, fun h => ?_⟩
  · exact ⟨measuredChannel 10000 101 2000, by simp, by decide⟩
  · obtain ⟨channel, hmem, hle⟩ := (hcovered 7951 (by decide)).1 h
    simp only [List.mem_cons, List.not_mem_nil, or_false] at hmem
    rcases hmem with rfl | rfl <;> revert hle <;> decide

end Registration

end LiquidityClient
