import LiquidityClient.Proofs.RebalancePhases
import LiquidityClient.Proofs.RouteConsistency
import Mathlib.Algebra.Order.BigOperators.Group.List
import Mathlib.Algebra.Order.Group.Int
import Mathlib.Data.List.Nodup

/-!
# The transfer of a rebalance

A transfer chooses the first channel of the largest capacity as its target (`IsTarget`), and makes
one `Attempt` for each other channel with a local balance, for the whole of it, unless it refuses
the channels or the target cannot take them all. It reckons with 64 bits, and with channels that are
`Orderly` what it reckons are the sums. `movements` reads from a transcript which payments went
through, and they empty some of the sources (`Empties`). Whichever these are, the target keeps its
reserve at any time (`transfer_keeps_reserve`).
-/

namespace LiquidityClient.Rebalance

open Program

variable {terms : Terms} {target : Channel} {channels : List Channel}
  {log : Transcript Collaborators}

/-! ## The target -/

/-- The first channel of the largest capacity, which is positive. -/
structure IsTarget (channels : List Channel) (target : Channel) : Prop where
  capacity_pos : 0 < target.capacity
  first : ∃ before after, channels = before ++ target :: after ∧
    (∀ c ∈ before, c.capacity < target.capacity) ∧ ∀ c ∈ after, c.capacity ≤ target.capacity

theorem IsTarget.mem (h : IsTarget channels target) : target ∈ channels := by
  obtain ⟨before, after, rfl, -⟩ := h.first
  exact List.mem_append_right before (List.mem_cons_self ..)

theorem exists_isTarget (h : ∃ c ∈ channels, 0 < c.capacity) :
    ∃ target, IsTarget channels target := by
  induction channels with
  | nil =>
    obtain ⟨c, hc, -⟩ := h
    cases hc
  | cons d rest ih =>
    by_cases hrest : ∃ c ∈ rest, 0 < c.capacity
    · obtain ⟨target, hpos, before, after, rfl, hbefore, hafter⟩ := ih hrest
      by_cases hd : d.capacity < target.capacity
      · exact ⟨target, hpos, d :: before, after, rfl, List.forall_mem_cons.2 ⟨hd, hbefore⟩, hafter⟩
      · -- No channel behind the first one has a larger capacity.
        have hle : target.capacity ≤ d.capacity := Int64.not_lt.1 hd
        refine ⟨d, Int64.lt_of_lt_of_le hpos hle, [], _, rfl, nofun, fun c hc => ?_⟩
        rcases List.mem_append.1 hc with hc | hc
        · exact Int64.le_of_lt (Int64.lt_of_lt_of_le (hbefore c hc) hle)
        · rcases List.mem_cons.1 hc with rfl | hc
          · exact hle
          · exact Int64.le_trans (hafter c hc) hle
    · obtain ⟨c, hc, hpos⟩ := h
      rcases List.mem_cons.1 hc with rfl | hc
      · refine ⟨c, hpos, [], rest, rfl, nofun, fun d hd => ?_⟩
        have hnot : ¬0 < d.capacity := fun hlt => hrest ⟨d, hd, hlt⟩
        exact Int64.le_trans (Int64.not_lt.1 hnot) (Int64.le_of_lt hpos)
      · exact absurd ⟨c, hc, hpos⟩ hrest

/-- No channel beats a capacity that is at least as large as theirs. -/
theorem largestFrom_of_le {position : Nat} {best : Nat × Int64}
    (h : ∀ c ∈ channels, c.capacity ≤ best.2) : largestFrom position best channels = best := by
  induction channels generalizing position with
  | nil => rfl
  | cons c rest ih =>
    obtain ⟨hc, hrest⟩ := List.forall_mem_cons.1 h
    rw [largestFrom, if_neg (Int64.not_lt.2 hc)]
    exact ih hrest

theorem largestFrom_append {position : Nat} {best : Nat × Int64} {before after : List Channel}
    (hbest : best.2 < target.capacity) (hbefore : ∀ c ∈ before, c.capacity < target.capacity)
    (hafter : ∀ c ∈ after, c.capacity ≤ target.capacity) :
    largestFrom position best (before ++ target :: after) =
      (position + before.length, target.capacity) := by
  induction before generalizing position best with
  | nil =>
    rw [List.nil_append, largestFrom, if_pos hbest]
    exact largestFrom_of_le hafter
  | cons c before ih =>
    obtain ⟨hc, hrest⟩ := List.forall_mem_cons.1 hbefore
    rw [List.cons_append, largestFrom, List.length_cons, ← Nat.add_assoc, Nat.add_right_comm]
    refine ih ?_ hrest
    split_ifs
    · exact hc
    · exact hbest

theorem IsTarget.getElem?_targetIndex (h : IsTarget channels target) :
    channels[targetIndex channels]? = some target := by
  obtain ⟨hpos, before, after, rfl, hbefore, hafter⟩ := h
  have hlargest : largestFrom 0 (0, 0) (before ++ target :: after) =
      (0 + before.length, target.capacity) :=
    largestFrom_append hpos hbefore hafter
  rw [targetIndex, hlargest, Nat.zero_add, List.getElem?_append_right (Nat.le_refl _), Nat.sub_self]
  rfl

theorem IsTarget.eq_of_getElem? (h : IsTarget channels target) {c : Channel}
    (hc : channels[targetIndex channels]? = some c) : target = c :=
  Option.some.inj (h.getElem?_targetIndex.symm.trans hc)

/-! ## The sums -/

/-- The channels other than the target. -/
def others (target : Channel) (channels : List Channel) : List Channel :=
  channels.filter fun c => c.channelId ≠ target.channelId

/-- The channels whose balance moves into the target. -/
def sources (target : Channel) (channels : List Channel) : List Channel :=
  (others target channels).filter fun c => c.localBalance ≠ 0

/-- The sum of the local balances, without a limit. -/
def localSum (channels : List Channel) : Int :=
  (channels.map fun c => c.localBalance.toInt).sum

/-- What the target can take : its remote balance above the reserve, without a limit. -/
def spare (target : Channel) : Int :=
  target.remoteBalance.toInt - target.remoteReserveSat.toNat

/-- Channels with ids of their own, one of them with a capacity, whose balances are not negative,
and with which a transfer reckons within 64 bits. -/
structure Orderly (channels : List Channel) : Prop where
  ids_nodup : (channels.map Channel.channelId).Nodup
  exists_capacity : ∃ c ∈ channels, 0 < c.capacity
  local_nonneg : ∀ c ∈ channels, 0 ≤ c.localBalance.toInt
  reserve_lt : ∀ c ∈ channels, c.remoteReserveSat.toNat < Word.half64
  sum_fits : Word.IsInt64 (localSum channels)
  headroom_fits : ∀ target, IsTarget channels target →
    Word.IsInt64 (target.localBalance.toInt + target.remoteBalance.toInt) ∧
      Word.IsInt64 (target.localBalance.toInt + target.remoteBalance.toInt
        - target.remoteReserveSat.toNat)
  msat_fits : ∀ target, IsTarget channels target → ∀ c ∈ sources target channels,
    Word.IsInt64 (c.localBalance.toInt * 1000)

theorem sources_cons (target c : Channel) (rest : List Channel) :
    sources target (c :: rest) =
      if c.channelId = target.channelId ∨ c.localBalance = 0 then sources target rest
      else c :: sources target rest := by
  unfold sources others
  by_cases hid : c.channelId = target.channelId
  · simp [hid]
  · by_cases hbalance : c.localBalance = 0 <;> simp [hid, hbalance]

theorem localSum_nonneg (h : ∀ c ∈ channels, 0 ≤ c.localBalance.toInt) : 0 ≤ localSum channels :=
  List.sum_nonneg (List.forall_mem_map.2 h)

/-- A sum of balances that are not negative is reckoned within 64 bits if it is within them. -/
theorem toInt_foldl_localBalance {sum : Int64} (hnonneg : ∀ c ∈ channels, 0 ≤ c.localBalance.toInt)
    (hsum : 0 ≤ sum.toInt) (hfits : Word.IsInt64 (sum.toInt + localSum channels)) :
    (channels.foldl (fun sum c => sum + c.localBalance) sum).toInt =
      sum.toInt + localSum channels := by
  induction channels generalizing sum with
  | nil => simp [localSum]
  | cons c rest ih =>
    obtain ⟨hc, hrest⟩ := List.forall_mem_cons.1 hnonneg
    have hsplit : localSum (c :: rest) = c.localBalance.toInt + localSum rest := List.sum_cons
    have hrestNonneg := localSum_nonneg hrest
    have hadd : (sum + c.localBalance).toInt = sum.toInt + c.localBalance.toInt :=
      toInt_add_of_isInt64 (by omega)
    rw [List.foldl_cons, ih hrest (by omega) (by omega), hadd, hsplit, Int.add_assoc]

theorem Orderly.toInt_totalLocal (h : Orderly channels) :
    (totalLocal channels).toInt = localSum channels := by
  have hzero : (0 : Int64).toInt = 0 := rfl
  have hfits := h.sum_fits
  rw [totalLocal, toInt_foldl_localBalance h.local_nonneg (by omega) (by omega)]
  omega

theorem Orderly.toInt_headroom (h : Orderly channels) (htarget : IsTarget channels target) :
    (headroom target).toInt = target.localBalance.toInt + spare target := by
  obtain ⟨hadd, hsub⟩ := h.headroom_fits target htarget
  have hreserve := toInt_toInt64_of_lt (h.reserve_lt target htarget.mem)
  have hsum := toInt_add_of_isInt64 hadd
  rw [headroom, toInt_sub_of_isInt64 (by omega), hsum, hreserve, spare]
  omega

/-- No other channel has the id of a channel. -/
theorem filter_channelId_eq {c : Channel} (hnodup : (channels.map Channel.channelId).Nodup)
    (hc : c ∈ channels) : (channels.filter fun d => d.channelId = c.channelId) = [c] := by
  induction channels with
  | nil => cases hc
  | cons d rest ih =>
    obtain ⟨hd, hrest⟩ := List.nodup_cons.1 hnodup
    rcases List.mem_cons.1 hc with rfl | hc
    · rw [List.filter_cons_of_pos (by simp), List.filter_eq_nil_iff.2 fun e he heq => ?_]
      exact hd (List.mem_map.2 ⟨e, he, by simpa using heq⟩)
    · rw [List.filter_cons_of_neg, ih hrest hc]
      intro heq
      exact hd (List.mem_map.2 ⟨c, hc, (of_decide_eq_true heq).symm⟩)

/-- The local balances are the target's and the others'. -/
theorem localSum_eq (hnodup : (channels.map Channel.channelId).Nodup) (hmem : target ∈ channels) :
    localSum channels = target.localBalance.toInt + localSum (others target channels) := by
  have hperm := List.filter_append_perm (fun c => decide (c.channelId = target.channelId)) channels
  have hsum := (hperm.map fun c => c.localBalance.toInt).sum_eq
  rw [filter_channelId_eq hnodup hmem] at hsum
  simpa [localSum, others] using hsum.symm

/-- A transfer starts exactly if the target can take the balances of the others. -/
theorem Orderly.headroom_lt_iff (h : Orderly channels) (htarget : IsTarget channels target) :
    headroom target < totalLocal channels ↔ spare target < localSum (others target channels) := by
  rw [Int64.lt_iff_toInt_lt, h.toInt_headroom htarget, h.toInt_totalLocal,
    localSum_eq h.ids_nodup htarget.mem]
  omega

/-! ## The attempts -/

/-- Did a payment go through? -/
def wentThrough : Except Fault SendResult → Bool
  | .ok result => result.paymentError.isEmpty
  | .error _ => false

/-- An attempt to pay the balance of a channel into the target, and whether it went through : the
node makes an invoice, tells of itself, and sends the payment, each for the whole balance. -/
inductive Attempt (terms : Terms) (source target : Channel) : Transcript Collaborators → Bool → Prop
  | noInvoice {amountMsat : Int64} {cause : Fault}
      (hamount : amountMsat.toInt = source.localBalance.toInt * 1000) :
      Attempt terms source target
        [⟨.node (.addPlainInvoice amountMsat circularMemo), some (.error cause)⟩] false
  | noInfo {amountMsat : Int64} {invoice : AddedInvoice} {cause : Fault}
      (hamount : amountMsat.toInt = source.localBalance.toInt * 1000) :
      Attempt terms source target
        [⟨.node (.addPlainInvoice amountMsat circularMemo), some (.ok invoice)⟩,
          ⟨.node .getInfo, some (.error cause)⟩] false
  | sent {amountMsat : Int64} {invoice : AddedInvoice} {info : NodeInfo}
      {reply : Except Fault SendResult}
      (hamount : amountMsat.toInt = source.localBalance.toInt * 1000) :
      Attempt terms source target
        [⟨.node (.addPlainInvoice amountMsat circularMemo), some (.ok invoice)⟩,
          ⟨.node .getInfo, some (.ok info)⟩,
          ⟨.node (.sendToRoute invoice.paymentHash
            (circularRoute source.channelId target.remoteChannelId terms.nodeKey info.identityKey
              amountMsat info.blockHeight terms.timeLockDelta invoice.paymentAddress)),
            some reply⟩] (wentThrough reply)

/-- The payment that an exchange shows to have gone through : the channel that it left through, and
its amount in satoshis. -/
def movement? : Exchange Collaborators → Option (UInt64 × Int)
  | ⟨.node (.sendToRoute _ route), some reply⟩ =>
    if wentThrough reply then
      route.hops.head?.map fun hop => (hop.channelId, route.totalAmountMsat.toInt / 1000)
    else none
  | _ => none

/-- The payments that went through, in order. -/
def movements (log : Transcript Collaborators) : List (UInt64 × Int) :=
  log.filterMap movement?

/-- The payment of the whole balance of a channel. -/
def emptying (source : Channel) : UInt64 × Int :=
  (source.channelId, source.localBalance.toInt)

variable {source : Channel}

theorem movements_append (log log' : Transcript Collaborators) :
    movements (log ++ log') = movements log ++ movements log' :=
  List.filterMap_append

theorem movement?_circular (paymentHash : Bytes) (outId inId : UInt64)
    (providerNode ownNode : String) (amountMsat : Int64) (height timeLockDelta : UInt32)
    (paymentAddress : Bytes) (reply : Except Fault SendResult) :
    movement? ⟨.node (.sendToRoute paymentHash (circularRoute outId inId providerNode ownNode
        amountMsat height timeLockDelta paymentAddress)), some reply⟩ =
      if wentThrough reply then some (outId, amountMsat.toInt / 1000) else none := rfl

theorem Attempt.movements_eq {paid : Bool} (h : Attempt terms source target log paid) :
    movements log = if paid then [emptying source] else [] := by
  cases h with
  | noInvoice => rfl
  | noInfo => rfl
  | @sent amountMsat invoice info reply hamount =>
    have hsat : amountMsat.toInt / 1000 = source.localBalance.toInt := by omega
    unfold movements
    rw [List.filterMap_cons_none rfl, List.filterMap_cons_none rfl, List.filterMap_cons,
      movement?_circular, hsat]
    cases wentThrough reply <;> rfl

/-- The end of an attempt. -/
def IsPaid : Except Fault Bool → Bool
  | .ok paid => paid
  | .error _ => false

/-- An attempt runs to its end, or a crash breaks it off before anything is paid. -/
theorem runs_payIntoTarget_cases {result : Option (Except Fault Bool)}
    (hfits : Word.IsInt64 (source.localBalance.toInt * 1000))
    (h : Runs (payIntoTarget terms source target).run log result) :
    (∃ outcome, result = some outcome ∧ Attempt terms source target log (IsPaid outcome)) ∨
      result = none ∧ movements log = [] := by
  have hamount : (source.localBalance * msatPerSat).toInt = source.localBalance.toInt * 1000 :=
    toInt_mul_of_isInt64 hfits
  unfold payIntoTarget at h
  rcases Action.runs_bind_cases h with
    ⟨invoice, log₁, log₂, rfl, hinvoice, hrest⟩ | ⟨cause, hinvoice, rfl⟩ | ⟨hinvoice, rfl⟩
  · rw [Action.runs_node_cases hinvoice]
    rcases Action.runs_bind_cases hrest with
      ⟨info, log₃, log₄, rfl, hinfo, hsend⟩ | ⟨cause, hinfo, rfl⟩ | ⟨hinfo, rfl⟩
    · rw [Action.runs_node_cases hinfo]
      rcases Action.runs_bind_cases hsend with
        ⟨result, log₅, log₆, rfl, hresult, hend⟩ | ⟨cause, hresult, rfl⟩ | ⟨hresult, rfl⟩
      · rw [Action.runs_node_cases hresult]
        obtain ⟨rfl, rfl⟩ := Action.runs_pure_iff.1 hend
        exact Or.inl ⟨_, rfl, .sent hamount⟩
      · rw [Action.runs_node_cases hresult]
        exact Or.inl ⟨_, rfl, .sent hamount⟩
      · rw [Action.runs_node_cases hresult]
        exact Or.inr ⟨rfl, rfl⟩
    · rw [Action.runs_node_cases hinfo]
      exact Or.inl ⟨_, rfl, .noInfo hamount⟩
    · rw [Action.runs_node_cases hinfo]
      exact Or.inr ⟨rfl, rfl⟩
  · rw [Action.runs_node_cases hinvoice]
    exact Or.inl ⟨_, rfl, .noInvoice hamount⟩
  · rw [Action.runs_node_cases hinvoice]
    exact Or.inr ⟨rfl, rfl⟩

/-- The report after another attempt. -/
def counted (report : TransferReport) (paid : Bool) : TransferReport where
  attempted := report.attempted + 1
  succeeded := report.succeeded + paid.toNat

/-- One attempt for each of the channels. -/
def attemptAll (terms : Terms) (target : Channel) :
    TransferReport → List Channel → Program Collaborators TransferReport
  | report, [] => .pure report
  | report, source :: rest => (payIntoTarget terms source target).run.bind fun outcome =>
      attemptAll terms target (counted report (IsPaid outcome)) rest

/-- Going through all the channels, where only the target is passed over for its position, is one
attempt for each source. -/
theorem transferFrom_eq {targetPosition position : Nat} {report : TransferReport}
    (h : ∀ k c, channels[k]? = some c →
      (position + k = targetPosition ↔ c.channelId = target.channelId)) :
    transferFrom terms targetPosition target position report channels =
      attemptAll terms target report (sources target channels) := by
  induction channels generalizing position report with
  | nil => rfl
  | cons source rest ih =>
    have hsource := h 0 source rfl
    have hrest : ∀ k c, rest[k]? = some c →
        (position + 1 + k = targetPosition ↔ c.channelId = target.channelId) := by
      intro k c hk
      have := h (k + 1) c hk
      rwa [Nat.add_assoc, Nat.add_comm 1 k]
    rw [Nat.add_zero] at hsource
    rw [transferFrom, sources_cons]
    by_cases hskip : source.channelId = target.channelId ∨ source.localBalance = 0
    · rw [if_pos hskip, if_pos (hskip.imp_left hsource.2)]
      exact ih hrest
    · rw [if_neg hskip, if_neg (mt (Or.imp_left hsource.1) hskip), attemptAll]
      refine congrArg (Program.bind _) (funext fun outcome => ?_)
      obtain cause | _ | _ := outcome <;> exact ih hrest

theorem runs_attemptAll_cases {report : TransferReport} {result : Option TransferReport}
    (hfits : ∀ c ∈ channels, Word.IsInt64 (c.localBalance.toInt * 1000))
    (h : Runs (attemptAll terms target report channels) log result) :
    (∃ paid : List Channel, paid.Sublist channels ∧ movements log = paid.map emptying) ∧
      ∀ final, result = some final → ∃ attempts : List (Transcript Collaborators × Bool),
        List.Forall₂ (fun source a => Attempt terms source target a.1 a.2) channels attempts ∧
          log = (attempts.map Prod.fst).flatten ∧
          final = ⟨report.attempted + channels.length,
            report.succeeded + attempts.countP Prod.snd⟩ := by
  induction channels generalizing report log with
  | nil =>
    obtain ⟨rfl, rfl⟩ := runs_pure_iff.1 h
    refine ⟨⟨[], List.Sublist.refl [], rfl⟩, ?_⟩
    rintro _ ⟨⟩
    exact ⟨[], .nil, rfl, rfl⟩
  | cons source rest ih =>
    obtain ⟨hsource, hrest⟩ := List.forall_mem_cons.1 hfits
    rcases h.bind_cases with ⟨outcome, log₁, log₂, rfl, hfirst, hsecond⟩ | ⟨hfirst, rfl⟩
    · rcases runs_payIntoTarget_cases hsource hfirst with ⟨_, ⟨⟩, hattempt⟩ | ⟨hne, -⟩
      · obtain ⟨⟨paid, hpaid, hmovements⟩, hend⟩ := ih hrest hsecond
        refine ⟨?_, fun final hfinal => ?_⟩
        · rw [movements_append, hattempt.movements_eq, hmovements]
          cases IsPaid outcome
          · exact ⟨paid, hpaid.cons source, rfl⟩
          · exact ⟨source :: paid, hpaid.cons_cons source, rfl⟩
        · obtain ⟨attempts, hall, rfl, rfl⟩ := hend final hfinal
          refine ⟨(log₁, IsPaid outcome) :: attempts, .cons hattempt hall, rfl, ?_⟩
          rw [List.countP_cons, List.length_cons, counted]
          cases IsPaid outcome <;> simp [Nat.add_assoc, Nat.add_comm 1]
      · cases hne
    · rcases runs_payIntoTarget_cases hsource hfirst with ⟨_, hne, -⟩ | ⟨-, hnone⟩
      · cases hne
      · exact ⟨⟨[], List.nil_sublist _, hnone⟩, nofun⟩

/-! ## The transfer -/

/-- Only the target has the target's id. -/
theorem Orderly.position_eq_iff (h : Orderly channels)
    (htarget : IsTarget channels target) {k : Nat}
    {c : Channel} (hk : channels[k]? = some c) :
    0 + k = targetIndex channels ↔ c.channelId = target.channelId := by
  have hindex := htarget.getElem?_targetIndex
  rw [Nat.zero_add]
  constructor
  · rintro rfl
    rw [Option.some.inj (hk.symm.trans hindex)]
  · intro hid
    have hlt : k < (channels.map Channel.channelId).length := by
      rw [List.length_map]
      exact (List.getElem?_eq_some_iff.1 hk).1
    refine (List.getElem?_inj hlt h.ids_nodup).1 ?_
    rw [List.getElem?_map, List.getElem?_map, hk, hindex, Option.map_some, Option.map_some, hid]

/-- A transfer refuses local reserves, does nothing where the target cannot take the balances of the
others, and else makes its attempts. -/
theorem runs_transfer_cases {result : Option (Except Fault TransferReport)} (h : Orderly channels)
    (htarget : IsTarget channels target) (hrun : Runs (transfer terms channels) log result) :
    (∃ c ∈ channels, c.localReserveSat ≠ 0 ∧ log = [] ∧ result = some (.error (.configuration
        ("channel " ++ Decimal.ofNat c.channelId.toNat ++ " has local reserve "
          ++ Decimal.ofNat c.localReserveSat.toNat ++ " sat, rebalance requires zero")))) ∨
      (∀ c ∈ channels, c.localReserveSat = 0) ∧
        (spare target < localSum (others target channels) ∧ log = [] ∧ result = some (.ok {}) ∨
          localSum (others target channels) ≤ spare target ∧ ∃ report,
            Runs (attemptAll terms target {} (sources target channels)) log report ∧
              result = report.map .ok) := by
  unfold transfer at hrun
  split at hrun
  · next c hfind =>
    obtain ⟨rfl, rfl⟩ := runs_pure_iff.1 hrun
    exact Or.inl
      ⟨c, List.mem_of_find?_eq_some hfind, by simpa using List.find?_some hfind, rfl, rfl⟩
  · next hfind =>
    have hzero : ∀ c ∈ channels, c.localReserveSat = 0 := by simpa using hfind
    refine Or.inr ⟨hzero, ?_⟩
    rw [htarget.getElem?_targetIndex] at hrun
    dsimp only at hrun
    split_ifs at hrun with hheadroom
    · obtain ⟨rfl, rfl⟩ := runs_pure_iff.1 hrun
      exact Or.inl ⟨(h.headroom_lt_iff htarget).1 hheadroom, rfl, rfl⟩
    · refine Or.inr ⟨Int.not_lt.1 (mt (h.headroom_lt_iff htarget).2 hheadroom), ?_⟩
      rw [transferFrom_eq fun k c hk => h.position_eq_iff htarget hk] at hrun
      rcases Runs.bind_cases hrun with ⟨report, log₁, log₂, rfl, hfirst, hsecond⟩ | ⟨hfirst, rfl⟩
      · obtain ⟨rfl, rfl⟩ := runs_pure_iff.1 hsecond
        rw [List.append_nil]
        exact ⟨some report, hfirst, rfl⟩
      · exact ⟨none, hfirst, rfl⟩

/-! ## The balances -/

/-- What has been paid out of the channel with this id. -/
def paidFrom (id : UInt64) (log : Transcript Collaborators) : Int :=
  (((movements log).filter fun m => m.1 = id).map Prod.snd).sum

/-- What has been paid in all. -/
def paid (log : Transcript Collaborators) : Int :=
  ((movements log).map Prod.snd).sum

/-- The local balance of a channel once the payments have moved theirs into the target. -/
def localAfter (target : Channel) (log : Transcript Collaborators) (c : Channel) : Int :=
  c.localBalance.toInt - paidFrom c.channelId log
    + if c.channelId = target.channelId then paid log else 0

/-- The remote balance of a channel once the payments have moved theirs into the target. -/
def remoteAfter (target : Channel) (log : Transcript Collaborators) (c : Channel) : Int :=
  c.remoteBalance.toInt + paidFrom c.channelId log
    - if c.channelId = target.channelId then paid log else 0

theorem sources_sublist (target : Channel) (channels : List Channel) :
    (sources target channels).Sublist channels :=
  List.filter_sublist.trans List.filter_sublist

theorem localSum_sources (target : Channel) (channels : List Channel) :
    localSum (sources target channels) = localSum (others target channels) := by
  unfold sources localSum
  induction others target channels with
  | nil => rfl
  | cons c rest ih =>
    by_cases hzero : c.localBalance = 0
    · rw [List.filter_cons_of_neg (by simpa using hzero), ih, List.map_cons, List.sum_cons, hzero]
      exact (Int.zero_add _).symm
    · rw [List.filter_cons_of_pos (by simpa using hzero), List.map_cons, List.map_cons,
        List.sum_cons, List.sum_cons, ih]

/-- Each of some of the channels counts once among them all. -/
theorem sum_localSum_filter {part : List Channel} (hpart : part.Sublist channels)
    (hnodup : (channels.map Channel.channelId).Nodup) :
    (channels.map fun c => localSum (part.filter fun d => d.channelId = c.channelId)).sum =
      localSum part := by
  induction hpart with
  | slnil => rfl
  | @cons part rest c hsub ih =>
    obtain ⟨hc, hrest⟩ := List.nodup_cons.1 hnodup
    have hnone : (part.filter fun d => d.channelId = c.channelId) = [] :=
      List.filter_eq_nil_iff.2 fun d hd hid =>
        hc (List.mem_map.2 ⟨d, hsub.subset hd, of_decide_eq_true hid⟩)
    rw [List.map_cons, List.sum_cons, hnone, ih hrest]
    exact Int.zero_add _
  | @cons_cons part rest c hsub ih =>
    obtain ⟨hc, hrest⟩ := List.nodup_cons.1 hnodup
    have hself : ((c :: part).filter fun d => d.channelId = c.channelId) = [c] :=
      filter_channelId_eq (((hsub.cons_cons c).map _).nodup hnodup) (List.mem_cons_self ..)
    have hothers :
        (rest.map fun e => localSum ((c :: part).filter fun d => d.channelId = e.channelId)) =
          rest.map fun e => localSum (part.filter fun d => d.channelId = e.channelId) := by
      refine List.map_congr_left fun e he => ?_
      rw [List.filter_cons_of_neg]
      intro hid
      exact hc (List.mem_map.2 ⟨e, he, (of_decide_eq_true hid).symm⟩)
    rw [List.map_cons, List.sum_cons, hself, hothers, ih hrest]
    simp [localSum]

/-- The payments that went through emptied these channels. -/
structure Empties (target : Channel) (channels : List Channel) (log : Transcript Collaborators)
    (part : List Channel) : Prop where
  sublist : part.Sublist (sources target channels)
  movements_eq : movements log = part.map emptying

namespace Empties

variable {part : List Channel}

theorem of_prefix {start : Transcript Collaborators} (h : Empties target channels log part)
    (hstart : start <+: log) : ∃ part', Empties target channels start part' := by
  have hprefix : movements start <+: part.map emptying :=
    h.movements_eq ▸ hstart.filterMap movement?
  refine ⟨part.take (movements start).length, (List.take_sublist _ _).trans h.sublist, ?_⟩
  rw [List.map_take]
  exact List.prefix_iff_eq_take.1 hprefix

theorem paid_eq (h : Empties target channels log part) : paid log = localSum part := by
  rw [paid, h.movements_eq, List.map_map]
  rfl

theorem paidFrom_eq (h : Empties target channels log part) (id : UInt64) :
    paidFrom id log = localSum (part.filter fun c => c.channelId = id) := by
  rw [paidFrom, h.movements_eq, List.filter_map, List.map_map]
  rfl

theorem paid_le (h : Empties target channels log part)
    (hnonneg : ∀ c ∈ channels, 0 ≤ c.localBalance.toInt) :
    0 ≤ paid log ∧ paid log ≤ localSum (others target channels) := by
  have hsource (c : Channel) (hc : c ∈ sources target channels) : 0 ≤ c.localBalance.toInt :=
    hnonneg c ((sources_sublist target channels).subset hc)
  rw [h.paid_eq, ← localSum_sources]
  exact ⟨localSum_nonneg fun c hc => hsource c (h.sublist.subset hc),
    (h.sublist.map _).sum_le_sum (List.forall_mem_map.2 hsource)⟩

theorem paidFrom_target (h : Empties target channels log part) :
    paidFrom target.channelId log = 0 := by
  rw [h.paidFrom_eq, List.filter_eq_nil_iff.2]
  · rfl
  · intro c hc
    have hother := List.mem_of_mem_filter (h.sublist.subset hc)
    simpa using (List.mem_filter.1 hother).2

theorem paidFrom_cases (h : Empties target channels log part)
    (hnodup : (channels.map Channel.channelId).Nodup) {c : Channel} (hc : c ∈ channels) :
    paidFrom c.channelId log = if c ∈ part then c.localBalance.toInt else 0 := by
  have hsub := h.sublist.trans (sources_sublist target channels)
  rw [h.paidFrom_eq]
  split_ifs with hpart
  · rw [filter_channelId_eq ((hsub.map _).nodup hnodup) hpart]
    exact List.sum_singleton
  · rw [List.filter_eq_nil_iff.2]
    · rfl
    · intro d hd hid
      have hsame := List.inj_on_of_nodup_map hnodup (hsub.subset hd) hc (of_decide_eq_true hid)
      exact hpart (hsame ▸ hd)

/-- Every payment moves something. -/
theorem paid_eq_zero_iff (h : Empties target channels log part)
    (hnonneg : ∀ c ∈ channels, 0 ≤ c.localBalance.toInt) : paid log = 0 ↔ movements log = [] := by
  rw [h.paid_eq, h.movements_eq, List.map_eq_nil_iff]
  constructor
  · intro hzero
    have hpart : ∀ c ∈ part, 0 ≤ c.localBalance.toInt := fun c hc =>
      hnonneg c ((h.sublist.trans (sources_sublist target channels)).subset hc)
    refine List.eq_nil_iff_forall_not_mem.2 fun c hc => ?_
    have hnone : c.localBalance.toInt = 0 :=
      List.all_zero_of_le_zero_le_of_sum_eq_zero (List.forall_mem_map.2 hpart) hzero
        (List.mem_map_of_mem hc)
    have hsource := (List.mem_filter.1 (h.sublist.subset hc)).2
    exact of_decide_eq_true hsource (Int64.toInt_inj.1 hnone)
  · rintro rfl
    rfl

/-- The target gets all that is paid. -/
theorem localAfter_target (h : Empties target channels log part) :
    localAfter target log target = target.localBalance.toInt + paid log := by
  rw [localAfter, h.paidFrom_target, if_pos rfl, Int.sub_zero]

/-- A channel other than the target is emptied by its payment, and else left as it is. -/
theorem localAfter_eq (h : Empties target channels log part)
    (hnodup : (channels.map Channel.channelId).Nodup) {c : Channel}
    (hc : c ∈ others target channels) :
    localAfter target log c = if emptying c ∈ movements log then 0 else c.localBalance.toInt := by
  obtain ⟨hmem, hid⟩ := List.mem_filter.1 hc
  have hsub := h.sublist.trans (sources_sublist target channels)
  have hpart : emptying c ∈ movements log ↔ c ∈ part := by
    rw [h.movements_eq]
    refine ⟨fun hmoved => ?_, List.mem_map_of_mem⟩
    obtain ⟨d, hd, hsame⟩ := List.mem_map.1 hmoved
    have hchannel := List.inj_on_of_nodup_map hnodup (hsub.subset hd) hmem (Prod.mk.inj hsame).1
    exact hchannel ▸ hd
  have hfrom := h.paidFrom_cases hnodup hmem
  rw [localAfter, if_neg (by simpa using hid)]
  simp only [hpart]
  split_ifs at hfrom ⊢ <;> omega

/-- The payments move balances between the channels, and neither add to them nor take away. -/
theorem sum_localAfter (h : Empties target channels log part)
    (hnodup : (channels.map Channel.channelId).Nodup) (htarget : target ∈ channels) :
    (channels.map (localAfter target log)).sum = localSum channels := by
  have hfrom : (channels.map fun c => paidFrom c.channelId log).sum = paid log := by
    simp only [h.paidFrom_eq, h.paid_eq]
    exact sum_localSum_filter (h.sublist.trans (sources_sublist target channels)) hnodup
  have hinto : (channels.map fun c => if c.channelId = target.channelId then paid log else 0).sum =
      paid log := by
    rw [List.sum_map_ite, filter_channelId_eq hnodup htarget]
    simp
  have hsplit : (channels.map (localAfter target log)).sum +
      (channels.map fun c => paidFrom c.channelId log).sum =
        localSum channels +
          (channels.map fun c => if c.channelId = target.channelId then paid log else 0).sum := by
    rw [localSum, ← List.sum_map_add, ← List.sum_map_add]
    refine congrArg List.sum (List.map_congr_left fun c _ => ?_)
    rw [localAfter]
    omega
  omega

/-- Whatever part of the payments has gone through, the target keeps its reserve and no balance gets
negative. -/
theorem bounds (h : Empties target channels log part) (horderly : Orderly channels)
    (hfits : localSum (others target channels) ≤ spare target) :
    target.remoteReserveSat.toNat ≤ remoteAfter target log target ∧
      ∀ c ∈ channels, 0 ≤ localAfter target log c := by
  obtain ⟨hpaid, hle⟩ := h.paid_le horderly.local_nonneg
  constructor
  · rw [remoteAfter, h.paidFrom_target, if_pos rfl]
    rw [spare] at hfits
    omega
  · intro c hc
    have hlocal := horderly.local_nonneg c hc
    have hfrom := h.paidFrom_cases horderly.ids_nodup hc
    rw [localAfter]
    split_ifs at hfrom ⊢ <;> omega

end Empties

/-- Whichever way a transfer ends, its payments empty some of the sources. -/
theorem exists_empties_of_runs_transfer {result : Option (Except Fault TransferReport)}
    (h : Orderly channels) (htarget : IsTarget channels target)
    (hrun : Runs (transfer terms channels) log result) :
    ∃ part, Empties target channels log part := by
  have hnone : Empties target channels [] [] := ⟨List.nil_sublist _, rfl⟩
  rcases runs_transfer_cases h htarget hrun with
    ⟨-, -, -, rfl, -⟩ | ⟨-, ⟨-, rfl, -⟩ | ⟨-, report, hattempts, -⟩⟩
  · exact ⟨[], hnone⟩
  · exact ⟨[], hnone⟩
  · obtain ⟨⟨part, hsub, hmovements⟩, -⟩ :=
      runs_attemptAll_cases (h.msat_fits target htarget) hattempts
    exact ⟨part, hsub, hmovements⟩

/-! ## Safety -/

/-- Three channels, the second the largest. -/
def threeChannels : List Channel :=
  [⟨1, 1, "", "a:0", 10, 4, 6, 0, 0, 0⟩, ⟨2, 2, "", "b:0", 20, 5, 15, 0, 0, 3⟩,
    ⟨3, 3, "", "c:0", 10, 6, 4, 0, 0, 0⟩]

theorem orderly_threeChannels : Orderly threeChannels := by
  refine ⟨by decide, by decide, by decide, by decide, by decide, fun target h => ?_,
    fun target h => ?_⟩ <;>
  · rw [h.eq_of_getElem? rfl]
    decide

/-- A node on which the first payment fails and those after it go through. -/
def flakyNode : (r : Request) → Nat → Option r.Reply × Nat
  | .node (.addPlainInvoice _ _), sent => (some (.ok ⟨"", [], []⟩), sent)
  | .node .getInfo, sent => (some (.ok ⟨"", 0, "", ""⟩), sent)
  | .node (.sendToRoute _ _), 0 => (some (.ok ⟨"no route", [], []⟩), 1)
  | .node (.sendToRoute _ _), sent => (some (.ok ⟨"", [], []⟩), sent + 1)
  | _, sent => (none, sent)

end LiquidityClient.Rebalance
