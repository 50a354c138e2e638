import LiquidityClient.Proofs.RebalanceClosing
import LiquidityClient.Proofs.RebalanceTransfer

/-!
# What a rebalance closes

The task that closes lists the channels anew and closes those without local balance. It is told
neither which channel the transfer chose as its target nor what the transfer achieved. In a run that
lists the channels twice (`listings`), where the second listing is the first one with the payments
settled (`Settled`), the target is thus closed exactly if it had no local balance and no payment
went through (`run_closes_target_iff`), and some channel stays open exactly if one had a local
balance.
-/

namespace LiquidityClient.Rebalance

open Program

variable {terms : Terms} {settings : RebalanceSettings} {died : Phase → String} {target : Channel}
  {channels channels' : List Channel} {log : Transcript Collaborators}

/-! ## What is asked to be closed -/

/-- The node is asked to close the channel with this funding output. -/
def AsksToClose (settings : RebalanceSettings) (log : Transcript Collaborators)
    (outpoint : String × UInt32) : Prop :=
  ∃ e ∈ log, e.request =
    .node (.closeChannel outpoint.1 outpoint.2 settings.closeSatPerVbyte)

variable {outpoint outpoint' : String × UInt32}

theorem asksToClose_append {log' : Transcript Collaborators} :
    AsksToClose settings (log ++ log') outpoint ↔
      AsksToClose settings log outpoint ∨ AsksToClose settings log' outpoint := by
  simp [AsksToClose, or_and_right, exists_or]

theorem asksToClose_exchanges {limit : Nat} (tries : ClosingAttempts limit) :
    AsksToClose settings (tries.exchanges settings) outpoint ↔ outpoint = tries.outpoint := by
  constructor
  · rintro ⟨e, he, hrequest⟩
    have hattempt {answer : Except Fault Unit}
        (h : (ClosingAttempts.attempt settings tries.outpoint answer).request =
          .node (.closeChannel outpoint.1 outpoint.2 settings.closeSatPerVbyte)) :
        outpoint = tries.outpoint := by
      simpa [ClosingAttempts.attempt, Prod.ext_iff, eq_comm] using h
    rcases List.mem_append.1 he with hfailed | hlast
    · obtain ⟨cause, -, hmem⟩ := List.mem_flatMap.1 hfailed
      rcases List.mem_pair.1 hmem with rfl | rfl
      · exact hattempt hrequest
      · cases hrequest
    · rw [List.mem_singleton.1 hlast] at hrequest
      exact hattempt hrequest
  · rintro rfl
    exact ⟨_, List.mem_append_right _ (List.mem_singleton_self _), rfl⟩

/-- The channels that the node is asked to close are those without local balance. -/
theorem asksToClose_of_runs_closeEmptied {closed count : Nat}
    (h : Runs (closeEmptied settings closed channels) log (some count)) :
    AsksToClose settings log outpoint ↔ ∃ c ∈ channels, c.localBalance = 0 ∧
      ChannelPoint.parse c.channelPoint = .ok outpoint := by
  obtain ⟨tries, htries, rfl, -⟩ := runs_closeEmptied_iff.1 h
  calc AsksToClose settings (tries.flatMap (ClosingAttempts.exchanges settings)) outpoint
      ↔ ∃ t ∈ tries, AsksToClose settings (t.exchanges settings) outpoint := by
        simp only [AsksToClose, List.mem_flatMap]
        exact ⟨fun ⟨e, ⟨t, ht, he⟩, hrequest⟩ => ⟨t, ht, e, he, hrequest⟩,
          fun ⟨t, ht, e, he, hrequest⟩ => ⟨e, ⟨t, ht, he⟩, hrequest⟩⟩
    _ ↔ outpoint ∈ tries.map ClosingAttempts.outpoint := by
        simp only [asksToClose_exchanges, List.mem_map, eq_comm]
    _ ↔ ∃ c ∈ channels, c.localBalance = 0 ∧
          ChannelPoint.parse c.channelPoint = .ok outpoint := by
        rw [htries]
        simp only [List.mem_filterMap, emptied?_eq_some_iff]

/-! ## The listings -/

/-- The channels that an exchange lists. -/
def listing? : Exchange Collaborators → Option (List Channel)
  | ⟨.node .listChannels, some (.ok channels)⟩ => some channels
  | _ => none

/-- The channels that the node lists, each time that it does. -/
def listings (log : Transcript Collaborators) : List (List Channel) :=
  log.filterMap listing?

theorem listings_append (log log' : Transcript Collaborators) :
    listings (log ++ log') = listings log ++ listings log' :=
  List.filterMap_append

theorem listings_eq_nil (h : ∀ e ∈ log, e.request ≠ .node .listChannels) : listings log = [] := by
  refine List.filterMap_eq_nil_iff.2 fun ⟨request, reply⟩ he => ?_
  have hrequest := h _ he
  cases request with
  | node r =>
    cases r with
    | listChannels => exact absurd rfl hrequest
    | _ => rfl
  | _ => rfl

/-- The task that closes lists the channels once, if at all, and closes those of them without local
balance. -/
theorem asksToClose_of_runs_closeSettled {count : Nat}
    (h : Runs (closeSettled settings) log (some count)) (hlisting : listings log = [channels])
    (hlength : 1 < channels.length) :
    AsksToClose settings log outpoint ↔ ∃ c ∈ channels, c.localBalance = 0 ∧
      ChannelPoint.parse c.channelPoint = .ok outpoint := by
  obtain ⟨_, _, rfl, hlist⟩ := runs_ask_some_iff.1 h
  obtain ⟨listed, log₂, rfl, hclose⟩ := runs_ask_some_iff.1 hlist
  obtain cause | listed := listed
  · obtain ⟨rfl, -⟩ := runs_pure_iff.1 hclose
    cases hlisting
  · have hrest : Runs (if listed.length ≤ 1 then .pure 0 else closeEmptied settings 0 listed)
        log₂ (some count) := hclose
    have hfirst : listed :: listings log₂ = [channels] := hlisting
    obtain ⟨rfl, -⟩ := List.cons.inj hfirst
    rw [if_neg (by omega)] at hrest
    rw [← asksToClose_of_runs_closeEmptied hrest]
    simp [AsksToClose]

/-- What closes channels pays nothing. -/
theorem movements_eq_nil (h : ∀ e ∈ log, CloseRequest settings e.request) : movements log = [] := by
  refine List.filterMap_eq_nil_iff.2 fun ⟨request, reply⟩ he => ?_
  cases h _ he <;> rfl

/-! ## The whole rebalance -/

/-- A rebalance with two listings transfers after the first one and closes after the second. -/
theorem runs_run_cases {result : Option (Except ClientError RebalanceReport)}
    (h : Runs (run terms settings died).run log result)
    (hlistings : listings log = [channels, channels']) :
    ∃ transferred closed log₁ log₂,
      log = ⟨.node .listChannels, some (.ok channels)⟩ :: (log₁ ++ log₂) ∧
      Runs (transfer terms channels) log₁ transferred ∧
      Runs (closeSettled settings) log₂ closed ∧ listings log₂ = [channels'] ∧
      result = some (conclude died transferred closed) := by
  rcases Runs.ask_cases h with ⟨listed, rest, rfl, hrest⟩ | ⟨rfl, rfl⟩
  · obtain cause | listed := listed
    · obtain ⟨rfl, -⟩ := Program.runs_pure_iff.1 hrest
      cases hlistings
    · have hnext : Runs (ExceptT.run (if listed.length ≤ 1 then pure {}
          else runTasks terms settings died listed)) rest result := hrest
      split_ifs at hnext with hlength
      · obtain ⟨rfl, -⟩ := Program.runs_pure_iff.1 hnext
        cases hlistings
      · cases hnext with
        | @both _ _ _ _ _ _ log₁ log₂ log₃ transferred closed _ hfirst hsecond hend =>
          obtain ⟨rfl, rfl⟩ := Program.runs_pure_iff.1 hend
          rw [List.append_nil] at hlistings ⊢
          have hnone : listings log₁ = [] := listings_eq_nil fun e he hrequest => by
            cases hrequest ▸ (inOrder_transfer listed).allowed_of_runs hfirst e he
          have hsplit : listed :: (listings log₁ ++ listings log₂) = [channels, channels'] :=
            (congrArg (listed :: ·) (listings_append log₁ log₂)).symm.trans hlistings
          rw [hnone, List.nil_append] at hsplit
          obtain ⟨rfl, hclosing⟩ := List.cons.inj hsplit
          cases hsecond with
          | await hsecond =>
            exact ⟨transferred, closed, log₁, log₂, rfl, hfirst, hsecond, hclosing, rfl⟩
  · cases hlistings

/-- The payments of a rebalance with two listings empty some of the sources. -/
theorem exists_empties_of_runs_run {result : Option (Except ClientError RebalanceReport)}
    (h : Orderly channels) (htarget : IsTarget channels target)
    (hrun : Runs (run terms settings died).run log result)
    (hlistings : listings log = [channels, channels']) :
    ∃ part, Empties target channels log part := by
  obtain ⟨transferred, closed, log₁, log₂, rfl, hfirst, hsecond, -, -⟩ :=
    runs_run_cases hrun hlistings
  obtain ⟨part, hsub, hmovements⟩ := exists_empties_of_runs_transfer h htarget hfirst
  have hnone : movements log₂ = [] :=
    movements_eq_nil (inOrder_closeSettled.allowed_of_runs hsecond)
  refine ⟨part, hsub, ?_⟩
  calc movements (⟨.node .listChannels, some (.ok channels)⟩ :: (log₁ ++ log₂))
      = movements log₁ ++ movements log₂ := movements_append log₁ log₂
    _ = part.map emptying := by rw [hnone, List.append_nil, hmovements]

/-- A rebalance with two listings asks to close exactly the channels of the second one without local
balance. -/
theorem asksToClose_of_runs_run {result : Option (Except ClientError RebalanceReport)}
    (hrun : Runs (run terms settings died).run log result)
    (hlistings : listings log = [channels, channels']) (hlength : 1 < channels'.length)
    (hclosed : result ≠ some (.error (.task ("rebalance close: " ++ died .close)))) :
    AsksToClose settings log outpoint ↔ ∃ c ∈ channels', c.localBalance = 0 ∧
      ChannelPoint.parse c.channelPoint = .ok outpoint := by
  obtain ⟨transferred, closed, log₁, log₂, rfl, hfirst, hsecond, hlisting, rfl⟩ :=
    runs_run_cases hrun hlistings
  cases closed with
  | none => exact absurd rfl hclosed
  | some count =>
    have htransfer : ¬AsksToClose settings log₁ outpoint := by
      rintro ⟨e, he, hrequest⟩
      cases hrequest ▸ (inOrder_transfer channels).allowed_of_runs hfirst e he
    have hlist : ¬AsksToClose settings [⟨.node .listChannels, some (.ok channels)⟩] outpoint := by
      simp [AsksToClose]
    rw [← asksToClose_of_runs_closeSettled hsecond hlisting hlength, ← List.singleton_append,
      asksToClose_append, asksToClose_append]
    simp [htransfer, hlist]

/-- Each channel has a funding output of its own. -/
structure HasOutpoints (channels : List Channel) : Prop where
  parses : ∀ c ∈ channels, ∃ outpoint, ChannelPoint.parse c.channelPoint = .ok outpoint
  nodup : (channels.map fun c => (ChannelPoint.parse c.channelPoint).toOption).Nodup

/-- The second listing is the first one with the payments settled that went through. -/
def Settled (target : Channel) (log : Transcript Collaborators)
    (channels channels' : List Channel) :
    Prop :=
  channels'.map (fun c => (c.channelPoint, c.localBalance.toInt)) =
    channels.map fun c => (c.channelPoint, localAfter target log c)

/-- The node is asked to close a channel. -/
def Closes (settings : RebalanceSettings) (log : Transcript Collaborators) (c : Channel) : Prop :=
  ∃ outpoint, ChannelPoint.parse c.channelPoint = .ok outpoint ∧ AsksToClose settings log outpoint

theorem Settled.closes_iff (hsettled : Settled target log channels channels')
    (houtpoints : HasOutpoints channels)
    (hasks : ∀ outpoint, AsksToClose settings log outpoint ↔ ∃ c ∈ channels', c.localBalance = 0 ∧
      ChannelPoint.parse c.channelPoint = .ok outpoint) {c : Channel} (hc : c ∈ channels) :
    Closes settings log c ↔ localAfter target log c = 0 := by
  constructor
  · rintro ⟨outpoint, hparse, hclose⟩
    obtain ⟨c', hc', hzero, hparse'⟩ := (hasks outpoint).1 hclose
    have hmem := List.mem_map_of_mem (f := fun c => (c.channelPoint, c.localBalance.toInt)) hc'
    rw [hsettled] at hmem
    obtain ⟨d, hd, hsame⟩ := List.mem_map.1 hmem
    obtain ⟨hpoint, hlocal⟩ := Prod.mk.inj hsame
    have hd' : d = c := by
      refine List.inj_on_of_nodup_map houtpoints.nodup hd hc ?_
      rw [hpoint, hparse', hparse]
    rw [← hd', hlocal, hzero]
    rfl
  · intro hzero
    obtain ⟨outpoint, hparse⟩ := houtpoints.parses c hc
    have hmem := List.mem_map_of_mem (f := fun c => (c.channelPoint, localAfter target log c)) hc
    rw [← hsettled] at hmem
    obtain ⟨c', hc', hsame⟩ := List.mem_map.1 hmem
    obtain ⟨hpoint, hlocal⟩ := Prod.mk.inj hsame
    refine ⟨outpoint, hparse, (hasks outpoint).2 ⟨c', hc', ?_, hpoint ▸ hparse⟩⟩
    exact Int64.toInt_inj.1 (hlocal.trans hzero)

/-- A rebalance that comes to its second listing asks to close the target exactly if the target has
no local balance and no payment went through, and it asks to close all channels exactly if none has
a local balance. -/
theorem run_closes_target_iff (terms : Terms) (settings : RebalanceSettings)
    (died : Phase → String) (h : Orderly channels) (houtpoints : HasOutpoints channels)
    (htarget : IsTarget channels target)
    {result : Option (Except ClientError RebalanceReport)}
    (hrun : Runs (run terms settings died).run log result)
    (hlength : 1 < channels.length) (hlistings : listings log = [channels, channels'])
    (hsettled : Settled target log channels channels')
    (hclosed : result ≠ some (.error (.task ("rebalance close: " ++ died .close)))) :
    (Closes settings log target ↔ target.localBalance = 0 ∧ movements log = []) ∧
      ((∀ c ∈ channels, Closes settings log c) ↔ ∀ c ∈ channels, c.localBalance = 0) := by
  have hlength' : channels'.length = channels.length := by
    simpa using congrArg List.length hsettled
  obtain ⟨part, hempties⟩ := exists_empties_of_runs_run h htarget hrun hlistings
  have hcloses {c : Channel} (hc : c ∈ channels) :
      Closes settings log c ↔ localAfter target log c = 0 :=
    hsettled.closes_iff houtpoints
      (fun _ => asksToClose_of_runs_run hrun hlistings (by omega) hclosed) hc
  obtain ⟨hpaid, hle⟩ := hempties.paid_le h.local_nonneg
  have hzero (n : Int64) : n = 0 ↔ n.toInt = 0 := Int64.toInt_inj.symm
  constructor
  · have hlocal := h.local_nonneg target htarget.mem
    rw [hcloses htarget.mem, hempties.localAfter_target, hzero,
      ← hempties.paid_eq_zero_iff h.local_nonneg]
    omega
  · simp only [hzero]
    constructor
    · intro hall
      -- With nothing left after the payments there was nothing before.
      have hsum := hempties.sum_localAfter h.ids_nodup htarget.mem
      have hnone : channels.map (localAfter target log) = channels.map fun _ => 0 :=
        List.map_congr_left fun c hc => (hcloses hc).1 (hall c hc)
      have hlocal : localSum channels = 0 := by
        rw [← hsum, hnone]
        simp
      exact fun c hc => List.all_zero_of_le_zero_le_of_sum_eq_zero
        (List.forall_mem_map.2 h.local_nonneg) hlocal (List.mem_map_of_mem hc)
    · intro hall c hc
      have hothers : localSum (others target channels) = 0 :=
        List.sum_eq_zero (List.forall_mem_map.2 fun d hd => hall d (List.mem_of_mem_filter hd))
      have hfrom := hempties.paidFrom_cases h.ids_nodup hc
      have hbalance := hall c hc
      rw [hcloses hc, localAfter]
      split_ifs at hfrom ⊢ <;> omega

/-! ## A target that is closed -/

/-- The rebalance of a node under terms without fees. -/
def freeRun : Program Collaborators (Except ClientError RebalanceReport) :=
  (run freeTerms {} fun _ => "").run

/-- A node whose channels stay as they are, since it refuses every payment. -/
def stillNode (channels : List Channel) : (r : Request) → Unit → Option r.Reply × Unit
  | .node .listChannels, s => (some (.ok channels), s)
  | .node (.addPlainInvoice _ _), s => (some (.ok ⟨"", [], []⟩), s)
  | .node .getInfo, s => (some (.ok ⟨"", 0, "", ""⟩), s)
  | .node (.sendToRoute _ _), s => (some (.ok ⟨"no route", [], []⟩), s)
  | .node (.closeChannel _ _ _), s => (some (.ok ()), s)
  | .pause _, s => (some (), s)
  | _, s => (none, s)

theorem orderly_twoChannels : Orderly (twoChannels 5 0) := by
  refine ⟨by decide, by decide, by decide, by decide, by decide, fun target h => ?_,
    fun target h => ?_⟩ <;>
  · rw [h.eq_of_getElem? rfl]
    decide

theorem hasOutpoints_twoChannels : HasOutpoints (twoChannels 5 0) := by
  refine ⟨fun c hc => ?_, by decide⟩
  rcases List.mem_pair.1 hc with rfl | rfl
  · exact ⟨("a", 0), by rfl⟩
  · exact ⟨("b", 0), by rfl⟩

/-- The payment into the target fails, and the target is closed in place of the channel that still
has its balance. -/
theorem run_closes_target_unpaid :
    let (result, log) := record (stillNode (twoChannels 5 0)) freeRun ()
    Orderly (twoChannels 5 0) ∧ HasOutpoints (twoChannels 5 0) ∧
      result = some (.ok ⟨1, 0, 1⟩) ∧ ∃ target, IsTarget (twoChannels 5 0) target ∧
        Settled target log (twoChannels 5 0) (twoChannels 5 0) ∧ Closes {} log target ∧
          ¬∀ c ∈ twoChannels 5 0, Closes {} log c := by
  have hrun := runs_record (stillNode (twoChannels 5 0)) freeRun ()
  have hsettled {target : Channel} (h : IsTarget (twoChannels 5 0) target) : Settled target
      (record (stillNode (twoChannels 5 0)) freeRun ()).2 (twoChannels 5 0)
        (twoChannels 5 0) := by
    rw [h.eq_of_getElem? rfl]
    rfl
  obtain ⟨target, htarget⟩ := exists_isTarget orderly_twoChannels.exists_capacity
  have hcloses := run_closes_target_iff freeTerms {} _ orderly_twoChannels
    hasOutpoints_twoChannels htarget hrun (by decide) rfl (hsettled htarget) (by decide)
  refine ⟨orderly_twoChannels, hasOutpoints_twoChannels, rfl, target, htarget,
    hsettled htarget, hcloses.1.2 ⟨?_, rfl⟩, mt hcloses.2.1 (by decide)⟩
  rw [htarget.eq_of_getElem? rfl]

/-- Two channels without local balance are both closed, the target too. -/
theorem not_run_keeps_target :
    let (result, log) := record (stillNode (twoChannels 0 0)) freeRun ()
    Runs freeRun log result ∧ result = some (.ok ⟨0, 0, 2⟩) ∧
      listings log = [twoChannels 0 0, twoChannels 0 0] ∧
      ∃ target, IsTarget (twoChannels 0 0) target ∧
        Settled target log (twoChannels 0 0) (twoChannels 0 0) ∧ Closes {} log target ∧
          ∀ c ∈ twoChannels 0 0, Closes {} log c := by
  have hrun := runs_record (stillNode (twoChannels 0 0)) freeRun ()
  have htarget : IsTarget (twoChannels 0 0) ⟨2, 2, "", "b:0", 20, 0, 15, 0, 0, 0⟩ :=
    ⟨by decide, [_], [], rfl, List.forall_mem_singleton.2 (by decide), nofun⟩
  have hcloses : ∀ c ∈ twoChannels 0 0, Closes {}
      (record (stillNode (twoChannels 0 0)) freeRun ()).2 c := by
    intro c hc
    rcases List.mem_pair.1 hc with rfl | rfl
    · exact ⟨("a", 0), by rfl, _, .tail _ (.tail _ (.tail _ (.head _))), rfl⟩
    · exact ⟨("b", 0), by rfl, _, .tail _ (.tail _ (.tail _ (.tail _ (.head _)))), rfl⟩
  exact ⟨hrun, rfl, rfl, _, htarget, rfl, hcloses _ htarget.mem, hcloses⟩

end LiquidityClient.Rebalance
