import LiquidityClient.Proofs.RebalanceRequests

/-!
# Attempts to close channels

The task that closes takes the channels of its own listing one after the other. For each that it
wants closed (`closable`) there are attempts (`ClosingAttempts`), failed ones and a last one, and
there are fewer than allowed only if the last one starts the close. `runs_close_iff` says that the
runs of the task are these attempts in the order of the listing, whatever the node answers, and that
it counts those that started a close.
-/

namespace LiquidityClient.Rebalance

open Program

variable {settings : RebalanceSettings} {log : Transcript Collaborators}
    {outpoint : String × UInt32}

/-! ## What is to be closed -/

/-- The funding output of a channel without local balance, if its channel point can be read. -/
def emptied? (c : Channel) : Option (String × UInt32) :=
  if c.localBalance = 0 then (ChannelPoint.parse c.channelPoint).toOption else none

theorem emptied?_eq_some_iff {c : Channel} : emptied? c = some outpoint ↔
    c.localBalance = 0 ∧ ChannelPoint.parse c.channelPoint = .ok outpoint := by
  unfold emptied?
  cases ChannelPoint.parse c.channelPoint <;> simp [Except.toOption]

/-- The funding outputs of the channels to close, in the order of their listing : none if the
channels cannot be listed or are fewer than two. -/
def closable : Except Fault (List Channel) → List (String × UInt32)
  | .error _ => []
  | .ok channels => if channels.length ≤ 1 then [] else channels.filterMap emptied?

/-! ## Attempts -/

/-- The attempts to close a channel : some that failed, and the last one. All that are allowed are
made, unless the last one starts the close. -/
structure ClosingAttempts (limit : Nat) where
  outpoint : String × UInt32
  failures : List Fault
  last : Except Fault Unit
  within : failures.length < limit
  exhausted : ∀ cause, last = .error cause → failures.length + 1 = limit

namespace ClosingAttempts

variable {limit : Nat}

/-- Is the close started in the end? -/
def started (tries : ClosingAttempts limit) : Bool :=
  tries.last.isOk

/-- An attempt to close a channel. -/
def attempt (settings : RebalanceSettings) (outpoint : String × UInt32)
    (answer : Except Fault Unit) :
    Exchange Collaborators :=
  ⟨.node (.closeChannel outpoint.1 outpoint.2 settings.closeSatPerVbyte), some answer⟩

/-- A failed attempt with the pause that follows. -/
def retried (settings : RebalanceSettings) (outpoint : String × UInt32) (cause : Fault) :
    Transcript Collaborators :=
  [attempt settings outpoint (.error cause), ⟨.pause settings.closeRetryDelayMs.toNat, some ()⟩]

/-- What is asked in these attempts. -/
def exchanges (settings : RebalanceSettings) (tries : ClosingAttempts limit) :
    Transcript Collaborators :=
  tries.failures.flatMap (retried settings tries.outpoint) ++
    [attempt settings tries.outpoint tries.last]

/-- One attempt, which starts the close. -/
def success (outpoint : String × UInt32) : ClosingAttempts (limit + 1) :=
  ⟨outpoint, [], .ok (), Nat.zero_lt_succ limit, nofun⟩

/-- The only attempt that is allowed, failed. -/
def failure (outpoint : String × UInt32) (cause : Fault) : ClosingAttempts 1 :=
  ⟨outpoint, [], .error cause, Nat.zero_lt_one, fun _ _ => rfl⟩

/-- Attempts after one that failed. -/
def after (cause : Fault) (tries : ClosingAttempts limit) : ClosingAttempts (limit + 1) :=
  ⟨tries.outpoint, cause :: tries.failures, tries.last, Nat.succ_lt_succ tries.within,
    fun cause' h => congrArg Nat.succ (tries.exhausted cause' h)⟩

theorem exchanges_after (cause : Fault) (tries : ClosingAttempts limit) :
    (tries.after cause).exchanges settings =
      retried settings tries.outpoint cause ++ tries.exchanges settings := by
  simp [exchanges, after]

/-- Attempts of which more than one is allowed start the close at once, or go on after a failure. -/
theorem after_cases (tries : ClosingAttempts (limit + 2)) :
    tries = success tries.outpoint ∨
      ∃ cause, ∃ rest : ClosingAttempts (limit + 1), tries = rest.after cause := by
  obtain ⟨outpoint, _ | ⟨cause, failures⟩, last, hwithin, hexhausted⟩ := tries
  · obtain cause | _ := last
    · have hlimit : 0 + 1 = limit + 2 := hexhausted cause rfl
      omega
    · exact Or.inl rfl
  · exact Or.inr ⟨cause, ⟨outpoint, failures, last, Nat.lt_of_succ_lt_succ hwithin,
      fun cause' h => Nat.succ.inj (hexhausted cause' h)⟩, rfl⟩

end ClosingAttempts

open ClosingAttempts

/-! ## One channel -/

/-- An attempt starts the close or fails, and a failure is followed by a pause and the attempts that
are left. -/
theorem closeChannel_succ (txid : String) (index : UInt32) (remaining : Nat) :
    closeChannel settings txid index (remaining + 1) =
      .ask (.node (.closeChannel txid index settings.closeSatPerVbyte)) fun
        | .ok () => .pure true
        | .error _ =>
          if remaining = 0 then .pure false
          else .ask (.pause settings.closeRetryDelayMs.toNat) fun _ =>
            closeChannel settings txid index remaining := by
  rw [closeChannel]
  refine congrArg (Program.ask _) (funext fun reply => ?_)
  obtain cause | _ := reply
  · by_cases hremaining : remaining = 0
    · simp only [if_pos hremaining]
      rfl
    · simp only [if_neg hremaining]
      rfl
  · rfl

/-- The runs that try to close a channel are attempts to close it. -/
theorem runs_closeChannel_iff {limit : Nat} {started : Bool} (hlimit : 0 < limit) :
    Runs (closeChannel settings outpoint.1 outpoint.2 limit) log (some started) ↔
      ∃ tries : ClosingAttempts limit, tries.outpoint = outpoint ∧
        log = tries.exchanges settings ∧ started = tries.started := by
  obtain ⟨limit, rfl⟩ := Nat.exists_eq_add_one.2 hlimit
  clear hlimit
  induction limit generalizing log with
  | zero =>
    rw [closeChannel_succ, runs_ask_some_iff]
    constructor
    · rintro ⟨cause | _, rest, rfl, hrest⟩
      · obtain ⟨rfl, hresult⟩ := runs_pure_iff.1 hrest
        cases hresult
        exact ⟨failure outpoint cause, rfl, rfl, rfl⟩
      · obtain ⟨rfl, hresult⟩ := runs_pure_iff.1 hrest
        cases hresult
        exact ⟨success outpoint, rfl, rfl, rfl⟩
    · rintro ⟨⟨_, failures, last, hwithin, -⟩, rfl, rfl, rfl⟩
      -- With one attempt allowed there is none before the last.
      obtain rfl := List.length_eq_zero_iff.1 (Nat.lt_one_iff.1 hwithin)
      refine ⟨last, [], rfl, ?_⟩
      cases last <;> exact .pure _
  | succ limit ih =>
    rw [closeChannel_succ, runs_ask_some_iff]
    constructor
    · rintro ⟨cause | _, rest, rfl, hrest⟩
      · obtain ⟨_, rest, rfl, hagain⟩ := runs_ask_some_iff.1 hrest
        obtain ⟨tries, rfl, rfl, rfl⟩ := ih.1 hagain
        exact ⟨tries.after cause, rfl, (exchanges_after cause tries).symm, rfl⟩
      · obtain ⟨rfl, hresult⟩ := runs_pure_iff.1 hrest
        cases hresult
        exact ⟨success outpoint, rfl, rfl, rfl⟩
    · rintro ⟨tries, rfl, rfl, rfl⟩
      obtain hsuccess | ⟨cause, rest, rfl⟩ := tries.after_cases
      · rw [hsuccess]
        exact ⟨.ok (), [], rfl, .pure _⟩
      · refine ⟨.error cause, _, exchanges_after cause rest, ?_⟩
        exact runs_ask_some_iff.2 ⟨(), _, rfl, ih.2 ⟨rest, rfl, rfl, rfl⟩⟩

/-! ## All channels -/

theorem closeAttempts_pos : 0 < closeAttempts := by
  decide

/-- A channel that is not to be closed is passed over, and whether another one can be closed or not,
the rest of the channels follows. -/
theorem closeEmptied_cons (closed : Nat) (c : Channel) (rest : List Channel) :
    closeEmptied settings closed (c :: rest) =
      match emptied? c with
      | none => closeEmptied settings closed rest
      | some outpoint =>
        (closeChannel settings outpoint.1 outpoint.2 closeAttempts).bind fun started =>
          closeEmptied settings (closed + if started then 1 else 0) rest := by
  rw [closeEmptied, emptied?]
  by_cases hbalance : c.localBalance = 0
  · rw [if_neg fun h => h hbalance, if_pos hbalance]
    cases ChannelPoint.parse c.channelPoint with
    | error e => rfl
    | ok outpoint =>
      refine congrArg (Program.bind _) (funext fun started => ?_)
      cases started <;> rfl
  · rw [if_pos hbalance, if_neg hbalance]

/-- The runs that close the emptied channels are attempts for each of them in turn. -/
theorem runs_closeEmptied_iff {channels : List Channel} {closed count : Nat} :
    Runs (closeEmptied settings closed channels) log (some count) ↔
      ∃ tries : List (ClosingAttempts closeAttempts),
        tries.map ClosingAttempts.outpoint = channels.filterMap emptied? ∧
        log = tries.flatMap (exchanges settings) ∧
        count = closed + tries.countP ClosingAttempts.started := by
  induction channels generalizing closed log with
  | nil =>
    constructor
    · intro h
      obtain ⟨rfl, hresult⟩ := runs_pure_iff.1 h
      cases hresult
      exact ⟨[], rfl, rfl, rfl⟩
    · rintro ⟨tries, htries, rfl, rfl⟩
      obtain rfl := List.map_eq_nil_iff.1 htries
      exact .pure _
  | cons c rest ih =>
    rw [closeEmptied_cons]
    cases hemptied : emptied? c with
    | none => rw [ih, List.filterMap_cons_none hemptied]
    | some outpoint =>
      rw [List.filterMap_cons_some hemptied]
      dsimp only
      rw [runs_bind_some_iff]
      constructor
      · rintro ⟨started, log₁, log₂, rfl, hfirst, hrest⟩
        obtain ⟨tries, rfl, rfl, rfl⟩ := (runs_closeChannel_iff closeAttempts_pos).1 hfirst
        obtain ⟨others, hothers, rfl, rfl⟩ := ih.1 hrest
        refine ⟨tries :: others, ?_, rfl, ?_⟩
        · rw [List.map_cons, hothers]
        · rw [List.countP_cons]
          omega
      · rintro ⟨_ | ⟨tries, others⟩, htries, rfl, rfl⟩
        · cases htries
        · obtain ⟨rfl, hothers⟩ := List.cons.inj htries
          refine ⟨tries.started, tries.exchanges settings, others.flatMap (exchanges settings), rfl,
            (runs_closeChannel_iff closeAttempts_pos).2 ⟨tries, rfl, rfl, rfl⟩,
            ih.2 ⟨others, hothers, rfl, ?_⟩⟩
          rw [List.countP_cons]
          omega

/-- What the task that closes does with its listing. -/
def closeListed (settings : RebalanceSettings) :
    Except Fault (List Channel) → Program Collaborators Nat
  | .error _ => .pure 0
  | .ok channels => if channels.length ≤ 1 then .pure 0 else closeEmptied settings 0 channels

/-- The task that closes lists the channels after a pause. -/
theorem close_eq : close settings = .await (.ask (.pause settings.settleDelayMs.toNat) fun _ =>
    .ask (.node .listChannels) (closeListed settings)) := by
  refine congrArg Program.await (congrArg (Program.ask _) (funext fun _ => ?_))
  refine congrArg (Program.ask _) (funext fun listed => ?_)
  cases listed <;> rfl

theorem runs_closeListed_iff {listed : Except Fault (List Channel)} {count : Nat} :
    Runs (closeListed settings listed) log (some count) ↔
      ∃ tries : List (ClosingAttempts closeAttempts),
        tries.map ClosingAttempts.outpoint = closable listed ∧
        log = tries.flatMap (exchanges settings) ∧
        count = tries.countP ClosingAttempts.started := by
  have hnone : Runs (.pure 0 : Program Collaborators Nat) log (some count) ↔
      ∃ tries : List (ClosingAttempts closeAttempts), tries.map ClosingAttempts.outpoint = [] ∧
        log = tries.flatMap (exchanges settings) ∧
        count = tries.countP ClosingAttempts.started := by
    simp [runs_pure_iff]
  cases listed with
  | error cause => exact hnone
  | ok channels =>
    rw [closeListed, closable]
    split_ifs
    · exact hnone
    · simp only [runs_closeEmptied_iff, Nat.zero_add]

/-- Whatever the node answers, the task that closes lets the channels settle, lists them, and makes
attempts to close those that are to be closed, one after the other in the order of the listing. It
counts those whose close was started. -/
theorem runs_close_iff (settings : RebalanceSettings) (log : Transcript Collaborators)
    (count : Nat) :
    Runs (close settings) log (some count) ↔
      ∃ (listed : Except Fault (List Channel)) (tries : List (ClosingAttempts closeAttempts)),
        tries.map ClosingAttempts.outpoint = closable listed ∧
        log = ⟨.pause settings.settleDelayMs.toNat, some ()⟩ ::
          ⟨.node .listChannels, some listed⟩ ::
          tries.flatMap (exchanges settings) ∧
        count = tries.countP ClosingAttempts.started := by
  rw [close_eq]
  constructor
  · intro h
    cases h with
    | await hsettle =>
      obtain ⟨_, _, rfl, hlist⟩ := runs_ask_some_iff.1 hsettle
      obtain ⟨listed, _, rfl, hclose⟩ := runs_ask_some_iff.1 hlist
      obtain ⟨tries, htries, rfl, rfl⟩ := runs_closeListed_iff.1 hclose
      exact ⟨listed, tries, htries, rfl, rfl⟩
  · rintro ⟨listed, tries, htries, rfl, rfl⟩
    refine .await (.answered (.answered ?_))
    exact runs_closeListed_iff.2 ⟨tries, htries, rfl, rfl⟩

end LiquidityClient.Rebalance
