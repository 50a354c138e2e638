import LiquidityClient.Proofs.RouteConsistency

/-!
# The channel of the local hop

`spliceLocalHop` sends the payment over the first channel that carries the amount (`Carries`,
`FirstCarrier`), where the amount is the route's total and the fee for the hop, in whole satoshis.
What it gives is told by `Spliced` and each of its errors by one case of `Refused`; these exclude
one another, and an error leaves the caller's route as it was (`spliceLocalHop_spec`).

The satoshis are cut towards zero, so the channel may be short of the amount by less than one
satoshi (`short_of_spliceLocalHop`), also where a later channel is not.
-/

namespace LiquidityClient

namespace LocalHop

variable {terms : Terms} {route spliced : Route} {channels : List Channel}
  {feeLimitSat : Int64} {channelId : UInt64}

/-! ## Amounts -/

/-- What is to leave the wallet : the route's total and the fee for the hop. -/
def amountMsat (terms : Terms) (route : Route) : Int :=
  route.totalAmountMsat.toInt + (terms.hopFeeMsat route.totalAmountMsat).toInt

/-- All fees, with the fee for the hop. -/
def feesMsat (terms : Terms) (route : Route) : Int :=
  route.totalFeesMsat.toInt + (terms.hopFeeMsat route.totalAmountMsat).toInt

/-- The channel has an id, and its balance is at least the amount in whole satoshis. -/
def Carries (terms : Terms) (route : Route) (channel : Channel) : Prop :=
  channel.channelId ≠ 0 ∧ (amountMsat terms route).tdiv 1000 ≤ channel.localBalance.toInt

instance (channel : Channel) : Decidable (Carries terms route channel) :=
  inferInstanceAs (Decidable (_ ∧ _))

/-- The channel carries the amount, and none listed before it does. -/
def FirstCarrier (terms : Terms) (route : Route) (channels : List Channel) (channel : Channel) :
    Prop :=
  Carries terms route channel ∧
    ∃ before after, channels = before ++ channel :: after ∧ ∀ c ∈ before, ¬Carries terms route c

theorem find?_eq_some_iff {channel : Channel} :
    channels.find? (fun c => Carries terms route c) = some channel ↔
      FirstCarrier terms route channels channel := by
  simp [List.find?_eq_some_iff_append, FirstCarrier]

theorem exists_firstCarrier_iff :
    (∃ channel, FirstCarrier terms route channels channel) ↔
      ∃ channel ∈ channels, Carries terms route channel := by
  simp only [← find?_eq_some_iff, ← Option.isSome_iff_exists, List.find?_isSome, decide_eq_true_eq]

theorem FirstCarrier.unique {c d : Channel} (hc : FirstCarrier terms route channels c)
    (hd : FirstCarrier terms route channels d) : c = d :=
  Option.some.inj ((find?_eq_some_iff.2 hc).symm.trans (find?_eq_some_iff.2 hd))

/-- Satoshis are cut towards zero. -/
theorem toInt_sum_div {a b : Int64} (h : Word.IsInt64 (a.toInt + b.toInt)) :
    ((a + b) / msatPerSat).toInt = (a.toInt + b.toInt).tdiv 1000 := by
  rw [Int64.toInt_div_of_ne_right _ _ (by decide), toInt_add_of_isInt64 h]
  rfl

/-- An amount is less than a number of satoshis if it is so when cut towards zero. -/
theorem lt_mul_of_tdiv_lt {a limit : Int} (h : a.tdiv 1000 < limit) : a < 1000 * limit := by
  have hparts := Int.mul_tdiv_add_tmod a 1000
  have hrest := Int.tmod_lt_of_pos a (by decide : (0 : Int) < 1000)
  omega

/-! ## The result -/

/-- What is spliced in : a hop over the first channel that carries the amount, in front of the old
hops. -/
structure Spliced (terms : Terms) (route : Route) (channels : List Channel) (feeLimitSat : Int64)
    (channelId : UInt64) (spliced : Route) : Prop where
  fee_lt : (feesMsat terms route).tdiv 1000 < feeLimitSat.toInt
  first : ∃ channel, FirstCarrier terms route channels channel ∧ channel.channelId = channelId
  hops_eq : spliced.hops =
    { channelId
      amountMsat := route.totalAmountMsat
      feeMsat := terms.hopFeeMsat route.totalAmountMsat
      expiry := route.totalTimeLock
      nodeKey := terms.nodeKey
      tlvPayload := true
      multiPath := none } :: route.hops
  amount_eq : spliced.totalAmountMsat.toInt = amountMsat terms route
  fees_eq : spliced.totalFeesMsat.toInt = feesMsat terms route
  timeLock_eq : spliced.totalTimeLock.toNat = route.totalTimeLock.toNat + terms.timeLockDelta.toNat

/-- Why no hop is spliced in. Each reason comes after the ones before it : there is a channel to
look for only if the fees are low enough, and a lock to add only if there is a channel. -/
inductive Refused (terms : Terms) (route : Route) (channels : List Channel) (feeLimitSat : Int64) :
    RouteError → Prop
  | fees {feeSat : Int64} (hfee : feeSat.toInt = (feesMsat terms route).tdiv 1000)
      (hlimit : feeLimitSat.toInt ≤ (feesMsat terms route).tdiv 1000) :
      Refused terms route channels feeLimitSat (.feeLimitExceeded feeSat feeLimitSat)
  | channel {amountSat : Int64} (hamount : amountSat.toInt = (amountMsat terms route).tdiv 1000)
      (hlimit : (feesMsat terms route).tdiv 1000 < feeLimitSat.toInt)
      (hnone : ∀ c ∈ channels, ¬Carries terms route c) :
      Refused terms route channels feeLimitSat (.noLocalChannel amountSat)
  | timeLock (hlimit : (feesMsat terms route).tdiv 1000 < feeLimitSat.toInt)
      (hsome : ∃ c ∈ channels, Carries terms route c)
      (hlock : UInt32.size ≤ route.totalTimeLock.toNat + terms.timeLockDelta.toNat) :
      Refused terms route channels feeLimitSat (.fault (Route.overflow "time lock"))

/-- The new fees are under the limit, whatever their sign and the rest of their satoshi. -/
theorem Spliced.fees_lt (h : Spliced terms route channels feeLimitSat channelId spliced) :
    spliced.totalFeesMsat.toInt < 1000 * feeLimitSat.toInt := by
  rw [h.fees_eq]
  exact lt_mul_of_tdiv_lt h.fee_lt

/-- There is a result exactly if the fees are low enough, a channel carries the amount and the lock
can be added. -/
theorem exists_spliced_iff (hamount : Word.IsInt64 (amountMsat terms route))
    (hfees : Word.IsInt64 (feesMsat terms route)) :
    (∃ channelId spliced, Spliced terms route channels feeLimitSat channelId spliced) ↔
      (feesMsat terms route).tdiv 1000 < feeLimitSat.toInt ∧
        (∃ channel ∈ channels, Carries terms route channel) ∧
        route.totalTimeLock.toNat + terms.timeLockDelta.toNat < UInt32.size := by
  rw [← exists_firstCarrier_iff]
  constructor
  · rintro ⟨channelId, spliced, h⟩
    obtain ⟨channel, hfirst, -⟩ := h.first
    exact ⟨h.fee_lt, ⟨channel, hfirst⟩, h.timeLock_eq ▸ spliced.totalTimeLock.toNat_lt⟩
  · rintro ⟨hlimit, ⟨channel, hfirst⟩, hlock⟩
    refine ⟨channel.channelId, ⟨_, route.totalTimeLock + terms.timeLockDelta,
      route.totalFeesMsat + terms.hopFeeMsat route.totalAmountMsat,
      route.totalAmountMsat + terms.hopFeeMsat route.totalAmountMsat⟩, hlimit,
      ⟨channel, hfirst, rfl⟩, rfl, toInt_add_of_isInt64 hamount, toInt_add_of_isInt64 hfees, ?_⟩
    rw [UInt32.toNat_add]
    exact Nat.mod_eq_of_lt hlock

/-! ## The outcomes exclude one another -/

theorem Spliced.unique {channelId' : UInt64} {spliced' : Route}
    (h : Spliced terms route channels feeLimitSat channelId spliced)
    (h' : Spliced terms route channels feeLimitSat channelId' spliced') :
    channelId = channelId' ∧ spliced = spliced' := by
  obtain ⟨_, hfirst, rfl⟩ := h.first
  obtain ⟨_, hfirst', rfl⟩ := h'.first
  cases hfirst.unique hfirst'
  have hhops := h.hops_eq.trans h'.hops_eq.symm
  have hlock := UInt32.toNat_inj.1 (h.timeLock_eq.trans h'.timeLock_eq.symm)
  have hfees := Int64.toInt_inj.1 (h.fees_eq.trans h'.fees_eq.symm)
  have hamount := Int64.toInt_inj.1 (h.amount_eq.trans h'.amount_eq.symm)
  cases spliced
  cases spliced'
  simp_all

theorem Refused.unique {e e' : RouteError} (h : Refused terms route channels feeLimitSat e)
    (h' : Refused terms route channels feeLimitSat e') : e = e' := by
  cases h with
  | fees hfee hlimit =>
    cases h' with
    | fees hfee' _ => rw [Int64.toInt_inj.1 (hfee.trans hfee'.symm)]
    | channel _ hlimit' _ => omega
    | timeLock hlimit' _ _ => omega
  | channel hamount hlimit hnone =>
    cases h' with
    | fees _ hlimit' => omega
    | channel hamount' _ _ => rw [Int64.toInt_inj.1 (hamount.trans hamount'.symm)]
    | timeLock _ hsome _ =>
      obtain ⟨c, hc, hcarries⟩ := hsome
      exact absurd hcarries (hnone c hc)
  | timeLock hlimit hsome _ =>
    cases h' with
    | fees _ hlimit' => omega
    | channel _ _ hnone =>
      obtain ⟨c, hc, hcarries⟩ := hsome
      exact absurd hcarries (hnone c hc)
    | timeLock => rfl

theorem Spliced.not_refused {e : RouteError}
    (h : Spliced terms route channels feeLimitSat channelId spliced) :
    ¬Refused terms route channels feeLimitSat e := by
  obtain ⟨channel, hfirst, -⟩ := h.first
  have hlt := h.fee_lt
  have hbound := spliced.totalTimeLock.toNat_lt
  rintro (⟨-, hlimit⟩ | ⟨-, -, hnone⟩ | ⟨-, -, hlock⟩)
  · omega
  · obtain ⟨c, hc, hcarries⟩ := exists_firstCarrier_iff.1 ⟨channel, hfirst⟩
    exact hnone c hc hcarries
  · rw [h.timeLock_eq] at hbound
    exact absurd hlock (by simpa using hbound)

/-! ## The search -/

/-- If the amount and the fees can grow, only the lock can overflow. -/
theorem overflow_of_prependHop {nodeKey : String} {feeMsat : Int64} {timeLockDelta : UInt32}
    {cause : Fault} (hamount : Word.IsInt64 (route.totalAmountMsat.toInt + feeMsat.toInt))
    (hfees : Word.IsInt64 (route.totalFeesMsat.toInt + feeMsat.toInt))
    (h : route.prependHop channelId nodeKey feeMsat timeLockDelta = .error cause) :
    cause = Route.overflow "time lock" ∧
      UInt32.size ≤ route.totalTimeLock.toNat + timeLockDelta.toNat := by
  simp only [Route.prependHop, checkedSum?] at h
  rw [if_pos hamount, if_pos hfees] at h
  dsimp only at h
  split_ifs at h with hlock
  cases h
  exact ⟨rfl, Nat.le_of_not_lt hlock⟩

/-- Every run has one of the outcomes. -/
theorem refused_or_spliced (channels : List Channel) (feeLimitSat : Int64)
    (hamount : Word.IsInt64 (amountMsat terms route))
    (hfees : Word.IsInt64 (feesMsat terms route)) :
    (∃ e, spliceLocalHop terms route channels feeLimitSat = .error e ∧
      Refused terms route channels feeLimitSat e) ∨
    ∃ channelId spliced,
      spliceLocalHop terms route channels feeLimitSat = .ok (channelId, spliced) ∧
      Spliced terms route channels feeLimitSat channelId spliced := by
  have hamountSat := toInt_sum_div hamount
  have hfeeSat := toInt_sum_div hfees
  -- the sums in the search do not wrap, so that it is one for a carrier
  have hcarries : (fun c : Channel => decide (c.channelId ≠ 0 ∧
      (route.totalAmountMsat + terms.hopFeeMsat route.totalAmountMsat) / msatPerSat ≤
        c.localBalance)) = fun c => decide (Carries terms route c) := by
    refine funext fun c => decide_eq_decide.2 ?_
    rw [Int64.le_iff_toInt_le, hamountSat]
    rfl
  unfold spliceLocalHop
  dsimp only
  split_ifs with hlimit
  · rw [Int64.le_iff_toInt_le, hfeeSat] at hlimit
    exact .inl ⟨_, rfl, .fees hfeeSat hlimit⟩
  · rw [Int64.le_iff_toInt_le, hfeeSat, Int.not_le] at hlimit
    rw [hcarries]
    split
    · next hfind =>
      exact .inl ⟨_, rfl, .channel hamountSat hlimit (by simpa using hfind)⟩
    · next channel hfind =>
      have hfirst := find?_eq_some_iff.1 hfind
      split
      · next spliced hprepend =>
        obtain ⟨⟨-, -, hlock⟩, rfl⟩ := Route.prependHop_eq_ok_iff.1 hprepend
        refine .inr ⟨_, _, rfl, hlimit, ⟨channel, hfirst, rfl⟩, rfl, toInt_add_of_isInt64 hamount,
          toInt_add_of_isInt64 hfees, ?_⟩
        rw [UInt32.toNat_add]
        exact Nat.mod_eq_of_lt hlock
      · next cause hprepend =>
        obtain ⟨rfl, hlock⟩ := overflow_of_prependHop hamount hfees hprepend
        obtain ⟨c, hc⟩ := exists_firstCarrier_iff.1 ⟨channel, hfirst⟩
        exact .inl ⟨_, rfl, .timeLock hlimit ⟨c, hc⟩ hlock⟩

theorem spliceLocalHop_eq_error_iff {e : RouteError}
    (hamount : Word.IsInt64 (amountMsat terms route))
    (hfees : Word.IsInt64 (feesMsat terms route)) :
    spliceLocalHop terms route channels feeLimitSat = .error e ↔
      Refused terms route channels feeLimitSat e := by
  obtain ⟨e', heq, he'⟩ | ⟨channelId, spliced, heq, hspliced⟩ :=
    refused_or_spliced channels feeLimitSat hamount hfees
  · rw [heq, Except.error.injEq]
    exact ⟨fun h => h ▸ he', fun h => he'.unique h⟩
  · rw [heq]
    exact ⟨nofun, fun h => absurd h hspliced.not_refused⟩

/-- A hop is spliced in only if the totals do not overflow. -/
theorem isInt64_of_spliceLocalHop
    (h : spliceLocalHop terms route channels feeLimitSat = .ok (channelId, spliced)) :
    Word.IsInt64 (amountMsat terms route) ∧ Word.IsInt64 (feesMsat terms route) := by
  unfold spliceLocalHop at h
  dsimp only at h
  split_ifs at h
  split at h
  · cases h
  · split at h
    · next hprepend =>
      obtain ⟨⟨hamount, hfees, -⟩, -⟩ := Route.prependHop_eq_ok_iff.1 hprepend
      exact ⟨hamount, hfees⟩
    · cases h

theorem spliceLocalHop_eq_ok_iff :
    spliceLocalHop terms route channels feeLimitSat = .ok (channelId, spliced) ↔
      Spliced terms route channels feeLimitSat channelId spliced := by
  constructor
  · intro h
    obtain ⟨hamount, hfees⟩ := isInt64_of_spliceLocalHop h
    obtain ⟨_, heq, -⟩ | ⟨_, _, heq, hspliced⟩ :=
      refused_or_spliced channels feeLimitSat hamount hfees
    · cases h.symm.trans heq
    · cases h.symm.trans heq
      exact hspliced
  · intro h
    have hamount : Word.IsInt64 (amountMsat terms route) :=
      h.amount_eq ▸ ⟨spliced.totalAmountMsat.minValue_le_toInt, spliced.totalAmountMsat.toInt_lt⟩
    have hfees : Word.IsInt64 (feesMsat terms route) :=
      h.fees_eq ▸ ⟨spliced.totalFeesMsat.minValue_le_toInt, spliced.totalFeesMsat.toInt_lt⟩
    obtain ⟨e, -, he⟩ | ⟨_, _, heq, hspliced⟩ :=
      refused_or_spliced channels feeLimitSat hamount hfees
    · exact absurd he h.not_refused
    · obtain ⟨rfl, rfl⟩ := h.unique hspliced
      exact heq

/-! ## The caller's route -/

/-- The hop spliced into the caller's route, which gives the channel. -/
def spliceInPlace (terms : Terms) (channels : List Channel) (feeLimitSat : Int64) :
    ExceptT RouteError (StateM Route) UInt64 := do
  let route ← get
  let hubFeeMsat := terms.hopFeeMsat route.totalAmountMsat
  let amountSat := (route.totalAmountMsat + hubFeeMsat) / msatPerSat
  let feeSat := (route.totalFeesMsat + hubFeeMsat) / msatPerSat
  if feeLimitSat ≤ feeSat then throw (.feeLimitExceeded feeSat feeLimitSat)
  let some channel := channels.find? fun c => c.channelId ≠ 0 ∧ amountSat ≤ c.localBalance
    | throw (.noLocalChannel amountSat)
  (Route.prependInPlace channel.channelId terms.nodeKey hubFeeMsat
    terms.timeLockDelta).adapt .fault
  return channel.channelId

theorem run_adapt_bind {α β ε ε' : Type} (x : ExceptT ε (StateM Route) α) (f : ε → ε') (b : β) :
    (x.adapt f >>= fun _ => pure b).run.run route =
      (((x.run.run route).1.mapError f).map fun _ => b, (x.run.run route).2) := by
  have hrun : (x.adapt f).run.run route = ((x.run.run route).1.mapError f, (x.run.run route).2) :=
    rfl
  rw [ExceptT.run_bind, StateT.run_bind, hrun]
  cases (x.run.run route).1 <;> rfl

/-- The hop is spliced into the caller's route as `spliceLocalHop` has it, and an error leaves that
route as it was. -/
theorem run_spliceInPlace : (spliceInPlace terms channels feeLimitSat).run.run route =
    route.settled (spliceLocalHop terms route channels feeLimitSat) := by
  unfold spliceInPlace spliceLocalHop
  rw [Route.run_get_bind]
  dsimp only
  split_ifs with hlimit
  · rfl
  · cases channels.find? fun c => c.channelId ≠ 0 ∧
      (route.totalAmountMsat + terms.hopFeeMsat route.totalAmountMsat) / msatPerSat ≤
        c.localBalance with
    | none => rfl
    | some channel =>
      dsimp only
      rw [run_adapt_bind, Route.run_prependInPlace]
      cases route.prependHop channel.channelId terms.nodeKey
        (terms.hopFeeMsat route.totalAmountMsat) terms.timeLockDelta <;> rfl

/-! ## What a run gives -/

/-- Terms with a forwarding fee of a satoshi and a thousandth of the amount. -/
def hubTerms : Terms where
  name := "hub"
  providerKey := []
  nodeKey := "02"
  host := "hub:9735"
  channelCapacity := 0
  targetConf := 6
  baseFeeMsat := 1000
  feeRate := ⟨0x3f50624dd2f1a9fc⟩
  timeLockDelta := 40
  feePermyriad := 40
  minimumFeeMsat := 2000000
  maxInactiveDuration := 0
  version := "v2"

/-- A route over one hop that asks for an amount with a rest of half a satoshi. -/
def unevenRoute : Route where
  hops := [⟨900, 1000500, 0, 800100, "03", true, none⟩]
  totalTimeLock := 800100
  totalFeesMsat := 0
  totalAmountMsat := 1000500

/-- A channel with this balance. -/
def channelOf (channelId : UInt64) (localBalance : Int64) : Channel where
  channelId
  remoteChannelId := channelId + 1000
  remoteKey := "02"
  channelPoint := ""
  capacity := 2000000
  localBalance
  remoteBalance := 0
  commitFee := 0
  localReserveSat := 0
  remoteReserveSat := 0

/-- The route behind a hop over the channel 1, which costs two satoshis. -/
def unevenSpliced : Route where
  hops := unevenRoute.headHop 1 "02" 2000 :: unevenRoute.hops
  totalTimeLock := 800140
  totalFeesMsat := 2000
  totalAmountMsat := 1002500

/-- A hop is spliced in exactly if the fees are under the limit, some channel carries the amount and
the lock can be added, and then over the first such channel and with fees under the limit. Otherwise
the error is that of the first condition that fails. The caller's route becomes the spliced one or
stays as it was. -/
theorem spliceLocalHop_spec (hamount : Word.IsInt64 (amountMsat terms route))
    (hfees : Word.IsInt64 (feesMsat terms route)) :
    ((∃ channelId spliced,
        spliceLocalHop terms route channels feeLimitSat = .ok (channelId, spliced)) ↔
      (feesMsat terms route).tdiv 1000 < feeLimitSat.toInt ∧
        (∃ channel ∈ channels, Carries terms route channel) ∧
        route.totalTimeLock.toNat + terms.timeLockDelta.toNat < UInt32.size) ∧
    (∀ channelId spliced,
      spliceLocalHop terms route channels feeLimitSat = .ok (channelId, spliced) ↔
        Spliced terms route channels feeLimitSat channelId spliced) ∧
    (∀ channelId spliced,
      spliceLocalHop terms route channels feeLimitSat = .ok (channelId, spliced) →
        spliced.totalFeesMsat.toInt < 1000 * feeLimitSat.toInt) ∧
    (∀ e, spliceLocalHop terms route channels feeLimitSat = .error e ↔
      Refused terms route channels feeLimitSat e) ∧
    ∀ result after, (spliceInPlace terms channels feeLimitSat).run.run route = (result, after) ↔
      (∃ channelId, result = .ok channelId ∧
        spliceLocalHop terms route channels feeLimitSat = .ok (channelId, after)) ∨
      (∃ e, result = .error e ∧ spliceLocalHop terms route channels feeLimitSat = .error e ∧
        after = route) := by
  refine ⟨?_, fun _ _ => spliceLocalHop_eq_ok_iff,
    fun _ _ h => (spliceLocalHop_eq_ok_iff.1 h).fees_lt,
    fun _ => spliceLocalHop_eq_error_iff hamount hfees, fun result after => ?_⟩
  · simp only [spliceLocalHop_eq_ok_iff]
    exact exists_spliced_iff hamount hfees
  · rw [run_spliceInPlace, Prod.ext_iff]
    rcases spliceLocalHop terms route channels feeLimitSat with e | ⟨channelId, spliced⟩ <;>
      simp [Route.settled, eq_comm]

/-- Fees of two satoshis are under a limit of three, and not under one of two. -/
theorem spliceLocalHop_unevenRoute :
    Word.IsInt64 (amountMsat hubTerms unevenRoute) ∧ Word.IsInt64 (feesMsat hubTerms unevenRoute) ∧
      (∃ channelId spliced, spliceLocalHop hubTerms unevenRoute
        [channelOf 1 1001, channelOf 2 1002] 3 = .ok (channelId, spliced)) ∧
      Refused hubTerms unevenRoute [channelOf 1 1001, channelOf 2 1002] 2
        (.feeLimitExceeded 2 2) := by
  have hamount : Word.IsInt64 (amountMsat hubTerms unevenRoute) := by decide
  have hfees : Word.IsInt64 (feesMsat hubTerms unevenRoute) := by decide
  refine ⟨hamount, hfees, (spliceLocalHop_spec hamount hfees).1.2 ⟨by decide, ?_, by decide⟩,
    ((spliceLocalHop_spec hamount hfees).2.2.2.1 _).1 (by decide)⟩
  exact ⟨channelOf 2 1002, by decide, by decide, by decide⟩

/-! ## Balances that are short -/

/-- The channel can be short of what is sent over it, but by less than a satoshi, and only if its
balance is the whole satoshis of an amount that has a rest. -/
theorem short_of_spliceLocalHop
    (h : spliceLocalHop terms route channels feeLimitSat = .ok (channelId, spliced)) :
    ∃ channel, FirstCarrier terms route channels channel ∧ channel.channelId = channelId ∧
      spliced.totalAmountMsat.toInt < 1000 * channel.localBalance.toInt + 1000 ∧
      (spliced.totalAmountMsat.toInt ≤ 1000 * channel.localBalance.toInt ↔
        (channel.localBalance.toInt = spliced.totalAmountMsat.toInt / 1000 →
          1000 ∣ spliced.totalAmountMsat.toInt)) := by
  have hspliced := spliceLocalHop_eq_ok_iff.1 h
  obtain ⟨channel, hfirst, hid⟩ := hspliced.first
  have hbalance := hfirst.1.2
  rw [← hspliced.amount_eq] at hbalance
  have hlt := lt_mul_of_tdiv_lt (Int.lt_add_one_of_le hbalance)
  refine ⟨channel, hfirst, hid, by omega, fun hcovers heq => by omega, fun hrest => ?_⟩
  -- a balance that is short is exactly the whole satoshis, and these are all of the amount
  by_contra hshort
  have hfloor : channel.localBalance.toInt = spliced.totalAmountMsat.toInt / 1000 := by omega
  have := hrest hfloor
  omega

/-- The half satoshi is not looked at. -/
theorem short_of_spliceLocalHop_unevenRoute :
    spliceLocalHop hubTerms unevenRoute [channelOf 1 1002, channelOf 2 1003] 100 =
        .ok (1, unevenSpliced) ∧
      ∃ channel, channel.channelId = 1 ∧
        FirstCarrier hubTerms unevenRoute [channelOf 1 1002, channelOf 2 1003] channel ∧
        unevenSpliced.totalAmountMsat.toInt < 1000 * channel.localBalance.toInt + 1000 := by
  have hrun : spliceLocalHop hubTerms unevenRoute [channelOf 1 1002, channelOf 2 1003] 100 =
    .ok (1, unevenSpliced) := by decide
  obtain ⟨channel, hfirst, hid, hlt, -⟩ := short_of_spliceLocalHop hrun
  exact ⟨hrun, channel, hid, hfirst, hlt⟩

/-- The first of two channels is taken, though it is short of the amount by half a satoshi. -/
theorem not_spliceLocalHop_covers :
    ¬∀ (terms : Terms) (route spliced : Route) (channels : List Channel) (feeLimitSat : Int64)
      (channelId : UInt64), 0 ≤ route.totalAmountMsat → 0 ≤ route.totalFeesMsat →
      spliceLocalHop terms route channels feeLimitSat = .ok (channelId, spliced) →
      ∃ channel ∈ channels, channel.channelId = channelId ∧
        spliced.totalAmountMsat.toInt ≤ 1000 * channel.localBalance.toInt := by
  intro h
  have hcovers := h hubTerms unevenRoute unevenSpliced [channelOf 1 1002, channelOf 2 1003] 100 1
    (by decide) (by decide) (by decide)
  revert hcovers
  decide

end LocalHop

end LiquidityClient
