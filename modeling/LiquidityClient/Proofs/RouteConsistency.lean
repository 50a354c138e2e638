import LiquidityClient.Payment.Search
import LiquidityClient.Rebalance
import Mathlib.Algebra.BigOperators.Group.List.Basic
import Mathlib.Algebra.Ring.Int.Defs
import Mathlib.Data.List.Chain

/-!
# Consistent routes

A route is consistent if its totals are those of its hops, each hop forwards what reaches the next
one, and no hop expires after the one before (`Route.Consistent`). A route is changed in place,
part after part once the totals are known to fit; what is left is what the functions on routes give,
or the route as it was (`Route.Change.run_perform`). So changing a route keeps it consistent, and a
change that would make a total overflow leaves it alone (`Route.Change.consistent_foldl`,
`Route.Change.after_of_not_fits`). On a consistent route, what leaves the wallet is what the last
hop forwards and the fees (`Route.Consistent.amount_eq_add_fees`). A hop that is spliced in front of
a consistent route keeps the fees under the limit (`spliceLocalHop_eq_ok`).
-/

namespace LiquidityClient

/-! ## Sums of words -/

theorem toInt_add_of_isInt64 {a b : Int64} (h : Word.IsInt64 (a.toInt + b.toInt)) :
    (a + b).toInt = a.toInt + b.toInt := by
  rw [Int64.toInt_add]
  exact Int.bmod_eq_of_le (by simpa using h.1) (by simpa using h.2)

theorem toInt_sub_of_isInt64 {a b : Int64} (h : Word.IsInt64 (a.toInt - b.toInt)) :
    (a - b).toInt = a.toInt - b.toInt := by
  rw [Int64.toInt_sub]
  exact Int.bmod_eq_of_le (by simpa using h.1) (by simpa using h.2)

theorem toInt_mul_of_isInt64 {a b : Int64} (h : Word.IsInt64 (a.toInt * b.toInt)) :
    (a * b).toInt = a.toInt * b.toInt := by
  rw [Int64.toInt_mul]
  exact Int.bmod_eq_of_le (by simpa using h.1) (by simpa using h.2)

theorem toInt_toInt64_of_lt {n : UInt64} (h : n.toNat < Word.half64) :
    n.toInt64.toInt = n.toNat := by
  rw [Int64.toInt, UInt64.toBitVec_toInt64]
  refine BitVec.toInt_eq_toNat_of_lt ?_
  simp only [UInt64.toNat_toBitVec, Word.half64] at h ⊢
  omega

theorem checkedSum?_eq_some {a b sum : Int64} (h : checkedSum? a b = some sum) :
    Word.IsInt64 (a.toInt + b.toInt) ∧ sum = a + b ∧ sum.toInt = a.toInt + b.toInt := by
  unfold checkedSum? at h
  dsimp only at h
  split_ifs at h with hfits
  cases h
  exact ⟨hfits, rfl, toInt_add_of_isInt64 hfits⟩

theorem checkedSum?_eq_none {a b : Int64} (h : checkedSum? a b = none) :
    ¬Word.IsInt64 (a.toInt + b.toInt) := by
  unfold checkedSum? at h
  dsimp only at h
  split_ifs at h with hfits
  exact hfits

/-! ## Consistency -/

namespace Hop

/-- What reaches a hop : what it forwards, and its fee. -/
def inflowMsat (hop : Hop) : Int :=
  hop.amountMsat.toInt + hop.feeMsat.toInt

/-- The hop without its record of a multi-path payment. -/
def unmarked (hop : Hop) : Hop :=
  { hop with multiPath := none }

end Hop

namespace Route

/-- The totals are those of the hops, each hop forwards what reaches the next one, and none expires
after the one before. -/
@[mk_iff]
structure Consistent (route : Route) : Prop where
  fees_eq : route.totalFeesMsat.toInt = (route.hops.map fun hop => hop.feeMsat.toInt).sum
  amount_eq : ∀ hop ∈ route.hops.head?, route.totalAmountMsat.toInt = hop.inflowMsat
  amounts : route.hops.IsChain fun hop next => hop.amountMsat.toInt = next.inflowMsat
  expiry_le : ∀ hop ∈ route.hops.head?, hop.expiry ≤ route.totalTimeLock
  expiries : route.hops.IsChain fun hop next => next.expiry ≤ hop.expiry

/-- Along a chain of hops, what reaches the first is what the last forwards and all the fees. -/
theorem inflow_eq_of_isChain {hops : List Hop} {first last : Hop}
    (hchain : hops.IsChain fun hop next => hop.amountMsat.toInt = next.inflowMsat)
    (hfirst : hops.head? = some first) (hlast : hops.getLast? = some last) :
    first.inflowMsat =
      last.amountMsat.toInt + (hops.map fun hop => hop.feeMsat.toInt).sum := by
  induction hops generalizing first with
  | nil => cases hfirst
  | cons hop rest ih =>
    cases hfirst
    rw [List.map_cons, List.sum_cons]
    cases rest with
    | nil =>
      cases hlast
      simp [Hop.inflowMsat]
    | cons next rest =>
      obtain ⟨hamount, hrest⟩ := List.isChain_cons_cons.1 hchain
      have htail := ih hrest rfl (by simpa using hlast)
      unfold Hop.inflowMsat
      rw [hamount, htail]
      omega

namespace Consistent

variable {route : Route}

/-- What leaves the wallet is what the last hop forwards and the fees. -/
theorem amount_eq_add_fees (h : route.Consistent) {last : Hop}
    (hlast : route.hops.getLast? = some last) :
    route.totalAmountMsat.toInt = last.amountMsat.toInt + route.totalFeesMsat.toInt := by
  cases hfirst : route.hops.head? with
  | none =>
    rw [List.head?_eq_none_iff] at hfirst
    rw [hfirst] at hlast
    cases hlast
  | some first =>
    rw [h.amount_eq first hfirst, h.fees_eq]
    exact inflow_eq_of_isChain h.amounts hfirst hlast

end Consistent

/-! ## Marking the last hop -/

/-- The route without records of multi-path payments. -/
def unmarked (route : Route) : Route :=
  { route with hops := route.hops.map Hop.unmarked }

/-- Whether a route is consistent does not depend on its records of multi-path payments. -/
theorem consistent_unmarked {route : Route} : route.unmarked.Consistent ↔ route.Consistent := by
  simp [consistent_iff, unmarked, Hop.unmarked, Hop.inflowMsat, List.isChain_map, Function.comp_def]

theorem markLast_append (record : MultiPathRecord) (front : List Hop) (last : Hop) :
    markLast record (front ++ [last]) = front ++ [{ last with multiPath := some record }] := by
  induction front with
  | nil => rfl
  | cons hop front ih =>
    rw [List.cons_append, List.cons_append, markLast, ih]
    simp

theorem map_unmarked_markLast (record : MultiPathRecord) (hops : List Hop) :
    (markLast record hops).map Hop.unmarked = hops.map Hop.unmarked := by
  rcases List.eq_nil_or_concat hops with rfl | ⟨front, last, rfl⟩
  · rfl
  · rw [List.concat_eq_append, markLast_append, List.map_append, List.map_append]
    rfl

theorem attachMultiPath?_eq_some {route marked : Route} {record : MultiPathRecord}
    (h : route.attachMultiPath? record = some marked) :
    route.hops ≠ [] ∧ marked = { route with hops := markLast record route.hops } := by
  unfold attachMultiPath? at h
  split_ifs at h with hempty
  cases h
  exact ⟨by simpa [isEmpty] using hempty, rfl⟩

theorem Consistent.attachMultiPath {route marked : Route} {record : MultiPathRecord}
    (hroute : route.Consistent) (h : route.attachMultiPath? record = some marked) :
    marked.Consistent := by
  obtain ⟨-, rfl⟩ := attachMultiPath?_eq_some h
  rw [← consistent_unmarked, unmarked, map_unmarked_markLast]
  exact consistent_unmarked.2 hroute

/-! ## A hop in front -/

/-- A hop with this fee and lock can be put in front : no total overflows. -/
def RoomFor (route : Route) (feeMsat : Int64) (timeLockDelta : UInt32) : Prop :=
  Word.IsInt64 (route.totalAmountMsat.toInt + feeMsat.toInt) ∧
    Word.IsInt64 (route.totalFeesMsat.toInt + feeMsat.toInt) ∧
    route.totalTimeLock.toNat + timeLockDelta.toNat < UInt32.size

/-- The hop that `prependHop` puts in front. -/
def headHop (route : Route) (channelId : UInt64) (nodeKey : String) (feeMsat : Int64) : Hop where
  channelId
  amountMsat := route.totalAmountMsat
  feeMsat
  expiry := route.totalTimeLock
  nodeKey
  tlvPayload := true
  multiPath := none

/-- A hop is put in front exactly if there is room for it, and each total grows by its share. -/
theorem prependHop_eq_ok_iff {route route' : Route} {channelId : UInt64} {nodeKey : String}
    {feeMsat : Int64} {timeLockDelta : UInt32} :
    route.prependHop channelId nodeKey feeMsat timeLockDelta = .ok route' ↔
      route.RoomFor feeMsat timeLockDelta ∧ route' =
        { hops := route.headHop channelId nodeKey feeMsat :: route.hops
          totalTimeLock := route.totalTimeLock + timeLockDelta
          totalFeesMsat := route.totalFeesMsat + feeMsat
          totalAmountMsat := route.totalAmountMsat + feeMsat } := by
  unfold prependHop RoomFor
  cases hamount : checkedSum? route.totalAmountMsat feeMsat with
  | none => simp [checkedSum?_eq_none hamount]
  | some amount =>
    obtain ⟨hamountFits, rfl, -⟩ := checkedSum?_eq_some hamount
    cases hfees : checkedSum? route.totalFeesMsat feeMsat with
    | none => simp [checkedSum?_eq_none hfees]
    | some fees =>
      obtain ⟨hfeesFits, rfl, -⟩ := checkedSum?_eq_some hfees
      dsimp only
      split_ifs with hlock
      · refine ⟨fun h => ⟨⟨hamountFits, hfeesFits, hlock⟩, (Except.ok.inj h).symm⟩, ?_⟩
        rintro ⟨-, rfl⟩
        rfl
      · simp [hlock]

theorem Consistent.prependHop {route route' : Route} {channelId : UInt64} {nodeKey : String}
    {feeMsat : Int64} {timeLockDelta : UInt32} (hroute : route.Consistent)
    (h : route.prependHop channelId nodeKey feeMsat timeLockDelta = .ok route') :
    route'.Consistent := by
  obtain ⟨⟨hamount, hfees, hlock⟩, rfl⟩ := prependHop_eq_ok_iff.1 h
  have hlock : (route.totalTimeLock + timeLockDelta).toNat =
      route.totalTimeLock.toNat + timeLockDelta.toNat := by
    rw [UInt32.toNat_add]
    exact Nat.mod_eq_of_lt hlock
  refine ⟨?_, ?_, List.isChain_cons.2 ⟨hroute.amount_eq, hroute.amounts⟩, ?_,
    List.isChain_cons.2 ⟨hroute.expiry_le, hroute.expiries⟩⟩
  · rw [toInt_add_of_isInt64 hfees, List.map_cons, List.sum_cons, ← hroute.fees_eq]
    exact Int.add_comm _ _
  · rintro _ ⟨⟩
    exact toInt_add_of_isInt64 hamount
  · rintro _ ⟨⟩
    rw [UInt32.le_iff_toNat_le, hlock]
    exact Nat.le_add_right _ _

/-! ## Changes in place -/

/-- The hop put in front of the route in place : the sums are checked, then the parts of the route
change one after another. -/
def prependInPlace (channelId : UInt64) (nodeKey : String) (feeMsat : Int64)
    (timeLockDelta : UInt32) : ExceptT Fault (StateM Route) Unit := do
  let route ← get
  let some amount := checkedSum? route.totalAmountMsat feeMsat
    | throw (overflow "amount")
  let some fees := checkedSum? route.totalFeesMsat feeMsat
    | throw (overflow "fees")
  if UInt32.size ≤ route.totalTimeLock.toNat + timeLockDelta.toNat then
    throw (overflow "time lock")
  let hop := route.headHop channelId nodeKey feeMsat
  modify fun route => { route with hops := hop :: route.hops }
  modify fun route => { route with totalAmountMsat := amount }
  modify fun route => { route with totalFeesMsat := fees }
  modify fun route => { route with totalTimeLock := route.totalTimeLock + timeLockDelta }

/-- The record attached to the last hop in place, if there is one. -/
def attachInPlace (record : MultiPathRecord) : StateM Route Bool := do
  if (← get).isEmpty then return false
  else
    modify fun route => { route with hops := markLast record route.hops }
    return true

/-- The route after a change that may fail. -/
def settled {α ε : Type} (route : Route) : Except ε (α × Route) → Except ε α × Route
  | .ok (a, changed) => (.ok a, changed)
  | .error e => (.error e, route)

theorem run_get_bind {route : Route} {α ε : Type} (f : Route → ExceptT ε (StateM Route) α) :
    (get >>= f).run.run route = (f route).run.run route :=
  rfl

theorem run_prependInPlace {route : Route} {channelId : UInt64} {nodeKey : String}
    {feeMsat : Int64} {timeLockDelta : UInt32} :
    (prependInPlace channelId nodeKey feeMsat timeLockDelta).run.run route =
      route.settled ((route.prependHop channelId nodeKey feeMsat timeLockDelta).map ((), ·)) := by
  unfold prependInPlace prependHop
  rw [run_get_bind]
  cases hamount : checkedSum? route.totalAmountMsat feeMsat with
  | none => rfl
  | some amount =>
    cases hfees : checkedSum? route.totalFeesMsat feeMsat with
    | none => rfl
    | some fees =>
      dsimp only
      rcases Nat.lt_or_ge (route.totalTimeLock.toNat + timeLockDelta.toNat) UInt32.size with
        hlock | hlock
      · rw [if_pos hlock, if_neg (Nat.not_le.2 hlock)]
        rfl
      · rw [if_neg (Nat.not_lt.2 hlock), if_pos hlock]
        rfl

theorem run_attachInPlace {route : Route} {record : MultiPathRecord} :
    (attachInPlace record).run route =
      ((route.attachMultiPath? record).isSome, (route.attachMultiPath? record).getD route) := by
  have hrun : (attachInPlace record).run route =
      (if route.isEmpty then (pure false : StateM Route Bool)
      else do
        modify fun route => { route with hops := markLast record route.hops }
        return true).run route := rfl
  rw [hrun, attachMultiPath?]
  split_ifs <;> rfl

/-! ## Any number of changes -/

theorem toOption_eq_some_iff {ε α : Type} {x : Except ε α} {a : α} :
    x.toOption = some a ↔ x = .ok a := by
  cases x <;> simp [Except.toOption]

/-- A change of a route. -/
inductive Change where
  | prependHop (channelId : UInt64) (nodeKey : String) (feeMsat : Int64) (timeLockDelta : UInt32)
  | attachMultiPath (record : MultiPathRecord)

namespace Change

/-- What the change makes of a route; there is nothing if it fails. -/
def perform? (route : Route) : Change → Option Route
  | .prependHop channelId nodeKey feeMsat timeLockDelta =>
    (route.prependHop channelId nodeKey feeMsat timeLockDelta).toOption
  | .attachMultiPath record => route.attachMultiPath? record

/-- The change made in place, which tells whether it could be made. -/
def perform : Change → StateM Route Bool
  | .prependHop channelId nodeKey feeMsat timeLockDelta => do
    return (← (prependInPlace channelId nodeKey feeMsat timeLockDelta).run).isOk
  | .attachMultiPath record => attachInPlace record

/-- The route that is there after the change. -/
def after (route : Route) (change : Change) : Route :=
  (change.perform.run route).2

/-- The change can be made : no total overflows, and there is a last hop to be marked. -/
def Fits (route : Route) : Change → Prop
  | .prependHop _ _ feeMsat timeLockDelta => route.RoomFor feeMsat timeLockDelta
  | .attachMultiPath _ => route.hops ≠ []

variable {route : Route} {change : Change}

/-- In place, a change gives the new route, or leaves the old one as it was. -/
theorem run_perform (route : Route) (change : Change) : change.perform.run route =
    ((change.perform? route).isSome, (change.perform? route).getD route) := by
  cases change with
  | prependHop channelId nodeKey feeMsat timeLockDelta =>
    have hrun : (perform (.prependHop channelId nodeKey feeMsat timeLockDelta)).run route =
        let (outcome, after) :=
          (prependInPlace channelId nodeKey feeMsat timeLockDelta).run.run route
        (outcome.isOk, after) := rfl
    rw [hrun, run_prependInPlace, perform?]
    cases route.prependHop channelId nodeKey feeMsat timeLockDelta <;> rfl
  | attachMultiPath record => exact run_attachInPlace

theorem after_eq (route : Route) (change : Change) :
    change.after route = (change.perform? route).getD route := by
  rw [after, run_perform]

/-- A change is made exactly if it fits. -/
theorem isSome_perform?_iff : (change.perform? route).isSome ↔ change.Fits route := by
  cases change with
  | prependHop channelId nodeKey feeMsat timeLockDelta =>
    constructor
    · intro h
      obtain ⟨route', hroute'⟩ := Option.isSome_iff_exists.1 h
      exact (prependHop_eq_ok_iff.1 (toOption_eq_some_iff.1 hroute')).1
    · intro h
      rw [perform?, prependHop_eq_ok_iff.2 ⟨h, rfl⟩]
      rfl
  | attachMultiPath record => simp [perform?, Fits, attachMultiPath?, isEmpty]

theorem after_of_perform? {changed : Route} (h : change.perform? route = some changed) :
    change.after route = changed := by
  rw [after_eq, h]
  rfl

/-- A change that fails leaves the route as it was. -/
theorem after_of_not_fits (h : ¬change.Fits route) : change.after route = route := by
  rw [after_eq, Option.not_isSome_iff_eq_none.1 (mt isSome_perform?_iff.1 h)]
  rfl

/-- One change keeps a route consistent. -/
theorem consistent_after (hroute : route.Consistent) : (change.after route).Consistent := by
  cases happly : change.perform? route with
  | none => rwa [after_eq, happly]
  | some route' =>
    rw [after_eq, happly]
    cases change with
    | prependHop => exact hroute.prependHop (toOption_eq_some_iff.1 happly)
    | attachMultiPath => exact hroute.attachMultiPath happly

/-- Any number of changes keep a route consistent. -/
theorem consistent_foldl (hroute : route.Consistent) (changes : List Change) :
    (changes.foldl after route).Consistent := by
  induction changes generalizing route with
  | nil => exact hroute
  | cons change changes ih => exact ih (consistent_after hroute)

end Change

/-! ## Circular routes -/

/-- A circular route is consistent exactly if its time lock does not overflow. -/
theorem consistent_circularRoute_iff {outId inId : UInt64} {providerNode ownNode : String}
    {amountMsat : Int64} {height timeLockDelta : UInt32} {paymentAddress : Bytes} :
    (Rebalance.circularRoute outId inId providerNode ownNode amountMsat height timeLockDelta
      paymentAddress).Consistent ↔
      (height + circularDelay).toNat + timeLockDelta.toNat < UInt32.size := by
  have hlock : circularDelay.toNat = 40 := rfl
  have hdelta := timeLockDelta.toNat_lt
  rw [consistent_iff]
  simp only [Rebalance.circularRoute, Hop.inflowMsat, UInt32.le_iff_toNat_le, UInt32.toNat_add,
    hlock, UInt32.size]
  simp
  omega

end Route

/-! ## The hop to the provider -/

/-- Hops are spliced in under the fee limit : the fees of the result are less than the limit. -/
theorem spliceLocalHop_eq_ok {terms : Terms} {route spliced : Route} {channels : List Channel}
    {feeLimitSat : Int64} {channelId : UInt64}
    (h : spliceLocalHop terms route channels feeLimitSat = .ok (channelId, spliced)) :
    ∃ feeMsat, route.prependHop channelId terms.nodeKey feeMsat terms.timeLockDelta = .ok spliced ∧
      spliced.totalFeesMsat.toInt < 1000 * feeLimitSat.toInt := by
  unfold spliceLocalHop at h
  dsimp only at h
  split_ifs at h with hlimit
  split at h
  · cases h
  · next channel _ =>
    split at h
    · next route' hprepend =>
      cases h
      refine ⟨_, hprepend, ?_⟩
      obtain ⟨-, rfl⟩ := Route.prependHop_eq_ok_iff.1 hprepend
      generalize route.totalFeesMsat + terms.hopFeeMsat route.totalAmountMsat = fees at hlimit ⊢
      -- The limit is compared with the fees in satoshis, rounded towards zero.
      have hrounded : (fees / msatPerSat).toInt = fees.toInt.tdiv 1000 :=
        Int64.toInt_div_of_ne_right _ _ (by decide)
      rw [Int64.le_iff_toInt_le, hrounded, Int.not_le] at hlimit
      have hparts := Int.mul_tdiv_add_tmod fees.toInt 1000
      have hrest := Int.tmod_lt_of_pos fees.toInt (by decide : (0 : Int) < 1000)
      show fees.toInt < _
      omega
    · cases h

end LiquidityClient
