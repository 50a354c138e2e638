import LiquidityClient.Proofs.Interleaving
import LiquidityClient.Proofs.RebalanceRequests
import Mathlib.Data.List.Basic

/-!
# The phases of a rebalance

`phases_of_exec` follows a rebalance whose two tasks take their steps in any order. Whatever the
node answers and however the transfer ends, all that the closing task asks comes after all that the
transfer asks (`Phased`), the rebalance returns after both tasks have ended, and it returns what
`conclude` makes of them. Some run asks the same and ends the same (`Runs`), so that no order of the
steps shows anything that the transfer before the closing task does not show.
-/

namespace LiquidityClient.Rebalance

open Program

variable {terms : Terms} {settings : RebalanceSettings} {died : Phase → String} {gate : Bool}
  {log log₁ log₂ : List (Event Collaborators)}

/-! ## The order of what is asked -/

/-- First the channels are listed, then the transfer asks, then the closing task. -/
structure Phased (terms : Terms) (settings : RebalanceSettings)
    (log : List (Event Collaborators)) : Prop where
  listing : ∀ e ∈ log.head?, e.task = [] ∧ e.exchange.request = .node .listChannels
  tasks : ∀ e ∈ log.tail,
    (e.task.head? = some .first ∧ TransferRequest terms e.exchange.request) ∨
      (e.task.head? = some .second ∧ CloseRequest settings e.exchange.request)
  ordered : log.Pairwise fun e later =>
    e.task.head? = some .second → later.task.head? = some .second

/-- What has been asked so far is in order if what will have been asked is. -/
theorem Phased.of_append (h : Phased terms settings (log₁ ++ log₂)) :
    Phased terms settings log₁ := by
  refine ⟨?_, ?_, (List.pairwise_append.1 h.ordered).1⟩
  · intro e he
    exact h.listing e (List.mem_head?_append_of_mem_head? he)
  · intro e he
    exact h.tasks e ((List.sublist_append_left log₁ log₂).tail.subset he)

theorem phased_inside {reply : Option (Except Fault (List Channel))}
    (hfirst : ∀ e ∈ log₁, TransferRequest terms e.exchange.request)
    (hsecond : ∀ e ∈ log₂, CloseRequest settings e.exchange.request) :
    Phased terms settings
      (⟨[], .node .listChannels, reply⟩ :: (inside .first log₁ ++ inside .second log₂)) where
  listing := by
    rintro _ ⟨⟩
    exact ⟨rfl, rfl⟩
  tasks := by
    intro e he
    rcases List.mem_append.1 he with he | he <;> obtain ⟨e', he', rfl⟩ := List.mem_map.1 he
    · exact Or.inl ⟨rfl, hfirst e' he'⟩
    · exact Or.inr ⟨rfl, hsecond e' he'⟩
  ordered := by
    refine List.pairwise_cons.2 ⟨fun _ _ => nofun, List.pairwise_append.2 ⟨?_, ?_, ?_⟩⟩
    · refine List.pairwise_map.2 (List.pairwise_of_forall fun _ _ h => ?_)
      cases h
    · exact List.pairwise_map.2 (List.pairwise_of_forall fun _ _ _ => rfl)
    · intro e he later hlater _
      obtain ⟨_, _, rfl⟩ := List.mem_map.1 hlater
      rfl

/-! ## The end of an execution -/

/-- What a rebalance returns if its tasks are not started : listing the channels crashed or failed,
or there is at most one. -/
inductive Idle : Option (Except Fault (List Channel)) →
    Option (Except ClientError RebalanceReport) → Prop
  | crashed : Idle none none
  | failed (cause : Fault) : Idle (some (.error cause)) (some (.error (.fault cause)))
  | few {channels : List Channel} (h : channels.length ≤ 1) :
      Idle (some (.ok channels)) (some (.ok {}))

theorem exec_run_cases {result : Option (Except ClientError RebalanceReport)}
    (h : Exec gate (.running (run terms settings died).run) log (.ended result)) :
    (∃ listed, log = [⟨[], .node .listChannels, listed⟩] ∧ Idle listed result) ∨
      ∃ channels transferred closed log₁ log₂, 1 < channels.length ∧
        log = ⟨[], .node .listChannels, some (.ok channels)⟩ ::
          (inside .first log₁ ++ inside .second log₂) ∧
        Exec gate (.running (transfer terms channels)) log₁ (.ended transferred) ∧
        Exec true (.running (closeSettled settings)) log₂ (.ended closed) ∧
        result = some (conclude died transferred closed) := by
  rcases Exec.ask_cases h with ⟨listed, rest, rfl, hrest⟩ | ⟨rfl, rfl⟩
  · cases listed with
    | error cause =>
      obtain ⟨rfl, rfl⟩ := hrest.pure_cases
      exact Or.inl ⟨_, rfl, .failed cause⟩
    | ok channels =>
      have hnext : Exec gate (.running (ExceptT.run (if channels.length ≤ 1 then pure {}
        else runTasks terms settings died channels))) rest (.ended result) := hrest
      split_ifs at hnext with hlength
      · obtain ⟨rfl, rfl⟩ := Exec.pure_cases hnext
        exact Or.inl ⟨_, rfl, .few hlength⟩
      · obtain ⟨transferred, closed, log₁, log₂, log₃, rfl, hfirst, hsecond, hend⟩ :=
          Exec.both_cases hnext
        obtain ⟨rfl, rfl⟩ := Exec.pure_cases hend
        refine Or.inr
          ⟨channels, transferred, closed, log₁, log₂, by omega, ?_, hfirst, hsecond, rfl⟩
        rw [List.append_nil]
  · exact Or.inl ⟨none, rfl, .crashed⟩

theorem phased_of_ended {result : Option (Except ClientError RebalanceReport)}
    (h : Exec gate (.running (run terms settings died).run) log (.ended result)) :
    Phased terms settings log := by
  rcases exec_run_cases h with
    ⟨listed, rfl, -⟩ | ⟨channels, transferred, closed, log₁, log₂, -, rfl, hfirst, hsecond, -⟩
  · exact @phased_inside _ _ [] [] listed (List.forall_mem_nil _) (List.forall_mem_nil _)
  · exact phased_inside
      (fun e he => (inOrder_transfer channels).allowed_of_runs
        ((inOrder_transfer channels).runs_of_exec hfirst) e.exchange (List.mem_map_of_mem he))
      (fun e he => inOrder_closeSettled.allowed_of_runs
        (inOrder_closeSettled.runs_of_exec hsecond) e.exchange (List.mem_map_of_mem he))

/-! ## Every execution -/

/-- What is asked is in order at every point of an execution, from which it can be brought to an
end. When it has ended, either the tasks were not started, or both have ended; then, unless the
closing task crashed, the transfer's error is returned, or the counts of both. -/
theorem phases_of_exec {s : Progress Collaborators (Except ClientError RebalanceReport)}
    (h : Exec true (.running (run terms settings died).run) log s) :
    Phased terms settings log ∧ (∃ rest result, Exec true s rest (.ended result)) ∧
      ∀ result, s = .ended result →
        Runs (run terms settings died).run (log.map Event.exchange) result ∧
          ((∃ listed, log = [⟨[], .node .listChannels, listed⟩] ∧ Idle listed result) ∨
            ∃ channels transferred closed log₁ log₂, 1 < channels.length ∧
              log = ⟨[], .node .listChannels, some (.ok channels)⟩ ::
                (inside .first log₁ ++ inside .second log₂) ∧
              Exec true (.running (transfer terms channels)) log₁ (.ended transferred) ∧
              Exec true (.running (closeSettled settings)) log₂ (.ended closed) ∧
              (closed = none →
                result = some (.error (.task ("rebalance close: " ++ died .close)))) ∧
              ∀ count, closed = some count → result = some (match transferred with
                | none => .error (.task ("rebalance transfer: " ++ died .transfer))
                | some (.error cause) => .error (.fault cause)
                | some (.ok report) => .ok ⟨report.attempted, report.succeeded, count⟩)) := by
  obtain ⟨rest, final, hrest⟩ := exists_exec_ended s
  refine ⟨(phased_of_ended (h.trans hrest)).of_append, ⟨rest, final, hrest⟩, ?_⟩
  rintro result rfl
  refine ⟨inOrder_run.runs_of_exec h, (exec_run_cases h).imp_right ?_⟩
  rintro ⟨channels, transferred, closed, log₁, log₂, hlength, hlog, hfirst, hsecond, rfl⟩
  refine ⟨channels, transferred, closed, log₁, log₂, hlength, hlog, hfirst, hsecond, ?_, ?_⟩
  · rintro rfl
    rfl
  · rintro count rfl
    rcases transferred with _ | _ | _ <;> rfl

/-- Terms without fees. -/
def freeTerms : Terms := ⟨"", [], "", "", 0, 0, 0, ⟨0⟩, 40, 0, 0, 0, ""⟩

/-- Two channels with these local balances, the second the larger one. -/
def twoChannels (first second : Int64) : List Channel :=
  [⟨1, 1, "", "a:0", 10, first, 5, 0, 0, 0⟩, ⟨2, 2, "", "b:0", 20, second, 15, 0, 0, 0⟩]

/-- One channel is emptied into the other and closed. The closing task is released, and lets the
channels settle, after the transfer has sent its signal and before it has ended. -/
theorem phases_of_exec_two :
    let rebalance := (run freeTerms {} fun _ => "").run
    ∃ log, Exec true (.running rebalance) log (.ended (some (.ok ⟨1, 1, 1⟩))) ∧
      Phased freeTerms {} log ∧
        Runs rebalance (log.map Event.exchange) (some (.ok ⟨1, 1, 1⟩)) := by
  intro rebalance
  have hexec : ∃ log, Exec true (.running rebalance) log (.ended (some (.ok ⟨1, 1, 1⟩))) := by
    apply Exists.intro
    apply Exec.step (.answered (by exact .ok (twoChannels 5 5)))
    apply Exec.step .fork
    -- the circular payment
    apply Exec.step (.first (.answered (by exact .ok ⟨"", [], []⟩)))
    apply Exec.step (.first (.answered (by exact .ok ⟨"", 0, "", ""⟩)))
    apply Exec.step (.first (.answered (by exact .ok ⟨"", [], []⟩)))
    apply Exec.step (.first .finish)
    -- the second task passes its gate while the first is still there
    apply Exec.step (.second (by exact .release))
    apply Exec.step (.second (.answered (by exact ())))
    apply Exec.step (.first .leave)
    apply Exec.step (.second (.answered (by exact .ok (twoChannels 0 10))))
    apply Exec.step (.second (.answered (by exact .ok ())))
    apply Exec.step (.second .finish)
    apply Exec.step (.second .leave)
    exact .step .join (.step .finish (.of_step .leave))
  obtain ⟨log, h⟩ := hexec
  exact ⟨log, h, (phases_of_exec h).1, ((phases_of_exec h).2.2 _ rfl).1⟩

end LiquidityClient.Rebalance
