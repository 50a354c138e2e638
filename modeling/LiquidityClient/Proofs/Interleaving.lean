import LiquidityClient.Proofs.Transcript

/-!
# Tasks side by side

`Program.run` lets the first of two tasks end before the second begins. Here the steps of the two
are interleaved in any order : `Progress` says how far a program and its tasks have come, `Step` is
one step of one task, and `Exec` any number of them. A task that has returned has sent its signal,
one that crashed has dropped it, and the second task gets past an `await` once the signal of the
first is out.

If the second task awaits the first before anything else, all that the first asks comes before all
that the second asks (`Exec.both_cases`). If all second tasks of a program do so, it is
`InOrder`, and its executions are its runs, where the first task ends before the second begins
(`InOrder.exec_iff_runs`). No execution gets stuck (`exists_exec_ended`).
-/

namespace LiquidityClient

/-- One of two tasks. -/
inductive Side where
  | first
  | second
  deriving DecidableEq

/-- What those that wait for the end of a task know of it. -/
inductive Signal where
  /-- It is under way. -/
  | pending
  /-- It has returned. -/
  | sent
  /-- It crashed, and its signal was never sent. -/
  | dropped
  deriving DecidableEq

/-- Is there nothing left to wait for? -/
def Signal.isOut : Signal → Bool
  | .pending => false
  | _ => true

/-- An exchange with the task that made it : the sides taken at each fork, from the outermost on. -/
structure Event (I : Interface) where
  task : List Side
  exchange : Exchange I

/-- The event, seen from outside the task in which it happened. -/
def Event.inside {I : Interface} (side : Side) (e : Event I) : Event I :=
  { e with task := side :: e.task }

namespace Program

/-- How far a program has come. -/
inductive Progress (I : Interface) : Type → Type 1 where
  | running {α : Type} (p : Program I α) : Progress I α
  /-- Two tasks are under way. -/
  | forked {α β γ : Type} (first : Progress I β) (second : Progress I γ)
      (next : Option β → Option γ → Program I α) : Progress I α
  /-- It has sent its signal, and is about to end. -/
  | returned {α : Type} (result : α) : Progress I α
  /-- There is no result if it crashed. -/
  | ended {α : Type} (result : Option α) : Progress I α

variable {I : Interface} {α β γ : Type} {gate : Bool} {log log₁ log₂ : List (Event I)}

namespace Progress

/-- What those that wait for the end of the program know of it. -/
def signal : Progress I α → Signal
  | .running _ => .pending
  | .forked _ _ _ => .pending
  | .returned _ => .sent
  | .ended (some _) => .sent
  | .ended none => .dropped

/-- Is the signal of the program sent or dropped? -/
def isOut (s : Progress I α) : Bool :=
  s.signal.isOut

end Progress

open Progress

/-- One step of a program, with what is asked in it. `gate` tells whether there is nothing left to
wait for : an `await` passes only an open gate, and the gate of a second task is open once the
signal of the first is out. -/
inductive Step : {α : Type} → Bool → Progress I α → Option (Event I) → Progress I α → Prop
  | answered {α : Type} {gate : Bool} {request : I.Request} {next : I.Reply request → Program I α}
      (reply : I.Reply request) :
      Step gate (.running (.ask request next)) (some ⟨[], request, some reply⟩)
        (.running (next reply))
  | crashed {α : Type} {gate : Bool} {request : I.Request} {next : I.Reply request → Program I α} :
      Step gate (.running (.ask request next)) (some ⟨[], request, none⟩) (.ended none)
  | fork {α β γ : Type} {gate : Bool} {first : Program I β} {second : Program I γ}
      {next : Option β → Option γ → Program I α} :
      Step gate (.running (.both first second next)) none
        (.forked (.running first) (.running second) next)
  | release {α : Type} {next : Program I α} :
      Step true (.running (.await next)) none (.running next)
  | finish {α : Type} {gate : Bool} {result : α} :
      Step gate (.running (.pure result)) none (.returned result)
  | leave {α : Type} {gate : Bool} {result : α} :
      Step gate (.returned result) none (.ended (some result))
  | first {α β γ : Type} {gate : Bool} {s s' : Progress I β} {t : Progress I γ}
      {next : Option β → Option γ → Program I α} {e : Option (Event I)} (h : Step gate s e s') :
      Step gate (.forked s t next) (e.map (.inside .first)) (.forked s' t next)
  | second {α β γ : Type} {gate : Bool} {s : Progress I β} {t t' : Progress I γ}
      {next : Option β → Option γ → Program I α} {e : Option (Event I)} (h : Step s.isOut t e t') :
      Step gate (.forked s t next) (e.map (.inside .second)) (.forked s t' next)
  | join {α β γ : Type} {gate : Bool} {b : Option β} {c : Option γ}
      {next : Option β → Option γ → Program I α} :
      Step gate (.forked (.ended b) (.ended c) next) none (.running (next b c))

/-- Any number of steps, with all that is asked in them. -/
inductive Exec (gate : Bool) : Progress I α → List (Event I) → Progress I α → Prop
  | refl (s : Progress I α) : Exec gate s [] s
  | step {s s' s'' : Progress I α} {e : Option (Event I)} {log : List (Event I)}
      (hstep : Step gate s e s') (rest : Exec gate s' log s'') : Exec gate s (e.toList ++ log) s''

/-! ## Executions put together -/

theorem Exec.trans {s s' s'' : Progress I α} (h₁ : Exec gate s log₁ s')
    (h₂ : Exec gate s' log₂ s'') : Exec gate s (log₁ ++ log₂) s'' := by
  induction h₁ with
  | refl => exact h₂
  | step hstep _ ih =>
    rw [List.append_assoc]
    exact .step hstep (ih h₂)

theorem Exec.of_step {s s' : Progress I α} {e : Option (Event I)} (h : Step gate s e s') :
    Exec gate s e.toList s' := by
  simpa using Exec.step h (.refl s')

/-- The events, seen from outside the task in which they happened. -/
abbrev inside (side : Side) (log : List (Event I)) : List (Event I) :=
  log.map (.inside side)

theorem toList_map_append_inside (side : Side) (e : Option (Event I)) (log : List (Event I)) :
    (e.map (.inside side)).toList ++ inside side log = inside side (e.toList ++ log) := by
  cases e <;> rfl

theorem Exec.first {s s' : Progress I β} (h : Exec gate s log s') (t : Progress I γ)
    (next : Option β → Option γ → Program I α) :
    Exec gate (.forked s t next) (inside .first log) (.forked s' t next) := by
  induction h with
  | refl => exact .refl _
  | step hstep _ ih =>
    rw [← toList_map_append_inside]
    exact .step (.first hstep) ih

theorem Exec.second {t t' : Progress I γ} {s : Progress I β} (h : Exec s.isOut t log t')
    (next : Option β → Option γ → Program I α) :
    Exec gate (.forked s t next) (inside .second log) (.forked s t' next) := by
  induction h with
  | refl => exact .refl _
  | step hstep _ ih =>
    rw [← toList_map_append_inside]
    exact .step (.second hstep) ih

theorem isOut_ended (result : Option α) : (Progress.ended result : Progress I α).isOut = true := by
  cases result <;> rfl

/-- Two tasks one after the other, and what comes after both. -/
theorem Exec.sequence {s : Progress I β} {t : Progress I γ}
    {next : Option β → Option γ → Program I α} {b : Option β} {c : Option γ} {r : Progress I α}
    {log₃ : List (Event I)} (hfirst : Exec gate s log₁ (.ended b))
    (hsecond : Exec true t log₂ (.ended c)) (hnext : Exec gate (.running (next b c)) log₃ r) :
    Exec gate (.forked s t next) (inside .first log₁ ++ (inside .second log₂ ++ log₃)) r :=
  (hfirst.first t next).trans
    ((Exec.second (isOut_ended b ▸ hsecond) next).trans (.step .join hnext))

/-- A program can be brought to an end : every collaborator that is asked may crash. -/
theorem exists_exec_running_ended (p : Program I α) :
    ∃ log result, Exec true (.running p) log (.ended result) := by
  induction p with
  | pure result => exact ⟨_, _, .step .finish (.of_step .leave)⟩
  | ask request next _ => exact ⟨_, _, .of_step .crashed⟩
  | both first second next ihfirst ihsecond ih =>
    obtain ⟨log₁, b, hfirst⟩ := ihfirst
    obtain ⟨log₂, c, hsecond⟩ := ihsecond
    obtain ⟨log₃, result, hnext⟩ := ih b c
    exact ⟨_, result, .step .fork (hfirst.sequence hsecond hnext)⟩
  | await next ih =>
    obtain ⟨log, result, hexec⟩ := ih
    exact ⟨_, result, .step .release hexec⟩

/-- No execution gets stuck : however far it has come, it can be brought to an end. -/
theorem exists_exec_ended (s : Progress I α) : ∃ log result, Exec true s log (.ended result) := by
  induction s with
  | running p => exact exists_exec_running_ended p
  | forked s t next ihs iht =>
    obtain ⟨log₁, b, hs⟩ := ihs
    obtain ⟨log₂, c, ht⟩ := iht
    obtain ⟨log₃, result, hnext⟩ := exists_exec_running_ended (next b c)
    exact ⟨_, result, hs.sequence ht hnext⟩
  | returned result => exact ⟨_, _, .of_step .leave⟩
  | ended result => exact ⟨[], result, .refl _⟩

/-! ## Executions taken apart -/

theorem Exec.ended_cases {result : Option α} {s : Progress I α}
    (h : Exec gate (.ended result) log s) : log = [] ∧ s = .ended result := by
  cases h with
  | refl => exact ⟨rfl, rfl⟩
  | step hstep _ => cases hstep

theorem Exec.pure_cases {a : α} {result : Option α}
    (h : Exec gate (.running (.pure a)) log (.ended result)) : log = [] ∧ result = some a := by
  cases h with
  | step hfinish rest =>
    cases hfinish
    cases rest with
    | step hleave rest =>
      cases hleave
      obtain ⟨rfl, hr⟩ := rest.ended_cases
      cases hr
      exact ⟨rfl, rfl⟩

theorem Exec.ask_cases {request : I.Request} {next : I.Reply request → Program I α}
    {result : Option α} (h : Exec gate (.running (.ask request next)) log (.ended result)) :
    (∃ reply rest, log = ⟨[], request, some reply⟩ :: rest ∧
        Exec gate (.running (next reply)) rest (.ended result)) ∨
      (log = [⟨[], request, none⟩] ∧ result = none) := by
  cases h with
  | step hstep rest =>
    cases hstep with
    | answered reply => exact Or.inl ⟨reply, _, rfl, rest⟩
    | crashed =>
      obtain ⟨rfl, hr⟩ := rest.ended_cases
      cases hr
      exact Or.inr ⟨rfl, rfl⟩

/-- A program whose signal is out asks nothing more, and its signal stays out. -/
theorem Step.silent_of_isOut {s s' : Progress I α} {e : Option (Event I)} (h : Step gate s e s')
    (hs : s.isOut = true) : e = none ∧ s'.isOut = true := by
  cases h with
  | leave => exact ⟨rfl, rfl⟩
  | _ => cases hs

/-- When the signal of the first task is out, only the second asks, until both have ended. -/
theorem Exec.forked_isOut_cases {s : Progress I β} {t : Progress I γ}
    {next : Option β → Option γ → Program I α} {result : Option α}
    (h : Exec gate (.forked s t next) log (.ended result)) (hs : s.isOut = true) :
    ∃ b c log₂ log₃, log = inside .second log₂ ++ log₃ ∧ Exec gate s [] (.ended b) ∧
      Exec true t log₂ (.ended c) ∧ Exec gate (.running (next b c)) log₃ (.ended result) := by
  generalize hstart : Progress.forked s t next = start at h
  generalize hend : Progress.ended result = final at h
  induction h generalizing s t with
  | refl =>
    subst hstart
    cases hend
  | step hstep rest ih =>
    subst hstart
    cases hstep with
    | first hfirst =>
      obtain ⟨rfl, hout⟩ := hfirst.silent_of_isOut hs
      obtain ⟨b, c, log₂, log₃, rfl, hs', hsecond, hnext⟩ := ih hout rfl hend
      exact ⟨b, c, log₂, log₃, rfl, .step hfirst hs', hsecond, hnext⟩
    | second hsecond =>
      rw [hs] at hsecond
      obtain ⟨b, c, log₂, log₃, rfl, hs', hrest, hnext⟩ := ih hs rfl hend
      refine ⟨b, c, _, log₃, ?_, hs', .step hsecond hrest, hnext⟩
      rw [← List.append_assoc, toList_map_append_inside]
    | join =>
      subst hend
      exact ⟨_, _, [], _, rfl, .refl _, .refl _, rest⟩

/-- If the second task awaits the first before anything else, it asks nothing before the signal of
the first is out. -/
theorem Exec.forked_await_cases {s : Progress I β} {q : Program I γ}
    {next : Option β → Option γ → Program I α} {result : Option α}
    (h : Exec gate (.forked s (.running (.await q)) next) log (.ended result)) :
    ∃ b c log₁ log₂ log₃, log = inside .first log₁ ++ (inside .second log₂ ++ log₃) ∧
      Exec gate s log₁ (.ended b) ∧ Exec true (.running q) log₂ (.ended c) ∧
      Exec gate (.running (next b c)) log₃ (.ended result) := by
  generalize hstart : Progress.forked s (.running (.await q)) next = start at h
  generalize hend : Progress.ended result = final at h
  induction h generalizing s with
  | refl =>
    subst hstart
    cases hend
  | step hstep rest ih =>
    subst hstart
    cases hstep with
    | first hfirst =>
      obtain ⟨b, c, log₁, log₂, log₃, rfl, hs, hsecond, hnext⟩ := ih rfl hend
      refine ⟨b, c, _, log₂, log₃, ?_, .step hfirst hs, hsecond, hnext⟩
      rw [← List.append_assoc, toList_map_append_inside]
    | second hsecond =>
      subst hend
      generalize hgate : s.isOut = out at hsecond
      -- the only step of the second task is to pass the open gate
      cases hsecond
      obtain ⟨b, c, log₂, log₃, rfl, hs, hrest, hnext⟩ := rest.forked_isOut_cases hgate
      exact ⟨b, c, [], log₂, log₃, rfl, hs, hrest, hnext⟩

/-- If the second task awaits the first before anything else, all that the first asks comes before
all that the second asks, and what comes after both waits for the end of each. -/
theorem Exec.both_cases {first : Program I β} {second : Program I γ}
    {next : Option β → Option γ → Program I α} {result : Option α}
    (h : Exec gate (.running (.both first (.await second) next)) log (.ended result)) :
    ∃ b c log₁ log₂ log₃, log = inside .first log₁ ++ (inside .second log₂ ++ log₃) ∧
      Exec gate (.running first) log₁ (.ended b) ∧ Exec true (.running second) log₂ (.ended c) ∧
      Exec gate (.running (next b c)) log₃ (.ended result) := by
  cases h with
  | step hfork rest =>
    cases hfork
    exact rest.forked_await_cases

/-! ## Executions in sequence -/

variable {allowed : I.Request → Prop}

/-- An execution of a program in order asks what a run asks, in the same order. -/
theorem InOrder.runs_of_exec {p : Program I α} (hp : InOrder allowed p) {result : Option α}
    (h : Exec gate (.running p) log (.ended result)) :
    Runs p (log.map Event.exchange) result := by
  induction hp generalizing gate log with
  | pure a =>
    obtain ⟨rfl, rfl⟩ := h.pure_cases
    exact .pure a
  | ask _ _ ih =>
    rcases h.ask_cases with ⟨reply, rest, rfl, hrest⟩ | ⟨rfl, rfl⟩
    · exact (ih reply hrest).answered
    · exact .crashed
  | both _ _ _ ihfirst ihsecond ih =>
    obtain ⟨b, c, log₁, log₂, log₃, rfl, hfirst, hsecond, hnext⟩ := h.both_cases
    have hruns := (ihfirst hfirst).both (ihsecond hsecond).await (ih b c hnext)
    simpa [Function.comp_def, Event.inside] using hruns

/-- Every run is an execution, the first task before the second. -/
theorem Runs.exists_exec {p : Program I α} {log : Transcript I} {result : Option α}
    (h : Runs p log result) :
    ∃ events, events.map Event.exchange = log ∧ Exec true (.running p) events (.ended result) := by
  induction h with
  | pure a => exact ⟨[], rfl, .step .finish (.step .leave (.refl _))⟩
  | answered _ ih =>
    obtain ⟨events, rfl, hexec⟩ := ih
    exact ⟨_ :: events, rfl, .step (.answered _) hexec⟩
  | crashed => exact ⟨[_], rfl, .step .crashed (.refl _)⟩
  | both _ _ _ ihfirst ihsecond ih =>
    obtain ⟨events₁, rfl, hfirst⟩ := ihfirst
    obtain ⟨events₂, rfl, hsecond⟩ := ihsecond
    obtain ⟨events₃, rfl, hrest⟩ := ih
    refine ⟨_, ?_, .step .fork (hfirst.sequence hsecond hrest)⟩
    simp [Function.comp_def, Event.inside]
  | await _ ih =>
    obtain ⟨events, rfl, hexec⟩ := ih
    exact ⟨events, rfl, .step .release hexec⟩

/-- The executions of a program in order that end are its runs. -/
theorem InOrder.exec_iff_runs {p : Program I α} (hp : InOrder allowed p) {transcript : Transcript I}
    {result : Option α} :
    (∃ events, events.map Event.exchange = transcript ∧
        Exec true (.running p) events (.ended result)) ↔ Runs p transcript result := by
  constructor
  · rintro ⟨events, rfl, hexec⟩
    exact hp.runs_of_exec hexec
  · exact Runs.exists_exec

end Program

end LiquidityClient
