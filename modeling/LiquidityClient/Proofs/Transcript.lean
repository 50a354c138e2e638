import LiquidityClient.Collaborators

/-!
# Transcripts of runs

A transcript lists what a program asked and what it was answered. `Program.record` runs a program
and writes its transcript; `Runs p log result` says that some collaborators answer so that `p` asks
what `log` tells and ends with `result`. Every recorded run is one of these (`runs_record`), and
each of these is recorded with collaborators that give its answers (`Runs.record_of_gives`), as they
do when its transcript is replayed (`Runs.record_replayed`), so that a property of all `Runs` is one
that holds whatever the collaborators do. A sequence of programs has the transcript of the first
followed by that of the second (`Runs.bind_cases`; for actions `Action.runs_bind_cases`).
`AsksAtMost` bounds how often a run asks requests of a kind. `InOrder` says which requests a program
asks at all, and that its tasks come one after the other. `Action.FailsOnly` says which errors an
action ends with.
-/

namespace LiquidityClient

/-- A request with its answer; there is none if the collaborator crashed. -/
structure Exchange (I : Interface) where
  request : I.Request
  reply : Option (I.Reply request)

/-- What was asked in a run, in order. -/
abbrev Transcript (I : Interface) := List (Exchange I)

/-- How collaborators with a state answer. -/
abbrev Answering (I : Interface) (σ : Type) :=
  (r : I.Request) → σ → Option (I.Reply r) × σ

namespace Program

variable {I : Interface} {α β : Type}

/-! ## Recorded runs -/

theorem run_bind {σ : Type} (p : Program I α) (f : α → Program I β)
    (answer : Answering I σ) (s : σ) :
    (p.bind f).run answer s =
      match p.run answer s with
      | (some a, s) => (f a).run answer s
      | (none, s) => (none, s) := by
  induction p generalizing s with
  | pure a => rfl
  | ask r next ih =>
    rw [bind, run, run]
    rcases answer r s with ⟨_ | reply, s'⟩
    · rfl
    · exact ih reply f s'
  | both first second next _ _ ih =>
    rw [bind, run, run]
    exact ih _ _ f _
  | await next ih => exact ih f s

/-- The collaborators that answer by `answer` and write down what they are asked. -/
def recording {σ : Type} (answer : (r : I.Request) → σ → Option (I.Reply r) × σ)
    (request : I.Request) (state : σ × Transcript I) :
    Option (I.Reply request) × (σ × Transcript I) :=
  let (reply, next) := answer request state.1
  (reply, next, state.2 ++ [⟨request, reply⟩])

/-- The result of a run and its transcript. -/
def record {σ : Type} (answer : (r : I.Request) → σ → Option (I.Reply r) × σ)
    (p : Program I α) (state : σ) : Option α × Transcript I :=
  let (result, _, log) := p.run (recording answer) (state, [])
  (result, log)

/-! ## Possible runs -/

/-- Collaborators can answer so that the program asks what the transcript tells and ends with the
result; there is none if it crashes. -/
inductive Runs : {α : Type} → Program I α → Transcript I → Option α → Prop
  | pure {α : Type} (result : α) : Runs (.pure result) [] (some result)
  | answered {α : Type} {request : I.Request} {next : I.Reply request → Program I α}
      {reply : I.Reply request} {log : Transcript I} {result : Option α}
      (rest : Runs (next reply) log result) :
      Runs (.ask request next) (⟨request, some reply⟩ :: log) result
  | crashed {α : Type} {request : I.Request} {next : I.Reply request → Program I α} :
      Runs (.ask request next) [⟨request, none⟩] none
  | both {α β γ : Type} {first : Program I β} {second : Program I γ}
      {next : Option β → Option γ → Program I α} {log₁ log₂ log : Transcript I}
      {b : Option β} {c : Option γ} {result : Option α} (hfirst : Runs first log₁ b)
      (hsecond : Runs second log₂ c) (rest : Runs (next b c) log result) :
      Runs (.both first second next) (log₁ ++ log₂ ++ log) result
  | await {α : Type} {next : Program I α} {log : Transcript I} {result : Option α}
      (rest : Runs next log result) : Runs (.await next) log result

/-- Asked the requests of the transcript in turn, the collaborators give its answers. -/
def Gives {σ : Type} (answer : Answering I σ) : Transcript I → σ → Prop
  | [], _ => True
  | e :: rest, state =>
    (answer e.request state).1 = e.reply ∧ Gives answer rest (answer e.request state).2

/-- A run with recording collaborators adds the transcript of a possible run, whose answers they gave
before those that they give from there on. -/
theorem exists_runs_run {σ : Type} (answer : (r : I.Request) → σ → Option (I.Reply r) × σ)
    (p : Program I α) (state : σ × Transcript I) :
    ∃ log, (p.run (recording answer) state).2.2 = state.2 ++ log ∧
      Runs p log (p.run (recording answer) state).1 ∧
      ∀ rest, Gives answer rest (p.run (recording answer) state).2.1 →
        Gives answer (log ++ rest) state.1 := by
  induction p generalizing state with
  | pure result => exact ⟨[], by simp [run], .pure result, fun _ hrest => hrest⟩
  | ask request next ih =>
    rcases hreply : answer request state.1 with ⟨_ | reply, after⟩
    · refine ⟨[⟨request, none⟩], ?_, ?_, fun rest hrest => ?_⟩
      · simp [run, recording, hreply]
      · simpa [run, recording, hreply] using Runs.crashed
      · simp only [run, recording, hreply] at hrest
        exact ⟨by rw [hreply], by rwa [hreply]⟩
    · obtain ⟨log, hlog, hruns, hgives⟩ := ih reply (after, state.2 ++ [⟨request, some reply⟩])
      refine ⟨⟨request, some reply⟩ :: log, ?_, ?_, fun rest hrest => ?_⟩
      · simp [run, recording, hreply, hlog]
      · simpa [run, recording, hreply] using hruns.answered
      · simp only [run, recording, hreply] at hrest
        exact ⟨by rw [hreply], by rw [hreply]; exact hgives rest hrest⟩
  | both first second next ihfirst ihsecond ih =>
    obtain ⟨log₁, hlog₁, hruns₁, hgives₁⟩ := ihfirst state
    obtain ⟨log₂, hlog₂, hruns₂, hgives₂⟩ := ihsecond (first.run (recording answer) state).2
    obtain ⟨log, hlog, hruns, hgives⟩ := ih _ _
      (second.run (recording answer) (first.run (recording answer) state).2).2
    refine ⟨log₁ ++ log₂ ++ log, ?_, hruns₁.both hruns₂ hruns, fun rest hrest => ?_⟩
    · rw [run, hlog, hlog₂, hlog₁]
      simp
    · rw [List.append_assoc, List.append_assoc]
      exact hgives₁ _ (hgives₂ _ (hgives rest hrest))
  | await next ih =>
    obtain ⟨log, hlog, hruns, hgives⟩ := ih state
    exact ⟨log, hlog, hruns.await, hgives⟩

/-- What is recorded is a possible run. -/
theorem runs_record {σ : Type} (answer : (r : I.Request) → σ → Option (I.Reply r) × σ)
    (p : Program I α) (state : σ) :
    Runs p (record answer p state).2 (record answer p state).1 := by
  obtain ⟨log, hlog, hruns, -⟩ := exists_runs_run answer p (state, [])
  rw [List.nil_append] at hlog
  exact hlog ▸ hruns

theorem runs_pure_iff {a : α} {log : Transcript I} {result : Option α} :
    Runs (.pure a : Program I α) log result ↔ log = [] ∧ result = some a := by
  constructor
  · rintro ⟨⟩
    exact ⟨rfl, rfl⟩
  · rintro ⟨rfl, rfl⟩
    exact .pure a

/-- A run that asks first goes on with the reply, or crashes at once. -/
theorem Runs.ask_cases {request : I.Request} {next : I.Reply request → Program I α}
    {log : Transcript I} {result : Option α} (h : Runs (.ask request next) log result) :
    (∃ reply rest, log = ⟨request, some reply⟩ :: rest ∧ Runs (next reply) rest result) ∨
      (log = [⟨request, none⟩] ∧ result = none) := by
  cases h with
  | answered rest => exact Or.inl ⟨_, _, rfl, rest⟩
  | crashed => exact Or.inr ⟨rfl, rfl⟩

theorem Runs.request_cases {r : I.Request} {log : Transcript I} {result : Option (I.Reply r)}
    (h : Runs (request r) log result) : log = [⟨r, result⟩] := by
  cases h with
  | answered rest =>
    obtain ⟨rfl, rfl⟩ := runs_pure_iff.1 rest
    rfl
  | crashed => rfl

/-- A run of two programs in sequence is a run of the first and, if it has a result, one of the
second. -/
theorem Runs.bind_cases {p : Program I α} {f : α → Program I β} {log : Transcript I}
    {result : Option β} (h : Runs (p.bind f) log result) :
    (∃ a log₁ log₂, log = log₁ ++ log₂ ∧ Runs p log₁ (some a) ∧ Runs (f a) log₂ result) ∨
      (Runs p log none ∧ result = none) := by
  induction p generalizing log with
  | pure a => exact Or.inl ⟨a, [], log, rfl, .pure a, h⟩
  | ask request next ih =>
    cases h with
    | answered rest =>
      rcases ih _ rest with ⟨a, log₁, log₂, rfl, hfirst, hsecond⟩ | ⟨hfirst, rfl⟩
      · exact Or.inl ⟨a, _ :: log₁, log₂, rfl, hfirst.answered, hsecond⟩
      · exact Or.inr ⟨hfirst.answered, rfl⟩
    | crashed => exact Or.inr ⟨.crashed, rfl⟩
  | both first second next _ _ ih =>
    cases h with
    | both hb hc rest =>
      rcases ih _ _ rest with ⟨a, log₁, log₂, rfl, hfirst, hsecond⟩ | ⟨hfirst, rfl⟩
      · exact Or.inl ⟨a, _ ++ log₁, log₂, by simp, hb.both hc hfirst, hsecond⟩
      · exact Or.inr ⟨hb.both hc hfirst, rfl⟩
  | await next ih =>
    cases h with
    | await rest =>
      rcases ih rest with ⟨a, log₁, log₂, rfl, hfirst, hsecond⟩ | ⟨hfirst, rfl⟩
      · exact Or.inl ⟨a, log₁, log₂, rfl, hfirst.await, hsecond⟩
      · exact Or.inr ⟨hfirst.await, rfl⟩

/-- A run with a result goes on with a run of what follows. -/
theorem Runs.bind {p : Program I α} {f : α → Program I β} {a : α} {log log' : Transcript I}
    {result : Option β} (h : Runs p log (some a)) (hf : Runs (f a) log' result) :
    Runs (p.bind f) (log ++ log') result := by
  generalize hvalue : some a = value at h
  induction h with
  | pure b =>
    cases hvalue
    exact hf
  | answered _ ih => exact (ih hf hvalue).answered
  | crashed => cases hvalue
  | both hfirst hsecond _ _ _ ih =>
    rw [List.append_assoc]
    exact hfirst.both hsecond (ih hf hvalue)
  | await _ ih => exact (ih hf hvalue).await

/-- What can be asked has an answer in a run with a result. -/
theorem runs_ask_some_iff {request : I.Request} {next : I.Reply request → Program I α}
    {log : Transcript I} {a : α} : Runs (.ask request next) log (some a) ↔
      ∃ reply rest, log = ⟨request, some reply⟩ :: rest ∧ Runs (next reply) rest (some a) := by
  constructor
  · intro h
    rcases h.ask_cases with hreply | ⟨-, hne⟩
    · exact hreply
    · cases hne
  · rintro ⟨reply, rest, rfl, hrest⟩
    exact hrest.answered

/-- Two programs in sequence have a result if both have one. -/
theorem runs_bind_some_iff {p : Program I α} {f : α → Program I β} {log : Transcript I} {b : β} :
    Runs (p.bind f) log (some b) ↔
      ∃ a log₁ log₂, log = log₁ ++ log₂ ∧ Runs p log₁ (some a) ∧ Runs (f a) log₂ (some b) := by
  constructor
  · intro h
    rcases h.bind_cases with hvalue | ⟨-, hne⟩
    · exact hvalue
    · cases hne
  · rintro ⟨a, log₁, log₂, rfl, hfirst, hsecond⟩
    exact hfirst.bind hsecond

/-- What a program is answered decides what it asks next and how it ends : of two runs whose
transcripts agree as far as both go, both are the same. -/
theorem Runs.unique {p : Program I α} {log log' rest rest' : Transcript I}
    {result result' : Option α}
    (h : Runs p log result) (h' : Runs p log' result') (heq : log ++ rest = log' ++ rest') :
    log = log' ∧ result = result' := by
  induction h generalizing log' rest rest' with
  | pure a =>
    obtain ⟨rfl, rfl⟩ := runs_pure_iff.1 h'
    exact ⟨rfl, rfl⟩
  | answered _ ih =>
    cases h' with
    | answered hrest =>
      obtain ⟨hexchange, htail⟩ := List.cons.inj heq
      cases hexchange
      obtain ⟨rfl, rfl⟩ := ih hrest htail
      exact ⟨rfl, rfl⟩
    | crashed => cases heq
  | crashed =>
    cases h' with
    | answered hrest => cases heq
    | crashed => exact ⟨rfl, rfl⟩
  | both _ _ _ ihfirst ihsecond ih =>
    cases h' with
    | both hfirst hsecond hrest =>
      simp only [List.append_assoc] at heq
      obtain ⟨rfl, rfl⟩ := ihfirst hfirst heq
      obtain ⟨rfl, rfl⟩ := ihsecond hsecond (List.append_cancel_left heq)
      obtain ⟨rfl, rfl⟩ := ih hrest (List.append_cancel_left (List.append_cancel_left heq))
      exact ⟨rfl, rfl⟩
  | await _ ih =>
    cases h' with
    | await hrest => exact ih hrest heq

/-- A run without a result ends with a collaborator that crashed. -/
theorem Runs.exists_crash {p : Program I α} {log : Transcript I} (h : Runs p log none) :
    ∃ e ∈ log, e.reply = none := by
  generalize hresult : none = result at h
  induction h with
  | pure a => cases hresult
  | answered _ ih =>
    obtain ⟨e, he, hcrash⟩ := ih hresult
    exact ⟨e, List.mem_cons_of_mem _ he, hcrash⟩
  | crashed => exact ⟨_, List.mem_singleton_self _, rfl⟩
  | both _ _ _ _ _ ih =>
    obtain ⟨e, he, hcrash⟩ := ih hresult
    exact ⟨e, List.mem_append_right _ he, hcrash⟩
  | await _ ih => exact ih hresult

/-! ## Runs with given answers -/

section Given

variable {σ : Type} {answer : Answering I σ} {p : Program I α} {log rest : Transcript I}
  {result : Option α} {state : σ}

/-- Collaborators that give the answers of a possible run make it happen, and go on from there. -/
theorem Runs.run_of_gives (h : Runs p log result) (hgives : Gives answer (log ++ rest) state)
    (before : Transcript I) : ∃ after,
      p.run (recording answer) (state, before) = (result, after, before ++ log) ∧
        Gives answer rest after := by
  induction h generalizing state before rest with
  | pure result => exact ⟨state, by simp [run], hgives⟩
  | @answered _ request _ reply _ _ _ ih =>
    obtain ⟨hreply, hgives⟩ := hgives
    obtain ⟨after, hrun, hrest⟩ := ih hgives (before ++ [⟨request, some reply⟩])
    refine ⟨after, ?_, hrest⟩
    simp [run, recording, hreply, hrun]
  | crashed =>
    obtain ⟨hreply, hgives⟩ := hgives
    refine ⟨_, ?_, hgives⟩
    simp [run, recording, hreply]
  | @both _ _ _ _ _ _ log₁ log₂ _ _ _ _ _ _ _ ihfirst ihsecond ih =>
    simp only [List.append_assoc] at hgives
    obtain ⟨_, hfirst, hgives⟩ := ihfirst hgives before
    obtain ⟨_, hsecond, hgives⟩ := ihsecond hgives (before ++ log₁)
    obtain ⟨after, hrun, hrest⟩ := ih hgives (before ++ log₁ ++ log₂)
    refine ⟨after, ?_, hrest⟩
    rw [run, hfirst]
    dsimp only
    rw [hsecond]
    dsimp only
    rw [hrun]
    simp only [List.append_assoc]
  | await _ ih => exact ih hgives before

theorem Runs.record_of_gives (h : Runs p log result) (hgives : Gives answer log state) :
    record answer p state = (result, log) := by
  rw [← List.append_nil log] at hgives
  obtain ⟨after, hrun, -⟩ := h.run_of_gives hgives []
  simp [record, hrun]

theorem Gives.mono {log' : Transcript I} (hlog : log <+: log')
    (h : Gives answer log' state) : Gives answer log state := by
  obtain ⟨tail, rfl⟩ := hlog
  induction log generalizing state with
  | nil => trivial
  | cons e rest ih => exact ⟨h.1, ih h.2⟩

theorem gives_record (answer : Answering I σ) (p : Program I α) (state : σ) :
    Gives answer (record answer p state).2 state := by
  obtain ⟨log, hlog, -, hgives⟩ := exists_runs_run answer p (state, [])
  rw [record, hlog, List.nil_append, ← List.append_nil log]
  exact hgives [] trivial

/-- A recorded run begins with a possible run of its first part exactly if the collaborators give the
answers of that. -/
theorem Runs.prefix_record_bind_iff {a : α} {f : α → Program I β} (h : Runs p log (some a)) :
    log <+: (record answer (p.bind f) state).2 ↔ Gives answer log state := by
  constructor
  · exact (gives_record answer _ state).mono
  · intro hgives
    rw [← List.append_nil log] at hgives
    obtain ⟨after, hrun, -⟩ := h.run_of_gives hgives []
    obtain ⟨tail, hlog, -, -⟩ := exists_runs_run answer (f a) (after, log)
    refine ⟨tail, ?_⟩
    rw [record, run_bind, hrun]
    exact hlog.symm

end Given

/-! ## Replayed runs -/

section Replay

variable [DecidableEq I.Request]

/-- The collaborators that answer as a transcript tells. -/
def replayed (request : I.Request) : Transcript I → Option (I.Reply request) × Transcript I
  | [] => (none, [])
  | e :: rest => (if h : e.request = request then h ▸ e.reply else none, rest)

theorem replayed_cons (request : I.Request) (reply : Option (I.Reply request))
    (rest : Transcript I) : replayed request (⟨request, reply⟩ :: rest) = (reply, rest) := by
  simp [replayed]

theorem gives_replayed (log : Transcript I) : Gives replayed log log := by
  induction log with
  | nil => trivial
  | cons e rest ih => exact ⟨by rw [replayed_cons], by rwa [replayed_cons]⟩

/-- A possible run is the one that is recorded when its transcript is replayed. -/
theorem Runs.record_replayed {p : Program I α} {log : Transcript I} {result : Option α}
    (h : Runs p log result) : record replayed p log = (result, log) :=
  h.record_of_gives (gives_replayed log)

/-- What holds of all recorded runs holds of all possible ones. -/
theorem forall_record_iff {p : Program I α} {P : Transcript I → Prop} :
    (∀ (σ : Type) (answer : (r : I.Request) → σ → Option (I.Reply r) × σ) (state : σ),
      P (record answer p state).2) ↔ ∀ log result, Runs p log result → P log := by
  constructor
  · intro h log result hrun
    have hlog := h (Transcript I) replayed log
    rwa [hrun.record_replayed] at hlog
  · intro h σ answer state
    exact h _ _ (runs_record answer p state)

end Replay

/-! ## How often a kind of request is asked -/

/-- The number of requests of a kind in a transcript. -/
def asked (kind : I.Request → Bool) (log : Transcript I) : Nat :=
  log.countP fun exchange => kind exchange.request

@[simp] theorem asked_nil (kind : I.Request → Bool) : asked kind [] = 0 := rfl

@[simp] theorem asked_cons (kind : I.Request → Bool) (exchange : Exchange I) (log : Transcript I) :
    asked kind (exchange :: log) = asked kind log + if kind exchange.request then 1 else 0 := by
  simp [asked, List.countP_cons]

@[simp] theorem asked_append (kind : I.Request → Bool) (log₁ log₂ : Transcript I) :
    asked kind (log₁ ++ log₂) = asked kind log₁ + asked kind log₂ := by
  simp [asked]

/-- No run asks more than `n` requests of the kind. -/
def AsksAtMost (kind : I.Request → Bool) (n : Nat) (p : Program I α) : Prop :=
  ∀ log result, Runs p log result → asked kind log ≤ n

variable {kind : I.Request → Bool}

theorem AsksAtMost.mono {m n : Nat} {p : Program I α} (hp : AsksAtMost kind m p) (hmn : m ≤ n) :
    AsksAtMost kind n p :=
  fun log result h => Nat.le_trans (hp log result h) hmn

theorem asksAtMost_pure (a : α) : AsksAtMost kind 0 (.pure a : Program I α) := by
  intro log result h
  obtain ⟨rfl, -⟩ := runs_pure_iff.1 h
  exact Nat.le_refl 0

theorem asksAtMost_request (r : I.Request) : AsksAtMost kind 1 (request r) := by
  intro log result h
  rw [h.request_cases, asked_cons, asked_nil]
  split <;> omega

theorem asksAtMost_request_of_not {r : I.Request} (hr : kind r = false) :
    AsksAtMost kind 0 (request r) := by
  intro log result h
  rw [h.request_cases, asked_cons, asked_nil]
  simp [hr]

theorem AsksAtMost.bind {m n : Nat} {p : Program I α} {f : α → Program I β}
    (hp : AsksAtMost kind m p) (hf : ∀ a, AsksAtMost kind n (f a)) :
    AsksAtMost kind (m + n) (p.bind f) := by
  intro log result h
  rcases h.bind_cases with ⟨a, log₁, log₂, rfl, hfirst, hsecond⟩ | ⟨hfirst, -⟩
  · rw [asked_append]
    exact Nat.add_le_add (hp _ _ hfirst) (hf a _ _ hsecond)
  · exact Nat.le_trans (hp _ _ hfirst) (Nat.le_add_right m n)

/-! ## What kinds of requests are asked -/

/-- Every request is allowed, a second task awaits the first before anything else, and nothing else
is awaited. -/
inductive InOrder (allowed : I.Request → Prop) : {α : Type} → Program I α → Prop
  | pure {α : Type} (result : α) : InOrder allowed (.pure result)
  | ask {α : Type} {request : I.Request} {next : I.Reply request → Program I α}
      (hrequest : allowed request) (hnext : ∀ reply, InOrder allowed (next reply)) :
      InOrder allowed (.ask request next)
  | both {α β γ : Type} {first : Program I β} {second : Program I γ}
      {next : Option β → Option γ → Program I α} (hfirst : InOrder allowed first)
      (hsecond : InOrder allowed second) (hnext : ∀ b c, InOrder allowed (next b c)) :
      InOrder allowed (.both first (.await second) next)

variable {allowed : I.Request → Prop}

theorem inOrder_request {r : I.Request} (hr : allowed r) : InOrder allowed (request r) :=
  .ask hr .pure

theorem InOrder.bind {p : Program I α} {f : α → Program I β} (hp : InOrder allowed p)
    (hf : ∀ a, InOrder allowed (f a)) : InOrder allowed (p.bind f) := by
  induction hp with
  | pure result => exact hf result
  | ask hrequest _ ih => exact .ask hrequest fun reply => ih reply hf
  | both hfirst hsecond _ _ _ ih => exact .both hfirst hsecond fun b c => ih b c hf

theorem InOrder.mono {allowed' : I.Request → Prop} {p : Program I α} (hp : InOrder allowed p)
    (h : ∀ r, allowed r → allowed' r) : InOrder allowed' p := by
  induction hp with
  | pure result => exact .pure result
  | ask hrequest _ ih => exact .ask (h _ hrequest) ih
  | both _ _ _ ihfirst ihsecond ih => exact .both ihfirst ihsecond ih

/-- Every request of a run is allowed. -/
theorem InOrder.allowed_of_runs {p : Program I α} (hp : InOrder allowed p) {log : Transcript I}
    {result : Option α} (h : Runs p log result) : ∀ e ∈ log, allowed e.request := by
  induction hp generalizing log with
  | pure a =>
    obtain ⟨rfl, -⟩ := runs_pure_iff.1 h
    exact nofun
  | ask hrequest _ ih =>
    cases h with
    | answered rest => exact List.forall_mem_cons.2 ⟨hrequest, ih _ rest⟩
    | crashed => exact List.forall_mem_singleton.2 hrequest
  | both _ _ _ ihfirst ihsecond ih =>
    cases h with
    | both hfirst hsecond rest =>
      cases hsecond with
      | await hsecond =>
        exact List.forall_mem_append.2
          ⟨List.forall_mem_append.2 ⟨ihfirst hfirst, ihsecond hsecond⟩, ih _ _ rest⟩

/-- A kind of requests that is not allowed is not asked. -/
theorem InOrder.asked_eq_zero {p : Program I α} (hp : InOrder (fun r => kind r = false) p)
    {log : Transcript I} {result : Option α} (h : Runs p log result) : asked kind log = 0 :=
  List.countP_eq_zero.2 fun e he => by simp [hp.allowed_of_runs h e he]

theorem InOrder.asksAtMost_zero {p : Program I α} (hp : InOrder (fun r => kind r = false) p) :
    AsksAtMost kind 0 p :=
  fun _ _ h => Nat.le_of_eq (hp.asked_eq_zero h)

end Program

/-! ## Actions -/

namespace Action

open Program

variable {ε δ α β : Type} {kind : Request → Bool} {log : Transcript Collaborators}

/-- A run of two actions in sequence is a run of the first and, if it has a value, one of the
second. -/
theorem runs_bind_cases {x : Action ε α} {f : α → Action ε β} {result : Option (Except ε β)}
    (h : Runs (x >>= f).run log result) :
    (∃ a log₁ log₂, log = log₁ ++ log₂ ∧ Runs x.run log₁ (some (.ok a)) ∧
        Runs (f a).run log₂ result) ∨
      (∃ e, Runs x.run log (some (.error e)) ∧ result = some (.error e)) ∨
      (Runs x.run log none ∧ result = none) := by
  rcases Runs.bind_cases h with ⟨outcome, log₁, log₂, rfl, hfirst, hsecond⟩ | hcrash
  · cases outcome with
    | ok a => exact Or.inl ⟨a, log₁, log₂, rfl, hfirst, hsecond⟩
    | error e =>
      obtain ⟨rfl, rfl⟩ := runs_pure_iff.1 hsecond
      rw [List.append_nil]
      exact Or.inr (Or.inl ⟨e, hfirst, rfl⟩)
  · exact Or.inr (Or.inr hcrash)

/-- A run of two actions in sequence that has a value is a run of each with a value. -/
theorem runs_bind_ok {x : Action ε α} {f : α → Action ε β} {b : β}
    (h : Runs (x >>= f).run log (some (.ok b))) :
    ∃ a log₁ log₂, log = log₁ ++ log₂ ∧ Runs x.run log₁ (some (.ok a)) ∧
      Runs (f a).run log₂ (some (.ok b)) := by
  rcases runs_bind_cases h with hvalue | ⟨e, -, hne⟩ | ⟨-, hne⟩
  · exact hvalue
  · cases hne
  · cases hne

theorem runs_pure_iff {a : α} {result : Option (Except ε α)} :
    Runs (pure a : Action ε α).run log result ↔ log = [] ∧ result = some (.ok a) :=
  Program.runs_pure_iff

theorem runs_throw_iff {e : ε} {result : Option (Except ε α)} :
    Runs (throw e : Action ε α).run log result ↔ log = [] ∧ result = some (.error e) :=
  Program.runs_pure_iff

theorem runs_ofExcept_iff {x : Except ε α} {result : Option (Except ε α)} :
    Runs (ofExcept x).run log result ↔ log = [] ∧ result = some x :=
  Program.runs_pure_iff

/-- A run of an action whose errors are renamed is one of the action. -/
theorem runs_mapError_cases {f : ε → δ} {x : Action ε α} {result : Option (Except δ α)}
    (h : Runs (mapError f x).run log result) :
    ∃ r, Runs x.run log r ∧ result = r.map (Except.mapError f) := by
  rcases Runs.bind_cases h with ⟨outcome, log₁, log₂, rfl, hfirst, hsecond⟩ | ⟨hcrash, rfl⟩
  · refine ⟨some outcome, ?_⟩
    cases outcome <;> obtain ⟨rfl, rfl⟩ := Program.runs_pure_iff.1 hsecond <;>
      rw [List.append_nil] <;> exact ⟨hfirst, rfl⟩
  · exact ⟨none, hcrash, rfl⟩

theorem run_outcome_bind (x : Action ε α) (f : Except ε α → Action δ β) :
    (outcome x >>= f).run = x.run.bind fun result => (f result).run :=
  Program.bind_assoc _ _ _

/-- A run that goes on with the outcome of an action is a run of the action and, unless it crashes,
one of what follows. -/
theorem runs_outcome_bind_cases {x : Action ε α} {f : Except ε α → Action δ β}
    {result : Option (Except δ β)} (h : Runs (outcome x >>= f).run log result) :
    (∃ r log₁ log₂, log = log₁ ++ log₂ ∧ Runs x.run log₁ (some r) ∧ Runs (f r).run log₂ result) ∨
      (Runs x.run log none ∧ result = none) := by
  rw [run_outcome_bind] at h
  exact h.bind_cases

theorem runs_outcome_bind {x : Action ε α} {f : Except ε α → Action δ β} {r : Except ε α}
    {log' : Transcript Collaborators} {result : Option (Except δ β)} (hx : Runs x.run log (some r))
    (hf : Runs (f r).run log' result) : Runs (outcome x >>= f).run (log ++ log') result := by
  rw [run_outcome_bind]
  exact hx.bind hf

/-- A run that asks something is one request with its answer. -/
theorem runs_ask_cases {r : Request} {result : Option (Except ε r.Reply)}
    (h : Runs (ask r : Action ε r.Reply).run log result) :
    ∃ reply, log = [⟨r, reply⟩] ∧ result = reply.map .ok := by
  rcases Runs.bind_cases h with ⟨reply, log₁, log₂, rfl, hfirst, hsecond⟩ | ⟨hcrash, rfl⟩
  · obtain ⟨rfl, rfl⟩ := Program.runs_pure_iff.1 hsecond
    rw [List.append_nil]
    exact ⟨some reply, hfirst.request_cases, rfl⟩
  · exact ⟨none, hcrash.request_cases, rfl⟩

theorem runs_node_cases {r : NodeRequest} {result : Option (Except Fault r.Answer)}
    (h : Runs (node r).run log result) : log = [⟨.node r, result⟩] :=
  h.request_cases

theorem mapError_eq_ok_iff {f : ε → δ} {x : Except ε α} {a : α} :
    x.mapError f = .ok a ↔ x = .ok a := by
  cases x with
  | error e => exact ⟨nofun, nofun⟩
  | ok b => exact ⟨fun h => congrArg _ (Except.ok.inj h), fun h => congrArg _ (Except.ok.inj h)⟩

/-- An action that has a value, with its errors renamed. -/
theorem runs_mapError_ok {f : ε → δ} {x : Action ε α} {a : α}
    (h : Runs (mapError f x).run log (some (.ok a))) : Runs x.run log (some (.ok a)) := by
  obtain ⟨r, hr, hresult⟩ := runs_mapError_cases h
  obtain ⟨outcome, rfl, hok⟩ := Option.map_eq_some_iff.1 hresult.symm
  rwa [mapError_eq_ok_iff.1 hok] at hr

/-- A run with a value that goes on with a result which is already there. -/
theorem runs_ofExcept_bind_ok {x : Except ε α} {g : α → Action ε β} {b : β}
    (h : Runs (ofExcept x >>= g).run log (some (.ok b))) :
    ∃ a, x = .ok a ∧ Runs (g a).run log (some (.ok b)) := by
  obtain ⟨a, log₁, log₂, rfl, hfirst, hsecond⟩ := runs_bind_ok h
  obtain ⟨rfl, hresult⟩ := runs_ofExcept_iff.1 hfirst
  exact ⟨a, (Option.some.inj hresult).symm, hsecond⟩

/-- The same, with the errors of the result renamed. -/
theorem runs_ofExcept_mapError_bind_ok {f : ε → δ} {x : Except ε α} {g : α → Action δ β} {b : β}
    (h : Runs (ofExcept (x.mapError f) >>= g).run log (some (.ok b))) :
    ∃ a, x = .ok a ∧ Runs (g a).run log (some (.ok b)) := by
  obtain ⟨a, ha, hrest⟩ := runs_ofExcept_bind_ok h
  exact ⟨a, mapError_eq_ok_iff.1 ha, hrest⟩

/-- A run with a value that asks something first. -/
theorem runs_ask_bind_ok {r : Request} {g : r.Reply → Action ε β} {b : β}
    (h : Runs (ask r >>= g).run log (some (.ok b))) :
    ∃ reply rest, log = ⟨r, some reply⟩ :: rest ∧ Runs (g reply).run rest (some (.ok b)) := by
  obtain ⟨a, log₁, log₂, rfl, hfirst, hsecond⟩ := runs_bind_ok h
  obtain ⟨reply, rfl, hreply⟩ := runs_ask_cases hfirst
  obtain ⟨_, rfl, ha⟩ := Option.map_eq_some_iff.1 hreply.symm
  cases ha
  exact ⟨a, log₂, rfl, hsecond⟩

/-- A run with a value that calls the node first. -/
theorem runs_node_bind_ok {f : Fault → δ} {r : NodeRequest} {g : r.Answer → Action δ β} {b : β}
    (h : Runs (mapError f (node r) >>= g).run log (some (.ok b))) :
    ∃ answer rest, log = ⟨.node r, some (.ok answer)⟩ :: rest ∧
      Runs (g answer).run rest (some (.ok b)) := by
  obtain ⟨a, log₁, log₂, rfl, hfirst, hsecond⟩ := runs_bind_ok h
  rw [runs_node_cases (runs_mapError_ok hfirst)]
  exact ⟨a, log₂, rfl, hsecond⟩

/-- A run that calls the node first goes on with the node's answer, ends with its error, or
crashes. -/
theorem runs_node_bind_replied {f : Fault → δ} {r : NodeRequest} {g : r.Answer → Action δ β}
    {result : Option (Except δ β)} (h : Runs (mapError f (node r) >>= g).run log result) :
    ∃ reply rest, log = ⟨.node r, reply⟩ :: rest ∧
      match reply with
      | some (.ok answer) => Runs (g answer).run rest result
      | some (.error cause) => rest = [] ∧ result = some (.error (f cause))
      | none => rest = [] ∧ result = none := by
  rcases Runs.ask_cases h with ⟨reply, rest, rfl, hrest⟩ | ⟨rfl, rfl⟩
  · refine ⟨some reply, rest, rfl, ?_⟩
    cases reply with
    | ok answer => exact hrest
    | error cause => exact Program.runs_pure_iff.1 hrest
  · exact ⟨none, [], rfl, rfl, rfl⟩

/-- A run that calls the node first goes on with the node's answer, or ends there without a
value. -/
theorem runs_node_bind_cases {f : Fault → δ} {r : NodeRequest} {g : r.Answer → Action δ β}
    {result : Option (Except δ β)} (h : Runs (mapError f (node r) >>= g).run log result) :
    (∃ answer rest, log = ⟨.node r, some (.ok answer)⟩ :: rest ∧ Runs (g answer).run rest result) ∨
      ∃ reply, log = [⟨.node r, reply⟩] ∧ (∀ answer, reply ≠ some (.ok answer)) ∧
        ∀ b, result ≠ some (.ok b) := by
  obtain ⟨reply, rest, rfl, hreply⟩ := runs_node_bind_replied h
  match reply, hreply with
  | some (.ok answer), hrest => exact Or.inl ⟨answer, rest, rfl, hrest⟩
  | some (.error cause), ⟨hrest, hresult⟩ =>
    subst hrest hresult
    exact Or.inr ⟨_, rfl, nofun, nofun⟩
  | none, ⟨hrest, hresult⟩ =>
    subst hrest hresult
    exact Or.inr ⟨_, rfl, nofun, nofun⟩

/-- A run with a value that calls the provider first. -/
theorem runs_provider_bind_ok {f : Fault → δ} {r : ProviderRequest} {g : r.Answer → Action δ β}
    {b : β} (h : Runs (mapError f (provider r) >>= g).run log (some (.ok b))) :
    ∃ answer rest, log = ⟨.provider r, some (.ok answer)⟩ :: rest ∧
      Runs (g answer).run rest (some (.ok b)) := by
  obtain ⟨a, log₁, log₂, rfl, hfirst, hsecond⟩ := runs_bind_ok h
  rw [(runs_mapError_ok hfirst).request_cases]
  exact ⟨a, log₂, rfl, hsecond⟩

/-- What goes on with a result that is already there is run with it. -/
theorem runs_ofExcept_bind {x : Except ε α} {g : α → Action ε β} {a : α}
    {result : Option (Except ε β)} (hx : x = .ok a) (h : Runs (g a).run log result) :
    Runs (ofExcept x >>= g).run log result := by
  subst hx
  exact h

/-- What goes on with an error that is already there ends with it. -/
theorem runs_ofExcept_bind_error {x : Except ε α} {g : α → Action ε β} {e : ε}
    {result : Option (Except ε β)} (hx : x = .error e)
    (h : Runs (ofExcept x >>= g).run log result) : log = [] ∧ result = some (.error e) := by
  subst hx
  exact Program.runs_pure_iff.1 h

/-- What goes on with a value that is already there is run with it, the errors being renamed. -/
theorem runs_ofExcept_mapError_bind {f : ε → δ} {x : Except ε α} {g : α → Action δ β} {a : α}
    {result : Option (Except δ β)} (hx : x = .ok a) (h : Runs (g a).run log result) :
    Runs (ofExcept (x.mapError f) >>= g).run log result :=
  runs_ofExcept_bind (mapError_eq_ok_iff.2 hx) h

/-- Where a known run of the first of two actions ends, the second begins. -/
theorem runs_of_runs_bind {x : Action ε α} {f : α → Action ε β} {a : α}
    {part rest : Transcript Collaborators} {result : Option (Except ε β)}
    (h : Runs (x >>= f).run (part ++ rest) result) (hx : Runs x.run part (some (.ok a))) :
    Runs (f a).run rest result := by
  rcases runs_bind_cases h with
    ⟨a', log₁, log₂, hlog, hfirst, hsecond⟩ | ⟨e, hfirst, -⟩ | ⟨hfirst, -⟩
  · obtain ⟨rfl, hresult⟩ := hx.unique hfirst hlog
    cases hresult
    rwa [List.append_cancel_left hlog]
  · obtain ⟨-, hresult⟩ := hx.unique hfirst (List.append_nil _).symm
    cases hresult
  · obtain ⟨-, hresult⟩ := hx.unique hfirst (List.append_nil _).symm
    cases hresult

theorem asksAtMost_pure (a : α) : AsksAtMost kind 0 (pure a : Action ε α).run :=
  Program.asksAtMost_pure _

theorem asksAtMost_ofExcept (x : Except ε α) : AsksAtMost kind 0 (ofExcept x).run :=
  Program.asksAtMost_pure _

theorem asksAtMost_ask_of_not {r : Request} (hr : kind r = false) :
    AsksAtMost kind 0 (ask r : Action ε r.Reply).run := by
  intro log result h
  obtain ⟨reply, rfl, -⟩ := runs_ask_cases h
  simp [hr]

theorem asksAtMost_bind {m n : Nat} {x : Action ε α} {f : α → Action ε β}
    (hx : AsksAtMost kind m x.run) (hf : ∀ a, AsksAtMost kind n (f a).run) :
    AsksAtMost kind (m + n) (x >>= f).run := by
  refine hx.bind fun outcome => ?_
  cases outcome with
  | ok a => exact hf a
  | error e => exact (Program.asksAtMost_pure _).mono (Nat.zero_le n)

/-- A part in front that asks nothing of the kind does not count. -/
theorem asksAtMost_bind_left {n : Nat} {x : Action ε α} {f : α → Action ε β}
    (hx : AsksAtMost kind 0 x.run) (hf : ∀ a, AsksAtMost kind n (f a).run) :
    AsksAtMost kind n (x >>= f).run :=
  Nat.zero_add n ▸ asksAtMost_bind hx hf

/-- A part behind that asks nothing of the kind does not count. -/
theorem asksAtMost_bind_right {n : Nat} {x : Action ε α} {f : α → Action ε β}
    (hx : AsksAtMost kind n x.run) (hf : ∀ a, AsksAtMost kind 0 (f a).run) :
    AsksAtMost kind n (x >>= f).run :=
  asksAtMost_bind hx hf

theorem asksAtMost_mapError {n : Nat} {f : ε → δ} {x : Action ε α}
    (hx : AsksAtMost kind n x.run) : AsksAtMost kind n (mapError f x).run := by
  intro log result h
  obtain ⟨r, hr, -⟩ := runs_mapError_cases h
  exact hx log r hr

variable {allowed : Request → Prop}

theorem inOrder_pure (a : α) : InOrder allowed (pure a : Action ε α).run :=
  .pure _

theorem inOrder_ofExcept (x : Except ε α) : InOrder allowed (ofExcept x).run :=
  .pure _

theorem inOrder_ask {r : Request} (hr : allowed r) :
    InOrder allowed (ask r : Action ε r.Reply).run :=
  (inOrder_request hr).bind fun _ => .pure _

theorem inOrder_provider {r : ProviderRequest} (hr : allowed (.provider r)) :
    InOrder allowed (provider r).run :=
  inOrder_request hr

theorem inOrder_node {r : NodeRequest} (hr : allowed (.node r)) : InOrder allowed (node r).run :=
  inOrder_request hr

theorem inOrder_watcher {r : WatcherRequest} (hr : allowed (.watcher r)) :
    InOrder allowed (watcher r).run :=
  inOrder_request hr

theorem inOrder_throw (e : ε) : InOrder allowed (throw e : Action ε α).run :=
  .pure _

theorem inOrder_bind {x : Action ε α} {f : α → Action ε β} (hx : InOrder allowed x.run)
    (hf : ∀ a, InOrder allowed (f a).run) : InOrder allowed (x >>= f).run := by
  refine InOrder.bind hx fun outcome => ?_
  cases outcome with
  | ok a => exact hf a
  | error e => exact .pure _

theorem inOrder_mapError {f : ε → δ} {x : Action ε α} (hx : InOrder allowed x.run) :
    InOrder allowed (mapError f x).run := by
  refine InOrder.bind hx fun outcome => ?_
  cases outcome <;> exact .pure _

theorem inOrder_outcome {x : Action ε α} (hx : InOrder allowed x.run) :
    InOrder allowed (outcome x : Action δ (Except ε α)).run :=
  hx.bind fun _ => .pure _

/-! ## How actions fail -/

/-- Every error that a run ends with is of the kind. -/
def FailsOnly (kind : ε → Prop) (x : Action ε α) : Prop :=
  ∀ log e, Runs x.run log (some (.error e)) → kind e

variable {kind : ε → Prop}

theorem failsOnly_pure (a : α) : FailsOnly kind (pure a : Action ε α) := by
  intro log e h
  obtain ⟨-, hresult⟩ := runs_pure_iff.1 h
  cases hresult

theorem failsOnly_throw {e : ε} (he : kind e) : FailsOnly kind (throw e : Action ε α) := by
  intro log e' h
  obtain ⟨-, hresult⟩ := runs_throw_iff.1 h
  cases hresult
  exact he

theorem failsOnly_ask (r : Request) : FailsOnly kind (ask r : Action ε r.Reply) := by
  intro log e h
  obtain ⟨reply, -, hresult⟩ := runs_ask_cases h
  cases reply <;> cases hresult

/-- An error that is there already, or none. -/
theorem failsOnly_ofExcept {x : Except ε α} (hx : ∀ e, x = .error e → kind e) :
    FailsOnly kind (ofExcept x) := by
  intro log e h
  obtain ⟨-, hresult⟩ := runs_ofExcept_iff.1 h
  exact hx e (Option.some.inj hresult).symm

theorem failsOnly_bind {x : Action ε α} {f : α → Action ε β} (hx : FailsOnly kind x)
    (hf : ∀ a, FailsOnly kind (f a)) : FailsOnly kind (x >>= f) := by
  intro log e h
  rcases runs_bind_cases h with ⟨a, -, log', -, -, hrest⟩ | ⟨e', hfirst, hresult⟩ | ⟨-, hresult⟩
  · exact hf a log' e hrest
  · cases hresult
    exact hx log e hfirst
  · cases hresult

/-- Errors seen as those of another layer are of no other kind. -/
theorem failsOnly_mapError {f : δ → ε} {x : Action δ α} (hf : ∀ e, kind (f e)) :
    FailsOnly kind (mapError f x) := by
  intro log e h
  obtain ⟨r, -, hresult⟩ := runs_mapError_cases h
  match r, hresult with
  | some (.error cause), hresult =>
    cases hresult
    exact hf cause

theorem failsOnly_ofExcept_mapError {f : δ → ε} {x : Except δ α} (hf : ∀ e, kind (f e)) :
    FailsOnly kind (ofExcept (x.mapError f)) := by
  refine failsOnly_ofExcept fun e he => ?_
  cases x with
  | error cause =>
    cases he
    exact hf cause
  | ok a => cases he

end Action

/-! ## Sealed calls -/

section Sealed

open Program

variable {ε α : Type} [Wire.Message α] {recipient : PublicKey} {message : α}
  {log : Transcript Collaborators}

/-- A run that seals a message draws a key and a nonce. -/
theorem runs_sealFresh_ok {envelope : Wire.Encrypted}
    (h : Runs (sealFresh recipient message : Action ε Wire.Encrypted).run log
      (some (.ok envelope))) :
    ∃ ephemeral nonce,
      log = [⟨.freshKey, some ephemeral⟩, ⟨.freshBytes Envelope.nonceLength, some nonce⟩] ∧
        envelope = sealMessage recipient ⟨ephemeral, nonce.val⟩ message := by
  obtain ⟨seed, log₁, log₂, rfl, hseed, hend⟩ := Action.runs_bind_ok h
  obtain ⟨rfl, henvelope⟩ := Action.runs_pure_iff.1 hend
  obtain ⟨ephemeral, log₃, rfl, hnonce⟩ := Action.runs_ask_bind_ok hseed
  obtain ⟨nonce, log₄, rfl, hpure⟩ := Action.runs_ask_bind_ok hnonce
  obtain ⟨rfl, hvalue⟩ := Action.runs_pure_iff.1 hpure
  cases hvalue
  cases henvelope
  exact ⟨ephemeral, nonce, rfl, rfl⟩

theorem failsOnly_sealFresh {kind : ε → Prop} :
    Action.FailsOnly kind (sealFresh recipient message : Action ε Wire.Encrypted) := by
  unfold sealFresh freshSeed
  refine Action.failsOnly_bind ?_ fun _ => Action.failsOnly_pure _
  refine Action.failsOnly_bind (Action.failsOnly_ask _) fun _ => ?_
  exact Action.failsOnly_bind (Action.failsOnly_ask _) fun _ => Action.failsOnly_pure _

theorem inOrder_sealFresh {allowed : Request → Prop} (hkey : allowed .freshKey)
    (hbytes : ∀ count, allowed (.freshBytes count)) :
    InOrder allowed (sealFresh recipient message : Action ε Wire.Encrypted).run := by
  unfold sealFresh freshSeed
  refine Action.inOrder_bind ?_ fun _ => Action.inOrder_pure _
  refine Action.inOrder_bind (Action.inOrder_ask hkey) fun _ => ?_
  exact Action.inOrder_bind (Action.inOrder_ask (hbytes _)) fun _ => Action.inOrder_pure _

end Sealed

end LiquidityClient
