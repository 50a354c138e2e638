/-!
# Programs that ask

A program is a tree : it ends with a result, asks its collaborators something and goes on with the
answer, or runs two tasks side by side and goes on when both have ended. The second task can wait
for the end of the first; `Program.run` evaluates a program against collaborators with a state, the
first task before the second. A collaborator that gives no answer makes the task that asked crash.
`Program.interpret` answers the requests of a program by programs over other collaborators.
-/

namespace LiquidityClient

/-- What a program can ask, and what answers a request has. -/
structure Interface where
  Request : Type
  Reply : Request → Type

/-- A program with a result of type `α`. -/
inductive Program (I : Interface) : Type → Type 1 where
  | pure {α : Type} (result : α) : Program I α
  | ask {α : Type} (request : I.Request) (next : I.Reply request → Program I α) : Program I α
  /-- Two tasks side by side. A task that crashes has no result. -/
  | both {α β γ : Type} (first : Program I β) (second : Program I γ)
      (next : Option β → Option γ → Program I α) : Program I α
  /-- Waits, in the second of two tasks, for the end of the first. -/
  | await {α : Type} (next : Program I α) : Program I α

namespace Program

variable {I : Interface} {α β : Type}

/-- The program that goes on with the result of another one. -/
def bind : Program I α → (α → Program I β) → Program I β
  | .pure result, f => f result
  | .ask request next, f => .ask request fun reply => (next reply).bind f
  | .both first second next, f => .both first second fun b c => (next b c).bind f
  | .await next, f => .await (next.bind f)

instance : Monad (Program I) where
  pure := Program.pure
  bind := Program.bind

/-- Asks, and ends with the answer. -/
def request (r : I.Request) : Program I (I.Reply r) :=
  .ask r .pure

/-- The result and the final state of a program whose collaborators answer by `answer`; there is no
result if they give no answer. -/
def run {σ : Type} (answer : (r : I.Request) → σ → Option (I.Reply r) × σ) :
    {α : Type} → Program I α → σ → Option α × σ
  | _, .pure result, state => (some result, state)
  | _, .ask r next, state =>
    match answer r state with
    | (some reply, state) => (next reply).run answer state
    | (none, state) => (none, state)
  | _, .both first second next, state =>
    let (b, state) := first.run answer state
    let (c, state) := second.run answer state
    (next b c).run answer state
  | _, .await next, state => next.run answer state

/-- The program that puts a program over other collaborators in the place of each request. -/
def interpret {J : Interface} (f : (r : I.Request) → Program J (I.Reply r)) :
    {α : Type} → Program I α → Program J α
  | _, .pure result => .pure result
  | _, .ask r next => (f r).bind fun reply => (next reply).interpret f
  | _, .both first second next =>
    .both (first.interpret f) (second.interpret f) fun b c => (next b c).interpret f
  | _, .await next => .await (next.interpret f)

theorem bind_pure (p : Program I α) : p.bind .pure = p := by
  induction p with
  | pure => rfl
  | ask _ _ ih => simp [bind, ih]
  | both _ _ _ _ _ ih => simp [bind, ih]
  | await _ ih => simp [bind, ih]

theorem bind_assoc {γ : Type} (p : Program I α) (f : α → Program I β) (g : β → Program I γ) :
    (p.bind f).bind g = p.bind fun a => (f a).bind g := by
  induction p with
  | pure => rfl
  | ask _ _ ih => simp [bind, ih]
  | both _ _ _ _ _ ih => simp [bind, ih]
  | await _ ih => simp [bind, ih]

instance : LawfulMonad (Program I) :=
  LawfulMonad.mk' _ bind_pure (fun _ _ => rfl) bind_assoc

end Program

end LiquidityClient
