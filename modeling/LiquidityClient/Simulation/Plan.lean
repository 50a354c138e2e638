import LiquidityClient.Error

/-!
# Plans of scripted collaborators

A scripted collaborator behaves in its usual way, unless its plan says otherwise for the next call
of a method : the call can fail, crash the task that made it, or be answered differently.
-/

namespace LiquidityClient.Simulation

/-- What a plan says of one call. -/
inductive Turn (α : Type) where
  | usual
  | fail (cause : Fault)
  | crash
  | change (c : α)

/-- The turns of the next calls, by method. -/
abbrev Plan (α : Type) := List (String × List (Turn α))

namespace Plan

variable {α : Type}

/-- The turn of the next call of a method. -/
def next (plan : Plan α) (method : String) : Turn α :=
  match plan.lookup method with
  | some (turn :: _) => turn
  | _ => .usual

/-- The plan after a call of a method. -/
def advance (plan : Plan α) (method : String) : Plan α :=
  plan.map fun (name, turns) => (name, if name = method then turns.drop 1 else turns)

end Plan

/-- The change of a turn that lets its call happen; `usual` stands for the change that changes
nothing. -/
def Turn.change? {α : Type} (usual : α) : Turn α → Except (Option Fault) α
  | .usual => .ok usual
  | .change c => .ok c
  | .fail cause => .error (some cause)
  | .crash => .error none

/-- The answer of a call by its turn, and the state after it : a call that happens goes by `act`,
one that fails or crashes leaves the state alone. -/
def Turn.answer {α β σ : Type} (turn : Turn α) (usual : α) (act : α → σ → Except Fault β × σ)
    (state : σ) : Option (Except Fault β) × σ :=
  match turn.change? usual with
  | .ok c => let (reply, state) := act c state; (some reply, state)
  | .error (some cause) => (some (.error cause), state)
  | .error none => (none, state)

end LiquidityClient.Simulation
