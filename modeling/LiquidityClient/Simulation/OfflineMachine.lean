import LiquidityClient.Machine
import LiquidityClient.Simulation.FileSystem
import LiquidityClient.Simulation.World

/-!
# A machine off the network

A machine with files in memory, a clock that stands still and reproducible randomness, which reaches
no service.
-/

namespace LiquidityClient.Simulation

/-- A machine off the network. -/
structure OfflineMachine where
  files : FileSystem := {}
  /-- The time in seconds since the epoch. -/
  now : Int64 := 0
  /-- How much randomness is used up. -/
  drawn : Nat := 0

namespace OfflineMachine

/-- Why a web service is not reached. -/
def unreached (address : String) : String :=
  "error sending request for url (" ++ address ++ ")"

/-- The answer of the machine to a request. -/
def answer : (request : MachineRequest) → OfflineMachine → Option request.Answer × OfflineMachine
  | .file request, machine =>
    let (reply, files) := machine.files.answer request
    (reply, { machine with files })
  | .exchange address _ _, machine => (some (.error (unreached address)), machine)
  | .call _ _ _, machine => (some (.error (.unavailable "tcp connect error")), machine)
  | .now, machine => (some machine.now, machine)
  | .pause _, machine => (some (), machine)
  | .freshKey, machine =>
    (some (freshKey machine.drawn), { machine with drawn := machine.drawn + 1 })
  | .freshBytes count, machine =>
    (some (entropyOf count machine.drawn), { machine with drawn := machine.drawn + 1 })

/-- The result and the final machine of a program. -/
def run {α : Type} (machine : OfflineMachine) (program : Program Machine α) :
    Option α × OfflineMachine :=
  Program.run (I := Machine) answer program machine

/-- The outcome of a call of the node. -/
def callNode (machine : OfflineMachine) (node : NodeConnection) (request : NodeRequest) :
    Option (Except Fault request.Answer) :=
  (machine.run (node.call request)).1

/-- The outcome of a call of the provider. -/
def callProvider (machine : OfflineMachine) (provider : ProviderConnection)
    (request : ProviderRequest) : Option (Except Fault request.Answer) :=
  (machine.run (provider.call request)).1

end OfflineMachine

end LiquidityClient.Simulation
