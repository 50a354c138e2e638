import LiquidityClient.Cli.Run
import LiquidityClient.Simulation.OfflineMachine
import Std.Time.DateTime

/-!
# The command line program

Runs `Cli.run` on the real machine : its files, its clock and its randomness. No network services
are reached.
-/

namespace LiquidityClient.Main

/-- The reason in an error of the file system. -/
def fileError : IO.Error → FileError
  | .noFileOrDirectory _ _ _ => .notFound
  | .alreadyExists _ _ _ => .alreadyExists
  | .inappropriateType _ _ _ => .notDirectory
  | e => .other (toString e)

/-- The result of an action on files. -/
def tried {α : Type} (action : IO α) : IO (Except FileError α) := do
  try
    return .ok (← action)
  catch e => return .error (fileError e)

/-- The result of an action on the file at a path. A path that is no text cannot be reached from
here. -/
def triedAt {α : Type} (path : NativeText) (action : String → IO α) : IO (Except FileError α) :=
  match path.text? with
  | some text => tried (action text)
  | none => return .error (.other "a path that is no text")

/-- The answer of the file system. -/
def answerFile : (request : FileRequest) → IO request.Answer
  | .probe path => do
    match ← triedAt path fun text => IO.FS.Handle.mk text .read with
    | .ok _ => return true
    | .error _ => return false
  | .read path => triedAt path fun text => do return (← IO.FS.readBinFile text).data.toList
  | .createDirectories path =>
    if FilePath.isEmpty path then return .ok ()
    else triedAt path fun text => IO.FS.createDirAll text
  | .write path contents => triedAt path fun text => IO.FS.writeBinFile text ⟨contents.toArray⟩

/-- A random secret key; random bytes that are none are drawn again, at most `attempts` times. -/
def freshKey : Nat → IO SecretKey
  | 0 => return Simulation.unitKey
  | attempts + 1 => do
    match SecretKey.ofBytes? (← IO.getRandomBytes 32).data.toList with
    | some key => return key
    | none => freshKey attempts

/-- The answer of the machine. -/
def answer : (request : MachineRequest) → IO request.Answer
  | .file request => answerFile request
  | .exchange address _ _ => return .error (Simulation.OfflineMachine.unreached address)
  | .call _ _ _ => return .error (.unavailable "tcp connect error")
  | .now => do return .ofInt (← Std.Time.Timestamp.now).toSecondsSinceUnixEpoch.val
  | .pause ms => IO.sleep (UInt32.ofNat ms)
  | .freshKey => freshKey 100
  | .freshBytes count => do
    let bytes := (← IO.getRandomBytes (USize.ofNat count)).data.toList
    return ⟨Bytes.ofNatBE count (Bytes.toNatBE bytes), Bytes.length_ofNatBE _ _⟩

/-- Runs a program on the machine. -/
def perform : {α : Type} → Program Machine α → IO α
  | _, .pure result => return result
  | _, .ask request next => do perform (next (← answer request))
  | _, .both first second next => do
    let b ← perform first
    let c ← perform second
    perform (next (some b) (some c))
  | _, .await next => perform next

end LiquidityClient.Main

/-- Runs the command line program. -/
def main (line : List String) : IO UInt32 := do
  let exit ← LiquidityClient.Main.perform (LiquidityClient.Cli.run line)
  (← IO.getStdout).putStr exit.output
  (← IO.getStderr).putStr exit.errors
  return exit.code.toUInt32
