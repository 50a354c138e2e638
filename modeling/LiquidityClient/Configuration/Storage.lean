import LiquidityClient.Configuration
import LiquidityClient.Error
import LiquidityClient.Files

/-!
# Configuration files

Loading falls back to the defaults if there is no file; a file that is there has to be readable.
Saving makes the directories that are missing, once it is known what is to be written.
-/

namespace LiquidityClient

/-- Reads a file that the settings may name. -/
def readNamed : Option NativeText → Program Files (Except Fault (Option Bytes))
  | none => return .ok none
  | some path => do
    match ← Files.read path with
    | .ok contents => return .ok (some contents)
    | .error e => return .error (.configuration ("read " ++ path.display ++ ": " ++ e.message))

namespace Configuration

/-- The configuration in the text of a file. -/
def ofText (path : NativeText) (text : String) : Except Fault Configuration :=
  match parse? text with
  | some configuration => .ok configuration
  | none => .error (.configuration ("parse " ++ path.display ++ ": not a configuration"))

/-- The configuration in a file, or the defaults if there is no file. -/
def load (path : NativeText) : Program Files (Except Fault Configuration) := do
  if ← Files.probe path then
    match ← Files.readText path with
    | .error reason => return .error (.configuration ("read " ++ path.display ++ ": " ++ reason))
    | .ok text => return ofText path text
  else return .ok {}

/-- Makes the directory in which a path lies. -/
def createParent (path : NativeText) : Program Files (Except Fault Unit) := do
  match FilePath.parent? path with
  | none => return .ok ()
  | some parent =>
    match ← Files.createDirectories parent with
    | .error e => return .error (.configuration ("create " ++ parent.display ++ ": " ++ e.message))
    | .ok () => return .ok ()

/-- Writes a text to a file. -/
def writeText (path : NativeText) (text : String) : Program Files (Except Fault Unit) := do
  match ← Files.write path (Utf8.encode text) with
  | .error e => return .error (.configuration ("write " ++ path.display ++ ": " ++ e.message))
  | .ok () => return .ok ()

/-- Writes a configuration to a file. -/
def save (configuration : Configuration) (path : NativeText) :
    Program Files (Except Fault Unit) := do
  match configuration.render with
  | .error e => return .error (.configuration ("serialize: " ++ e.message))
  | .ok text =>
    match ← createParent path with
    | .error cause => return .error cause
    | .ok () => writeText path text

end Configuration

end LiquidityClient
