import LiquidityClient.Program
import LiquidityClient.Text.Native

/-!
# Files

What a program can ask of a file system, the reasons for a refusal, and the parent of a path. A path
consists of names between slashes; empty names and names `.` inside it mean nothing.
-/

namespace LiquidityClient

/-- Why a file system refuses a request. -/
inductive FileError where
  | notFound
  | alreadyExists
  | isDirectory
  | notDirectory
  /-- A name in a path holds the byte 0. -/
  | zeroInName
  | other (detail : String)
  deriving DecidableEq, Repr

/-- The text of the error. -/
def FileError.message : FileError → String
  | .notFound => "No such file or directory (os error 2)"
  | .alreadyExists => "File exists (os error 17)"
  | .isDirectory => "Is a directory (os error 21)"
  | .notDirectory => "Not a directory (os error 20)"
  | .zeroInName => "file name contained an unexpected NUL byte"
  | .other detail => detail

/-- The requests to a file system. -/
inductive FileRequest where
  /-- Is there a file or a directory? -/
  | probe (path : NativeText)
  | read (path : NativeText)
  /-- Makes a directory and those above it, as far as they are missing. -/
  | createDirectories (path : NativeText)
  /-- Makes or replaces a file. -/
  | write (path : NativeText) (contents : Bytes)
  deriving DecidableEq

/-- What a file system answers. -/
abbrev FileRequest.Answer : FileRequest → Type
  | .probe _ => Bool
  | .read _ => Except FileError Bytes
  | .createDirectories _ => Except FileError Unit
  | .write _ _ => Except FileError Unit

/-- A file system as an interface. -/
def Files : Interface where
  Request := FileRequest
  Reply := FileRequest.Answer

namespace Files

/-- Is there a file or a directory? -/
def probe (path : NativeText) : Program Files Bool :=
  Program.request (I := Files) (.probe path)

/-- Reads a file. -/
def read (path : NativeText) : Program Files (Except FileError Bytes) :=
  Program.request (I := Files) (.read path)

/-- Makes a directory and those above it. -/
def createDirectories (path : NativeText) : Program Files (Except FileError Unit) :=
  Program.request (I := Files) (.createDirectories path)

/-- Makes or replaces a file. -/
def write (path : NativeText) (contents : Bytes) : Program Files (Except FileError Unit) :=
  Program.request (I := Files) (.write path contents)

/-- What is wrong with a file that is no UTF-8 text. -/
def notText : String := "stream did not contain valid UTF-8"

/-- Reads a text file; an error is given by its text. -/
def readText (path : NativeText) : Program Files (Except String String) := do
  match ← read path with
  | .error e => return .error e.message
  | .ok contents =>
    match Utf8.decode? contents with
    | none => return .error notText
    | some text => return .ok text

end Files

/-! ## Paths -/

namespace FilePath

/-- The byte between two names. -/
def slash : UInt8 := 0x2F

/-- Does the path start at the root? -/
def isAbsolute (path : NativeText) : Bool :=
  path.bytes.head? = some slash

/-- The names in a path, with those that mean nothing. -/
def names (path : NativeText) : List NativeText :=
  (path.bytes.splitOn slash).map NativeText.mk

/-- The path of names. -/
def join (names : List NativeText) : NativeText :=
  ⟨[slash].intercalate (names.map NativeText.bytes)⟩

/-- Is there nothing in the name? -/
def isEmpty (name : NativeText) : Bool :=
  name.bytes.isEmpty

/-- Does the name stand for the directory in which it stands? -/
def isDot (name : NativeText) : Bool :=
  name.bytes = [0x2E]

/-- Does the name stand for the directory above the one in which it stands? -/
def isDotDot (name : NativeText) : Bool :=
  name.bytes = [0x2E, 0x2E]

/-- Does the name mean nothing? -/
def isIdle (name : NativeText) : Bool :=
  isEmpty name || isDot name

/-- The names less those at the end that mean nothing. A `.` in front of a relative path stays. -/
def trim (absolute : Bool) : List NativeText → List NativeText
  | [] => []
  | name :: rest =>
    let rest := (rest.reverse.dropWhile isIdle).reverse
    if rest.isEmpty ∧ (isEmpty name ∨ (absolute ∧ isDot name)) then [] else name :: rest

/-- The path of the directory in which the path lies, if it names something in a directory. -/
def parent? (path : NativeText) : Option NativeText :=
  let absolute := isAbsolute path
  let body := trim absolute (if absolute then (names path).drop 1 else names path)
  if body.isEmpty then none
  else
    let parents := join (trim absolute body.dropLast)
    some (if absolute then ⟨slash :: parents.bytes⟩ else parents)

end FilePath

end LiquidityClient
