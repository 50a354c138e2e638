import LiquidityClient.Files

/-!
# A file system in memory

Directories and files by their position, the list of names from the root. `FileSystem.locate`
follows a path name by name; every name but the last has to be a directory's.
-/

namespace LiquidityClient.Simulation

/-- What stands at a position. -/
inductive FileEntry where
  | directory
  | file (contents : Bytes)

/-- A file system with a working directory. -/
structure FileSystem where
  entries : List (List NativeText × FileEntry) := []
  workingDirectory : List NativeText := []

namespace FileSystem

/-- What stands at a position, if anything does. The root and the working directory are there. -/
def entryAt? (files : FileSystem) (position : List NativeText) : Option FileEntry :=
  if position.isEmpty ∨ position = files.workingDirectory then some .directory
  else files.entries.lookup position

/-- The file system in which an entry stands at a position. -/
def put (files : FileSystem) (position : List NativeText) (entry : FileEntry) : FileSystem :=
  { files with entries := (position, entry) :: files.entries.filter fun e => e.1 ≠ position }

/-- The position that a name leads to. -/
def step (position : List NativeText) (name : NativeText) : List NativeText :=
  if FilePath.isIdle name then position
  else if FilePath.isDotDot name then position.dropLast
  else position ++ [name]

/-- The position that names lead to, starting at a position. -/
def follow (files : FileSystem) (position : List NativeText) : List NativeText →
    Except FileError (List NativeText)
  | [] => .ok position
  | name :: rest =>
    match files.entryAt? position with
    | some .directory => follow files (step position name) rest
    | some (.file _) => .error .notDirectory
    | none => .error .notFound

/-- The position where a path starts. -/
def start (files : FileSystem) (path : NativeText) : List NativeText :=
  if FilePath.isAbsolute path then [] else files.workingDirectory

/-- The position that a path leads to. -/
def locate (files : FileSystem) (path : NativeText) : Except FileError (List NativeText) :=
  if path.bytes.any (· = 0) then .error .zeroInName
  else if FilePath.isEmpty path then .error .notFound
  else files.follow (files.start path) (FilePath.names path)

/-- The file system in which names lead through directories, those that are missing made. -/
def makeDirectories (files : FileSystem) (position : List NativeText) :
    List NativeText → Except FileError FileSystem
  | [] => .ok files
  | name :: rest =>
    let position := step position name
    match files.entryAt? position with
    | some .directory => files.makeDirectories position rest
    | some (.file _) => .error (if rest.isEmpty then .alreadyExists else .notDirectory)
    | none => (files.put position .directory).makeDirectories position rest

/-- The answer to `FileRequest.read`. -/
def read (files : FileSystem) (path : NativeText) : Except FileError Bytes := do
  match files.entryAt? (← files.locate path) with
  | some (.file contents) => return contents
  | some .directory => throw .isDirectory
  | none => throw .notFound

/-- The file system in which a file stands at the end of a path. -/
def write (files : FileSystem) (path : NativeText) (contents : Bytes) :
    Except FileError FileSystem := do
  -- A path that ends with a slash can only name a directory.
  if path.bytes.getLast? = some FilePath.slash then throw .isDirectory
  match files.entryAt? (← files.locate path) with
  | some .directory => throw .isDirectory
  | _ => return files.put (← files.locate path) (.file contents)

/-- The answer of the file system to a request. -/
def answer (files : FileSystem) : (request : FileRequest) → Option request.Answer × FileSystem
  | .probe path =>
    let found : Bool :=
      match files.locate path with
      | .ok position => (files.entryAt? position).isSome
      | .error _ => false
    (some found, files)
  | .read path => (some (files.read path), files)
  | .createDirectories path =>
    let made : Except FileError FileSystem :=
      if path.bytes.any (· = 0) then .error .zeroInName
      else files.makeDirectories (files.start path) (FilePath.names path)
    match made with
    | .ok files => (some (.ok ()), files)
    | .error e => (some (.error e), files)
  | .write path contents =>
    match files.write path contents with
    | .ok files => (some (.ok ()), files)
    | .error e => (some (.error e), files)

/-- The result and the final file system of a program over files. -/
def run {α : Type} (program : Program Files α) (files : FileSystem) : Option α × FileSystem :=
  Program.run (I := Files) (fun request files => answer files request) program files

/-- The file system with files of these names in the working directory. -/
def withFiles (files : FileSystem) : List (String × Bytes) → FileSystem
  | [] => files
  | (path, contents) :: rest =>
    let parents := (FilePath.names path).dropLast
    let made := (files.makeDirectories (files.start path) parents).toOption.getD files
    ((made.write path contents).toOption.getD made).withFiles rest

end FileSystem

end LiquidityClient.Simulation
