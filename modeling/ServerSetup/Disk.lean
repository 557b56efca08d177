import ServerSetup.Disk.Walk

/-!
# The disk

A file tree with a working directory, and the operations on files by path. An operation fails where
the tree does not allow it. It may also be refused, whatever the tree holds, as a full or failing
disk refuses it; what was done before a refusal stays done.
-/

namespace ServerSetup

/-- One change of the tree, or one reading of it. -/
inductive FileAction
  | makeDirectory (place : Location)
  | create (place : Location)
  | write (place : Location)
  | flush (place : Location)
  | rename (source target : Location)
  | remove (place : Location)
  | read (place : Location)
deriving DecidableEq

/-- A file tree as a process sees it. -/
structure Disk where
  tree : FileTree
  workDirectory : Location
  /-- The actions that the disk refuses, each with the error it gives. -/
  refuses : FileAction → Option IoKind := fun _ => none

/-- Operations on a disk. -/
abbrev DiskM := ExceptT IoKind (StateM Disk)

namespace Disk

/-- The longest path in bytes. -/
def maxPathBytes : Nat := 4095

/-- The location of a path whose names are walked as `steps`. -/
def locateSteps (d : Disk) (follow : Bool) (path : String) (steps : List String) :
    Except IoKind Location :=
  if path.toList.contains '\x00' then .error .invalidInput
  else if path.isEmpty then .error .notFound
  else if maxPathBytes < path.utf8ByteSize then .error .nameTooLong
  else
    d.tree.walk follow FileTree.maxLinks (if Path.isAbsolute path then [] else d.workDirectory)
      steps

/-- The location that a path leads to; nothing need be there. -/
def locate (d : Disk) (path : String) : Except IoKind Location :=
  d.locateSteps true path (Path.steps path)

/-- The location of what a path names, without following a link there. -/
def locateSelf (d : Disk) (path : String) : Except IoKind Location :=
  d.locateSteps false path (Path.names path)

/-- What a path leads to. -/
def find? (d : Disk) (path : String) : Option (Location × Entry) :=
  match d.locate path with
  | .ok place => (d.tree.get? place).map (place, ·)
  | .error _ => none

/-- Whether a path leads to anything. -/
def pathExists (d : Disk) (path : String) : Bool := (d.find? path).isSome

/-- Whether a path leads to a directory. -/
def isDirectory (d : Disk) (path : String) : Bool :=
  match d.find? path with
  | some (_, .directory) => true
  | _ => false

/-- Whether a path leads to a file. -/
def isFile (d : Disk) (path : String) : Bool :=
  match d.find? path with
  | some (_, .file _) => true
  | _ => false

/-- The names in a directory, or an error if it cannot be listed. -/
def list (d : Disk) (path : String) : Except IoKind (List String) :=
  match d.locate path with
  | .error kind => .error kind
  | .ok place =>
    match d.tree.get? place with
    | none => .error .notFound
    | some .directory =>
      match d.refuses (.read place) with
      | some kind => .error kind
      | none => .ok (d.tree.children place)
    | some _ => .error .notADirectory

/-- The content of a file. -/
def read (d : Disk) (path : String) : Except IoKind (List UInt8) :=
  match d.locate path with
  | .error kind => .error kind
  | .ok place =>
    match d.tree.get? place with
    | none => .error .notFound
    | some (.file content) =>
      match d.refuses (.read place) with
      | some kind => .error kind
      | none => .ok content
    | some _ => .error .isADirectory

/-- Changes the tree, unless the disk refuses the action. -/
def act (action : FileAction) (change : FileTree → FileTree) : DiskM Unit := do
  let d ← get
  match d.refuses action with
  | some kind => throw kind
  | none => set { d with tree := change d.tree }

/-- Makes a directory where nothing is yet. -/
def makeDirectory (path : String) : DiskM Unit := do
  let d ← get
  let place ← d.locateSelf path
  if (d.tree.get? place).isSome then throw .alreadyExists
  act (.makeDirectory place) (·.put place .directory)

/-- Makes a directory, which may be there already. -/
def ensureOneDirectory (path : String) : DiskM Unit := do
  try makeDirectory path
  catch kind => if (← get).isDirectory path then pure () else throw kind

/-- The paths above a path, the longest first: at the end the first name or the root. -/
def pathsAbove (path : String) : List String :=
  let names := (Path.names path).filter (· ≠ ".")
  let start := if Path.isAbsolute path then "/" else ""
  let above := (List.range (names.length - 1)).map fun n =>
    start ++ String.intercalate "/" (names.take (n + 1))
  above.reverse ++ (if Path.isAbsolute path && !names.isEmpty then ["/"] else [])

/-- Makes the nearest directories of a list that are missing, until one can be made or is there. The
list goes upwards. -/
def ensureUpwards : List String → DiskM Unit
  | [] => pure ()
  | path :: above => do
    let made ← try makeDirectory path; pure true
      catch kind =>
        if kind = .notFound then pure false
        else if (← get).isDirectory path then pure true
        else throw kind
    if made then pure ()
    else
      ensureUpwards above
      ensureOneDirectory path

/-- Makes a directory together with the directories above it that are missing. For the empty path
there is nothing to do. -/
def ensureDirectory (path : String) : DiskM Unit :=
  if path.isEmpty then pure () else ensureUpwards (path :: pathsAbove path)

/-- Creates an empty file, or empties the one that is there; the location of the file. -/
def create (path : String) : DiskM Location := do
  let d ← get
  if Path.endsWithSlash path then
    let _ ← d.locateSelf path
    throw .isADirectory
  let place ← d.locate path
  if d.tree.isDirectory place then throw .isADirectory
  act (.create place) (·.put place (.file []))
  return place

/-- Writes a file, in place of its content if it is there, and brings it to the disk. -/
def write (path : String) (content : List UInt8) : DiskM Unit := do
  let place ← create path
  act (.write place) (·.put place (.file content))
  act (.flush place) id

/-- Removes a file or a link, but no directory. -/
def remove (path : String) : DiskM Unit := do
  let d ← get
  let place ← d.locateSelf path
  match d.tree.get? place with
  | none => throw .notFound
  | some .directory => throw .isADirectory
  | some _ =>
    if Path.endsWithSlash path then throw .notADirectory
    act (.remove place) (·.erase place)

/-- Moves a file or a link to another path, in place of a file that is there. -/
def rename (source target : String) : DiskM Unit := do
  let d ← get
  let place ← d.locateSelf source
  match d.tree.get? place with
  | none => throw .notFound
  | some .directory => throw .isADirectory
  | some entry =>
    let goal ← d.locateSelf target
    if goal = place then return
    if d.tree.isDirectory goal then throw .isADirectory
    act (.rename place goal) fun t => (t.erase place).put goal entry

/-- Copies a file. The target is emptied before the source is read: a file copied onto itself ends
up empty. -/
def copy (source target : String) : DiskM Unit := do
  let d ← get
  let place ← d.locate source
  match d.tree.get? place with
  | none => throw .notFound
  | some (.file _) =>
    match d.refuses (.read place) with
    | some kind => throw kind
    | none =>
      let goal ← create target
      let content := match (← get).tree.get? place with
        | some (.file content) => content
        | _ => []
      act (.write goal) (·.put goal (.file content))
  | some _ => throw .invalidInput

end Disk

end ServerSetup
