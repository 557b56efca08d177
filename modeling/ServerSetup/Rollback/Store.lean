import ServerSetup.Disk
import ServerSetup.OperationError
import ServerSetup.Path.Join
import ServerSetup.Rollback.Document

/-!
# The store of rollback states

Rollback states are kept in one directory, each in a file named for its service. A state is written
to a temporary file first, which then takes the place of the file, so that a failure on the way
leaves the earlier state as it was.
-/

namespace ServerSetup

/-- The store in a directory. -/
structure Rollback.Store where
  directory : String

/-- Operations on a disk that fail with an error of the tool. -/
abbrev StoreM := ExceptT OperationError (StateM Disk)

namespace Rollback.Store

/-- The file of a service. -/
def path (store : Rollback.Store) (service : String) : String :=
  Path.join store.directory (service ++ ".srv")

/-- The temporary file beside a file: its last extension goes before the new one is added. A name
that is nothing but an extension counts as a name without one. -/
def temporaryPath (path : String) : String :=
  let name := (path.toList.reverse.takeWhile (· != '/')).reverse
  if name = ".srv".toList then path ++ ".srv.tmp" else path ++ ".tmp"

/-- A file operation, whose failure is reported with a path. -/
def onFile {α : Type} (path : String) (op : DiskM α) : StoreM α := fun disk =>
  match op disk with
  | (.ok a, disk) => (.ok a, disk)
  | (.error kind, disk) => (.error (.io path kind), disk)

/-- Removes a file if that is possible. -/
def discard (path : String) : StoreM Unit := fun disk => (.ok (), (Disk.remove path disk).2)

/-- Writes a state; the path of its file. Nothing of a failed attempt stays but directories. -/
def save (store : Rollback.Store) (state : Rollback.State) : StoreM String := do
  onFile store.directory (Disk.ensureDirectory store.directory)
  let path := store.path state.serviceName
  let temporary := temporaryPath path
  try onFile temporary (Disk.write temporary (Text.bytesOf state.document))
  catch e =>
    discard temporary
    throw e
  try onFile path (Disk.rename temporary path)
  catch e =>
    discard temporary
    throw e
  return path

/-- What a file holds. A file that is missing holds no state. -/
def load (store : Rollback.Store) (service : String) (disk : Disk) :
    Except OperationError (Option Rollback.State) :=
  let path := store.path service
  match disk.read path with
  | .error .notFound => .ok none
  | .error kind => .error (.io path kind)
  | .ok bytes =>
    match Rollback.State.ofBytes? bytes with
    | none => .error (.malformedRecord (.unreadableState path))
    | some state =>
      if Rollback.State.currentVersion < state.schemaVersion then
        .error (.malformedRecord (.laterFormat path state.schemaVersion.toNat))
      else .ok (some state)

/-- Removes the file of a service; whether there was one. -/
def remove (store : Rollback.Store) (service : String) : StoreM Bool := fun disk =>
  let path := store.path service
  match Disk.remove path disk with
  | (.ok (), disk) => (.ok true, disk)
  | (.error .notFound, disk) => (.ok false, disk)
  | (.error kind, disk) => (.error (.io path kind), disk)

end Rollback.Store

end ServerSetup
