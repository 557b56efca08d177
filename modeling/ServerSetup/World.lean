import ServerSetup.Environment
import ServerSetup.Catalog
import ServerSetup.Rollback.Store

/-!
# The world of a session

All that a session and the system below it may change: the disk, the clock, the catalog, the
operations that are under way, and the host with everything that belongs to it. Calls of the host
act on the whole world, so a call may run other operations of the same session before it returns.
-/

namespace ServerSetup

/-- The services whose registration is being changed, each with the direction of the change. -/
abbrev Phases := List (String × Transition)

/-- The state that a session and its host share. -/
structure World (η : Type) where
  disk : Disk
  environment : Environment
  catalog : Catalog := {}
  phases : Phases := []
  /-- Whether the restart under way was asked to stop. -/
  cancelled : Bool := false
  /-- Nanoseconds since the clock was started. -/
  clock : Nat := 0
  /-- How many identifiers have been drawn. -/
  drawn : Nat := 0
  /-- The moment with which new records are stamped. -/
  now : Moment := .epoch
  host : η

/-- Calls of the host. -/
abbrev HostM (η : Type) := ExceptT Fault (StateM (World η))

/-- How an operation may end without a result. -/
inductive Halt
  /-- It fails. -/
  | failed (error : OperationError)
  /-- A point in time is needed that the clock cannot express. -/
  | clockRange
  /-- It waits longer than the given number of queries. -/
  | outOfPatience

/-- Operations of the tool. -/
abbrev SetupM (η : Type) := ExceptT Halt (StateM (World η))

namespace SetupM

variable {η α : Type}

/-- Fails with an error. -/
def fail (e : OperationError) : SetupM η α := throw (.failed e)

/-- A call of the host, whose fault becomes an error. -/
def call (wrap : Fault → OperationError) (op : HostM η α) : SetupM η α := fun w =>
  match op w with
  | (.ok a, w) => (.ok a, w)
  | (.error f, w) => (.error (.failed (wrap f)), w)

/-- An operation on the disk. -/
def store (op : StoreM α) : SetupM η α := fun w =>
  match op w.disk with
  | (.ok a, disk) => (.ok a, { w with disk := disk })
  | (.error e, disk) => (.error (.failed e), { w with disk := disk })

/-- An operation on the catalog. -/
def catalog (op : Catalog → α × Catalog) : SetupM η α := fun w =>
  let (a, catalog) := op w.catalog
  (.ok a, { w with catalog := catalog })

/-- A result that may be an error. -/
def ofExcept : Except OperationError α → SetupM η α
  | .ok a => pure a
  | .error e => fail e

/-- Runs an operation for its effects: an error of it is passed over. -/
def attempt (op : SetupM η α) : SetupM η Unit := fun w =>
  match op w with
  | (.error (.failed _), w) => (.ok (), w)
  | (.error halt, w) => (.error halt, w)
  | (.ok _, w) => (.ok (), w)

end SetupM

namespace World

variable {η α : Type}

/-- Draws a fresh identifier. -/
def draw : StateM (World η) Identifier := fun w =>
  (.fresh w.drawn, { w with drawn := w.drawn + 1 })

/-- An operation on the catalog. -/
def onCatalog (op : Catalog → α × Catalog) : StateM (World η) α := fun w =>
  let (a, catalog) := op w.catalog
  (a, { w with catalog := catalog })

end World

end ServerSetup
