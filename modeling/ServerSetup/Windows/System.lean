import ServerSetup.Host
import ServerSetup.RunState

/-!
# The calls of Windows

What the adapters ask of Windows, as records of calls: the registry (`Registry`), the service
manager (`ServiceApi`) and the logical drives. All of them are parameters. What a call does to the
world is left to the system that stands behind it, so the adapters can be run on a machine in memory
and reasoned about for any system.

* A call of the registry fails with the kind of an input or output error (`IoKind`), a call of the
  service manager with a `ServiceError`. The adapters look at two of these errors: at `notFound`,
  and at the number `ServiceError.missingCode` of a service that does not exist.
* The service manager and its services are used through handles, which are asked for with access
  rights and are closed again. Closing is a call of its own, since a service that was marked for
  deletion goes only when its handles are closed. Open registry keys are closed without a trace, so
  the closing of a key is left out.
* Only what the adapters use is here. Of the settings of a new service, these are its names, its
  executable and its account; the others are the same for each: a process of its own that is started
  by hand.
-/

namespace ServerSetup.Windows

/-! ### The registry -/

/-- The two roots of the registry. -/
inductive Root
  | localMachine
  | currentUser
deriving DecidableEq

/-- The name of a root. -/
def Root.name : Root → String
  | localMachine => "HKLM"
  | currentUser => "HKCU"

/-- The full path of a key. -/
def Root.key (root : Root) (path : String) : String := root.name ++ "\\" ++ path

/-- Calls of the registry. -/
abbrev RegistryM (η : Type) := ExceptT IoKind (StateM (World η))

/-- The registry. -/
structure Registry (η : Type) where
  /-- Keys that are open. -/
  Key : Type
  /-- Opens a key by its path below a root, for reading or for reading and writing. -/
  openKey : Root → String → Bool → RegistryM η Key
  /-- The names of the keys directly below a key. -/
  subkeys : Key → RegistryM η (List String)
  /-- The value of a key with a name, as text. -/
  value : Key → String → RegistryM η String
  /-- Sets the value of a key with a name. -/
  setValue : Key → String → String → RegistryM η Unit
  /-- Deletes a key directly below another one, with all below it. -/
  deleteTree : Key → String → RegistryM η Unit

/-! ### The service manager -/

/-- What is asked of the service manager for a new service. -/
structure ServiceInfo where
  name : String
  displayName : String
  executable : String
  /-- The account and its password; without it the service runs under the system account. -/
  account : Option (String × String)
deriving DecidableEq

/-- Why a call of the service manager fails. -/
inductive ServiceError
  /-- The system refuses, with the number of its error. -/
  | winapi (code : Nat) (kind : IoKind)
  /-- What was given cannot be handed on to the system. -/
  | unusable (text : String)
deriving DecidableEq

namespace ServiceError

/-- The number of the error that a service does not exist. -/
def missingCode : Nat := 1060

/-- Whether an error says that a service does not exist. -/
def isMissing : ServiceError → Bool
  | winapi code _ => code == missingCode
  | unusable _ => false

/-- An error as a chain of reasons. -/
def fault : ServiceError → Fault
  | winapi _ kind => (Fault.io kind).whileDoing "IO error in winapi call"
  | unusable text => .said text

end ServiceError

/-- What a handle of the service manager is to be used for. -/
inductive ManagerAccess
  | connect
  | createService
deriving DecidableEq

/-- What a handle of a service is to be used for. -/
inductive ServiceAccess
  | queryStatus
  | start
  | stop
  | delete
  | changeConfig
deriving DecidableEq

/-- Calls of the service manager. -/
abbrev ServiceM (η : Type) := ExceptT ServiceError (StateM (World η))

/-- The service manager. -/
structure ServiceApi (η : Type) where
  /-- Handles of the service manager. -/
  Manager : Type
  /-- Handles of services. -/
  Service : Type
  /-- Opens the service manager of this machine. -/
  connect : List ManagerAccess → ServiceM η Manager
  closeManager : Manager → StateM (World η) Unit
  /-- Opens a service by its name. -/
  openService : Manager → String → List ServiceAccess → ServiceM η Service
  /-- Makes a service and opens it. -/
  createService : Manager → ServiceInfo → List ServiceAccess → ServiceM η Service
  closeService : Service → StateM (World η) Unit
  queryStatus : Service → ServiceM η RunState
  /-- Asks for a start and does not wait for it. -/
  start : Service → ServiceM η Unit
  /-- Asks for a stop and does not wait for it. -/
  stop : Service → ServiceM η Unit
  /-- Marks a service for deletion. -/
  delete : Service → ServiceM η Unit
  setDescription : Service → String → ServiceM η Unit

/-! ### The system -/

/-- A Windows system. -/
structure System (η : Type) where
  registry : Registry η
  services : ServiceApi η
  /-- The letters of the logical drives; none if they cannot be told. -/
  logicalDrives : StateM (World η) (List Char)
  /-- The type of the drive with a root directory. -/
  driveType : String → StateM (World η) Nat

/-! ### Calls as calls of the host -/

section

variable {η ε α : Type}

/-- A call of the system, whose error becomes a fault of what was attempted. -/
def doing (fault : ε → Fault) (attempt : String) (op : ExceptT ε (StateM (World η)) α) :
    HostM η α := fun w =>
  match op w with
  | (.ok a, w) => (.ok a, w)
  | (.error e, w) => (.error ((fault e).whileDoing attempt), w)

/-- A call that gives nothing if what it asks for is missing. -/
def ifFound (op : RegistryM η α) : RegistryM η (Option α) := fun w =>
  match op w with
  | (.ok a, w) => (.ok (some a), w)
  | (.error .notFound, w) => (.ok none, w)
  | (.error e, w) => (.error e, w)

/-- A call whose error is passed over. -/
def ignoring (op : ExceptT ε (StateM (World η)) Unit) : HostM η Unit := fun w => (.ok (), (op w).2)

/-- The use of a handle, which is closed however its use ends. -/
def releasing (close : StateM (World η) Unit) (op : HostM η α) : HostM η α := fun w =>
  let (r, w) := op w
  (r, (close w).2)

end

end ServerSetup.Windows
