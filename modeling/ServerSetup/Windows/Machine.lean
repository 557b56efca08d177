import ServerSetup.Rehearsal.FilterTable
import ServerSetup.Windows.Registry

/-!
# A Windows machine in memory

One system behind the calls of Windows: a registry, a service manager and the drives as plain
values. The machine can be told to refuse calls at given points, in general or for one key or
service, and a service's states can be scripted. It notes every call that changes something, before
it may be refused.

The machine is simpler than Windows in three ways. It compares names exactly, it deletes a service
at once, and it does not look at access rights. A key exists for itself or because of a key below
it, so keys above one come and go with it.
-/

namespace ServerSetup.Windows

/-- What the service manager of the machine knows of a service. -/
structure KnownService where
  state : RunState
  /-- What it was made with, if that is known. -/
  info : Option ServiceInfo := none
  description : Option String := none
deriving DecidableEq

/-- A call that changes the machine. -/
inductive Call
  | setValue (key name value : String)
  | deleteKey (key : String)
  | createService (info : ServiceInfo)
  | start (service : String)
  | stop (service : String)
  | delete (service : String)
  | setDescription (service text : String)

/-- The values of a registry key. -/
abbrev Values := List (String × String)

/-- The state of the machine. -/
structure Machine where
  /-- The registry keys that hold values or were made for themselves, by their full paths. -/
  registry : List (String × Values) := []
  services : List (String × KnownService) := []
  /-- Scripted states of services; none stands for a query that fails. -/
  scripts : List (String × List (Option RunState)) := []
  /-- The types of the logical drives, by letter. -/
  drives : List (Char × Nat) := []
  /-- The points that refuse calls. -/
  failing : List String := []
  calls : List Call := []
  filterTable : Rehearsal.FilterTable := {}

/-- A call as a call of the machine. -/
def onMachine {ε α : Type} (op : Machine → Except ε α × Machine) :
    ExceptT ε (StateM (World Machine)) α := fun w =>
  let (r, m) := op w.host
  (r, { w with host := m })

/-- Whether `key` is `above` or lies below it. -/
def isAtOrBelow (above key : String) : Bool :=
  key == above || (above ++ "\\").toList.isPrefixOf key.toList

namespace Machine

variable (m : Machine)

/-- The machine with a call that was noted. -/
def noting (call : Call) : Machine := { m with calls := m.calls ++ [call] }

/-- Whether the machine refuses calls at a point, for a key or a service. -/
def refuses (point argument : String) : Bool :=
  m.failing.contains point || m.failing.contains (point ++ ":" ++ argument)

/-! ### Its registry -/

/-- Whether a key exists: it is there for itself or because of a key below it. -/
def hasKey (key : String) : Bool := m.registry.any (isAtOrBelow key ·.1)

/-- The values of a key. -/
def valuesOf (key : String) : Values := (m.registry.lookup key).getD []

/-- What a key holds; none if there is no such key. -/
def content (key : String) : Option Values := if m.hasKey key then some (m.valuesOf key) else none

/-- The machine with a value of a key. -/
def withValue (key name value : String) : Machine :=
  let values := (m.valuesOf key).filter (·.1 != name) ++ [(name, value)]
  { m with registry := m.registry.filter (·.1 != key) ++ [(key, values)] }

/-- The machine without a key and all below it. -/
def withoutKey (key : String) : Machine :=
  { m with registry := m.registry.filter fun k => ! isAtOrBelow key k.1 }

/-- The names of the keys directly below a key, in order. -/
def subkeyNames (key : String) : List String :=
  let below := m.registry.filterMap fun k =>
    if isAtOrBelow key k.1 && k.1 != key then
      some (String.ofList ((k.1.toList.drop (key.length + 1)).takeWhile (· != '\\')))
    else none
  below.eraseDups.mergeSort (· ≤ ·)

/-- Opens a key. -/
def openKey (key : String) (forWriting : Bool) : Except IoKind String × Machine :=
  if m.refuses "open" key || (forWriting && m.refuses "open_write" key) then
    (.error .permissionDenied, m)
  else if m.hasKey key then (.ok key, m)
  else (.error .notFound, m)

/-- The names of the keys directly below an open key. -/
def subkeys (key : String) : Except IoKind (List String) × Machine :=
  if m.refuses "enum" key then (.error .permissionDenied, m) else (.ok (m.subkeyNames key), m)

/-- Reads a value of an open key. -/
def value (key name : String) : Except IoKind String × Machine :=
  if m.refuses "get" key then (.error .permissionDenied, m)
  else match (m.valuesOf key).lookup name with
    | some value => (.ok value, m)
    | none => (.error .notFound, m)

/-- Sets a value of an open key. -/
def setValue (key name value : String) : Except IoKind Unit × Machine :=
  let m' := m.noting (.setValue key name value)
  if m.refuses "set" key then (.error .permissionDenied, m')
  else (.ok (), m'.withValue key name value)

/-- Deletes a key with all below it. -/
def deleteKey (key : String) : Except IoKind Unit × Machine :=
  let m' := m.noting (.deleteKey key)
  if m.refuses "delete_key" key then (.error .permissionDenied, m')
  else if m.hasKey key then (.ok (), m'.withoutKey key)
  else (.error .notFound, m')

/-! ### Its service manager -/

/-- What is answered where a call of the service manager is refused. -/
def refusal : ServiceError := .winapi 5 .permissionDenied

/-- Opens the service manager. -/
def connect : Except ServiceError Unit × Machine :=
  (if m.failing.contains "manager" then .error refusal else .ok (), m)

/-- Opens a service. -/
def openService (service : String) : Except ServiceError String × Machine :=
  if m.refuses "open_service" service then (.error refusal, m)
  else if (m.services.lookup service).isSome then (.ok service, m)
  else (.error (.winapi ServiceError.missingCode .notFound), m)

/-- The machine with a change of what is known of a service. -/
def modifyService (service : String) (f : KnownService → KnownService) : Machine :=
  { m with services := m.services.map fun (name, s) => (name, if name = service then f s else s) }

/-- The machine with a service in a state. -/
def setState (service : String) (state : RunState) : Machine :=
  m.modifyService service fun s => { s with state := state }

/-- The state of an open service. A scripted state comes first; otherwise a pending state settles
after it was seen. -/
def queryStatus (service : String) : Except ServiceError RunState × Machine :=
  if m.refuses "query" service then (.error refusal, m)
  else match m.scripts.lookup service with
    | some (answer :: rest) =>
      (match answer with
        | some state => .ok state
        | none => .error refusal,
        { m with scripts := m.scripts.filter (·.1 != service) ++ [(service, rest)] })
    | _ =>
      match m.services.lookup service with
      | some known => (.ok known.state, m.setState service known.state.settled)
      | none => (.error refusal, m)

/-- A change by the service manager. It is noted even if it is refused. -/
def changing (call : Call) (point argument : String) (f : Machine → Machine) :
    Except ServiceError Unit × Machine :=
  let m' := m.noting call
  if m.refuses point argument then (.error refusal, m') else (.ok (), f m')

/-- Asks an open service to start. -/
def start (service : String) : Except ServiceError Unit × Machine :=
  m.changing (.start service) "start" service (·.setState service .startPending)

/-- Asks an open service to stop. -/
def stop (service : String) : Except ServiceError Unit × Machine :=
  m.changing (.stop service) "stop" service (·.setState service .stopPending)

/-- Describes an open service. -/
def setDescription (service text : String) : Except ServiceError Unit × Machine :=
  m.changing (.setDescription service text) "set_description" service
    (·.modifyService service fun s => { s with description := some text })

/-- The machine without a service and its record. -/
def withoutService (service : String) : Machine :=
  { m.withoutKey (recordKey service) with services := m.services.filter (·.1 != service) }

/-- Deletes an open service with its record. -/
def delete (service : String) : Except ServiceError Unit × Machine :=
  m.changing (.delete service) "delete" service (·.withoutService service)

/-- The machine with a service that was just made, which has a record. -/
def withService (info : ServiceInfo) : Machine :=
  { m.withValue (recordKey info.name) "ImagePath" (executableRecord info.executable) with
    services := m.services ++ [(info.name, { state := .stopped, info := some info })] }

/-- The number of the error that a service exists. -/
def existsCode : Nat := 1073

/-- Makes a service, with a record that names its executable, and opens it. -/
def createService (info : ServiceInfo) : Except ServiceError String × Machine :=
  let m' := m.noting (.createService info)
  if m.refuses "create_service" info.name then (.error refusal, m')
  else if (m.services.lookup info.name).isSome then
    (.error (.winapi existsCode .alreadyExists), m')
  else (.ok info.name, m'.withService info)

/-! ### The machine as a system -/

/-- The registry of the machine. Open keys are their full paths. -/
def registryCalls : Registry Machine where
  Key := String
  openKey := fun root path forWriting => onMachine (·.openKey (root.key path) forWriting)
  subkeys := fun key => onMachine (·.subkeys key)
  value := fun key name => onMachine (·.value key name)
  setValue := fun key name value => onMachine (·.setValue key name value)
  deleteTree := fun key name => onMachine (·.deleteKey (key ++ "\\" ++ name))

/-- The service manager of the machine. Services that are open are their names. -/
def serviceCalls : ServiceApi Machine where
  Manager := Unit
  Service := String
  connect := fun _ => onMachine (·.connect)
  closeManager := fun _ => pure ()
  openService := fun _ service _ => onMachine (·.openService service)
  createService := fun _ info _ => onMachine (·.createService info)
  closeService := fun _ => pure ()
  queryStatus := fun service => onMachine (·.queryStatus service)
  start := fun service => onMachine (·.start service)
  stop := fun service => onMachine (·.stop service)
  delete := fun service => onMachine (·.delete service)
  setDescription := fun service text => onMachine (·.setDescription service text)

/-- The machine as a system. -/
def system : System Machine where
  registry := registryCalls
  services := serviceCalls
  logicalDrives := fun w => (w.host.drives.map Prod.fst, w)
  driveType := fun directory w =>
    ((directory.toList.head?.bind fun c => w.host.drives.lookup c).getD 0, w)

end Machine

end ServerSetup.Windows
