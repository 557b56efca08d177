import ServerSetup.Rehearsal.FilterTable

/-!
# A host in memory

A host whose services, volumes and filters are values, for trying out what a session would do. It
notes every call that changes something, it can be told to fail at given points, and a service's
states can be scripted. While it registers or unregisters a service it can be interrupted.
-/

namespace ServerSetup.Rehearsal

/-- A call that changes the host. -/
inductive Action
  | setRecord (service record : String)
  | start (service : String)
  | stop (service : String)
  | install (request : RegistrationRequest)
  | uninstall (service : String) (state : Rollback.State)
  | put (entry : StoredFilter)
  | remove (name : String)
  | putLoadOrder (order : String)
  | commit

/-- A scripted answer to a query of a service's state. -/
inductive Answer
  | state (state : RunState)
  | unregistered
  | failure

/-- A request on which a cancellation is asked for. -/
inductive Request
  | start
  | stop
deriving DecidableEq

/-- The host's own state; `ν` is what interruptions leave behind. -/
structure Machine (ν : Type) where
  volumes : List String := []
  recordedHome : Option String := none
  /-- The services with their records. -/
  services : List (String × Option String) := []
  states : List (String × RunState) := []
  scripts : List (String × List Answer) := []
  filterTable : FilterTable := {}
  /-- Whether pending states never end. -/
  stuck : Bool := false
  /-- The points at which calls fail. -/
  failing : List String := []
  cancelOn : Option Request := none
  /-- The changing calls so far. -/
  actions : List Action := []
  /-- How many services were registered. -/
  registered : Nat := 0
  notes : ν

/-- Sets the value of a key, in place of its earlier one. -/
def assign {α : Type} (key : String) (value : α) (xs : List (String × α)) : List (String × α) :=
  xs.filter (·.1 != key) ++ [(key, value)]

/-- Forgets a key. -/
def forget {α : Type} (key : String) (xs : List (String × α)) : List (String × α) :=
  xs.filter (·.1 != key)

variable {ν : Type}

/-- The machine as it is now. -/
def machine : HostM (Machine ν) (Machine ν) := return (← get).host

/-- Changes the machine. -/
def change (f : Machine ν → Machine ν) : HostM (Machine ν) Unit :=
  modify fun w => { w with host := f w.host }

/-- Fails if the machine is to fail at a point. -/
def point (name : String) : HostM (Machine ν) Unit := do
  if (← machine).failing.contains name then throw (.said ("fake failure: " ++ name))

/-- Notes a changing call. -/
def note (action : Action) : HostM (Machine ν) Unit :=
  change fun m => { m with actions := m.actions ++ [action] }

/-- Takes the next scripted answer for a service. -/
def nextAnswer (service : String) : HostM (Machine ν) (Option Answer) := do
  match (← machine).scripts.lookup service with
  | some (answer :: rest) =>
    change fun m => { m with scripts := assign service rest m.scripts }
    return some answer
  | _ => return none

/-- The state of a service, after which a pending state settles. -/
def observe (service : String) : HostM (Machine ν) (Option RunState) := do
  let m ← machine
  match m.states.lookup service with
  | none => return none
  | some state =>
    if !m.stuck then change fun m => { m with states := assign service state.settled m.states }
    return some state

/-- Answers a query of a service's state. -/
def status (service : String) : HostM (Machine ν) (Option RunState) := do
  point "status"
  match ← nextAnswer service with
  | some (.state state) => return some state
  | some .unregistered => return none
  | some .failure => throw (.said "fake failure: status")
  | none => observe service

/-- Gives a registered service a state, and asks for a cancellation if that was wanted. -/
def request (which : Request) (service : String) (state : RunState) : HostM (Machine ν) Unit := do
  if ((← machine).states.lookup service).isSome then
    change fun m => { m with states := assign service state m.states }
  if (← machine).cancelOn = some which then modify fun w => { w with cancelled := true }

/-- Registers a service. -/
def install (interrupt : StateM (World (Machine ν)) Unit) (r : RegistrationRequest) :
    HostM (Machine ν) Rollback.State := do
  note (.install r)
  interrupt
  point "install"
  if !(← machine).failing.contains "no_record" then
    let record := executableRecord r.executable
    change fun m => { m with services := assign r.serviceName (some record) m.services }
  change fun m => { m with
    states := assign r.serviceName .stopped m.states
    registered := m.registered + 1 }
  return .new (.ofNat (← machine).registered) .epoch r.serviceName r.account

/-- Unregisters a service. -/
def uninstall (interrupt : StateM (World (Machine ν)) Unit) (service : String)
    (state : Rollback.State) : HostM (Machine ν) Unit := do
  note (.uninstall service state)
  interrupt
  point "uninstall"
  change fun m => { m with
    services := forget service m.services
    states := forget service m.states }

/-- The filters of the machine. -/
def filterStore : FilterStore (Machine ν) where
  filters := do
    point "entries"
    return (← machine).filterTable.filters
  put entry := do
    note (.put entry)
    point "put_entry"
    change fun m => { m with filterTable := m.filterTable.put entry }
  remove name := do
    note (.remove name)
    point "remove_entry"
    change fun m => { m with filterTable := m.filterTable.remove name }
  loadOrder := do
    point "load_order"
    return (← machine).filterTable.loadOrder
  putLoadOrder order := do
    note (.putLoadOrder order)
    point "set_load_order"
    change fun m => { m with filterTable := { m.filterTable with loadOrder := order } }
  commit := do
    note .commit
    point "commit"
    change fun m => { m with filterTable := m.filterTable.commit }
  scriptsDirectory := do
    point "scripts_dir"
    return (← machine).filterTable.scriptsDirectory

/-- The machine as a host, interrupted by `interrupt` in the midst of registering or unregistering a
service. -/
def host (ownLocation : Option String) (interrupt : StateM (World (Machine ν)) Unit) :
    Host (Machine ν) where
  volumes := do
    point "volumes"
    return (← machine).volumes
  recordedHome := do
    point "current_home"
    return (← machine).recordedHome
  records :=
    { list := do
        point "list_services"
        return ((← machine).services.map Prod.fst).mergeSort (· ≤ ·)
      record := fun service => do
        point "image_path"
        point ("image_path:" ++ service)
        return ((← machine).services.lookup service).join
      setRecord := fun service record => do
        note (.setRecord service record)
        point "set_image_path"
        change fun m => { m with services := assign service (some record) m.services } }
  control :=
    { status := status
      start := fun service => do
        note (.start service)
        point "start"
        request .start service .startPending
      stop := fun service => do
        note (.stop service)
        point "stop"
        request .stop service .stopPending }
  registrar := { install := install interrupt, uninstall := uninstall interrupt }
  filterStore := filterStore
  ownLocation := ownLocation

end ServerSetup.Rehearsal
