import ServerSetup.Windows.Registry

/-!
# The service manager

Querying, starting and stopping services, and their registration as a transaction: if a service that
was just made cannot be described it is deleted again. A service that was there before its
registration is not deleted, and neither is an event source that was there before.

A service is stopped before it is deleted, and the stop is waited for, but not for ever: a deletion
takes effect when the service has stopped. The wait looks at the clock before each query. It is
given a number of queries as well, so that it ends on a clock that stands still; `serviceRegistrar`
gives as many as fit into the time.
-/

namespace ServerSetup.Windows

variable {η α : Type}

/-! ### Handles -/

section

variable (services : ServiceApi η)

/-- Uses the service manager, with some rights. -/
def withManager (rights : List ManagerAccess) (use : services.Manager → HostM η α) : HostM η α := do
  let manager ← doing ServiceError.fault "打开 ServiceManager 失败" (services.connect rights)
  releasing (services.closeManager manager) (use manager)

/-- Uses a service that is open. -/
def withService (service : services.Service) (use : HostM η α) : HostM η α :=
  releasing (services.closeService service) use

variable {services}

/-- Opens a service, if it is there. -/
def lookUp (manager : services.Manager) (name : String) (rights : List ServiceAccess) :
    HostM η (Option services.Service) := fun w =>
  match services.openService manager name rights w with
  | (.ok service, w) => (.ok (some service), w)
  | (.error e, w) =>
    if e.isMissing then (.ok none, w) else (.error (e.fault.whileDoing ("打开服务失败: " ++ name)), w)

/-- Opens a service that has to be there. -/
def requireService (manager : services.Manager) (name : String) (rights : List ServiceAccess) :
    HostM η services.Service := do
  match ← lookUp manager name rights with
  | some service => return service
  | none => throw (.said ("服务不存在: " ++ name))

/-- Whether a service is there. -/
def isThere (manager : services.Manager) (name : String) : HostM η Bool := do
  match ← lookUp manager name [.queryStatus] with
  | some service => withService services service (return true)
  | none => return false

end

/-! ### Control -/

/-- The control of services. -/
def serviceControl (services : ServiceApi η) : ServiceControl η where
  status := fun name => withManager services [.connect] fun manager => do
    match ← lookUp manager name [.queryStatus] with
    | none => return none
    | some service => withService services service do
      return some (← doing ServiceError.fault ("查询服务状态失败: " ++ name)
        (services.queryStatus service))
  start := fun name => withManager services [.connect] fun manager => do
    let service ← requireService manager name [.start]
    withService services service
      (doing ServiceError.fault ("启动服务失败: " ++ name) (services.start service))
  stop := fun name => withManager services [.connect] fun manager => do
    let service ← requireService manager name [.stop]
    withService services service
      (doing ServiceError.fault ("停止服务失败: " ++ name) (services.stop service))

/-! ### Registration -/

/-- The service that a registration asks for. -/
def infoOf (r : RegistrationRequest) : ServiceInfo where
  name := r.serviceName
  displayName := r.displayName
  executable := r.executable
  account := match r.account with
    | .localSystem => none
    | .user name password => some (name, password)

/-- How a service is described. -/
def descriptionOf (r : RegistrationRequest) : String := "Resin (" ++ r.displayName ++ ")"

/-- What is taken for the answer to whether a service has an event source: if it cannot be told,
that there is none. -/
def observed (registry : Registry η) (name : String) : HostM η Bool := fun w =>
  match hasEventSource registry name w with
  | (.ok found, w) => (.ok found, w)
  | (.error _, w) => (.ok false, w)

/-- Makes a service that is not there, and opens it. With it comes whether its event source was
there before. -/
def make (sys : System η) (manager : sys.services.Manager) (r : RegistrationRequest) :
    HostM η (Bool × sys.services.Service) := do
  if ← isThere manager r.serviceName then throw (.said ("服务已存在: " ++ r.serviceName))
  let existed ← observed sys.registry r.serviceName
  let service ← doing ServiceError.fault ("创建服务失败: " ++ r.serviceName)
    (sys.services.createService manager (infoOf r) [.changeConfig, .delete])
  return (existed, service)

/-- Describes a service that was made, or deletes it again. -/
def describe (services : ServiceApi η) (service : services.Service) (r : RegistrationRequest) :
    HostM η Unit := fun w =>
  match services.setDescription service (descriptionOf r) w with
  | (.ok (), w) => (.ok (), w)
  | (.error e, w) =>
    (.error (e.fault.whileDoing ("设置服务描述失败，已回滚: " ++ r.serviceName)),
      (services.delete service w).2)

/-- The state that a registration hands back. -/
def newState (r : RegistrationRequest) (existed : Bool) : HostM η Rollback.State := do
  let id ← @World.draw η
  let state := Rollback.State.new id (← get).now r.serviceName r.account
  return { state with eventLogExisted := existed }

/-- Registers a service. -/
def install (sys : System η) (r : RegistrationRequest) : HostM η Rollback.State :=
  withManager sys.services [.connect, .createService] fun manager => do
    let (existed, service) ← make sys manager r
    withService sys.services service do
      describe sys.services service r
      newState r existed

/-! ### Unregistration -/

/-- The longest wait for a service that is about to be deleted, in milliseconds. -/
def stopTimeoutMs : Nat := 30000

/-- Queries a service until it has stopped or the time is over, and at most a number of times. A
query that fails ends it. -/
def awaitStopped (services : ServiceApi η) (service : services.Service) (pauseMs start : Nat) :
    Nat → ServiceM η Unit
  | 0 => return
  | queries + 1 => do
    if stopTimeoutMs * 1000000 ≤ (← get).clock - start then return
    if (← services.queryStatus service) = .stopped then return
    modify fun w => { w with clock := w.clock + pauseMs * 1000000 }
    awaitStopped services service pauseMs start queries

/-- Stops a service that is about to be deleted and waits for it. -/
def settleBeforeDelete (services : ServiceApi η) (service : services.Service)
    (pauseMs queries : Nat) : HostM η Unit :=
  ignoring do
    if (← services.queryStatus service) = .stopped then return
    services.stop service
    awaitStopped services service pauseMs (← get).clock queries

/-- Stops and deletes a service, if it is there. -/
def removeService (services : ServiceApi η) (manager : services.Manager) (pauseMs queries : Nat)
    (name : String) : HostM η Unit := do
  match ← lookUp manager name [.queryStatus, .stop, .delete] with
  | some service => withService services service do
    settleBeforeDelete services service pauseMs queries
    doing ServiceError.fault ("删除服务失败: " ++ name) (services.delete service)
  | none => return

/-- Unregisters a service. -/
def uninstall (sys : System η) (pauseMs queries : Nat) (name : String) (state : Rollback.State) :
    HostM η Unit := do
  if state.alreadyRegistered then return
  withManager sys.services [.connect] fun manager => do
    removeService sys.services manager pauseMs queries name
    if !state.eventLogExisted then ignoring (dropEventSource sys.registry name)

/-- The registration of services, which looks every `pauseMs` whether a service has stopped. -/
def serviceRegistrar (sys : System η) (pauseMs : Nat) : ServiceRegistrar η where
  install := install sys
  uninstall := uninstall sys pauseMs ((stopTimeoutMs + pauseMs - 1) / max pauseMs 1)

end ServerSetup.Windows
