import ServerSetup.Settings
import ServerSetup.ServiceManager.Phase
import ServerSetup.Host

/-!
# The life of a service

Registering a service, updating its record, unregistering it, starting and stopping it. A
registration is not taken back if writing the record fails afterwards, and a state for the rollback
that cannot be written does not make it fail. Starting and stopping wait for the state that they ask
for.
-/

namespace ServerSetup

/-- The phase of a service as it is shown. -/
inductive ServiceStanding
  | unregistered
  | transition (phase : Transition)
  | installed (state : RunState)
deriving DecidableEq

/-- What is needed to manage services. -/
structure ServiceManager (η : Type) where
  records : ServiceRecords η
  control : ServiceControl η
  registrar : ServiceRegistrar η
  store : Rollback.Store
  rollback : RollbackSettings
  waiting : WaitSettings
  launcher : String
  /-- How many queries a wait makes before it is given up without a result. -/
  patience : Nat

/-- The executable at the front of a service record. -/
def executablePart (record : String) : Except OperationError String :=
  match CommandLine.executablePart? record with
  | some executable => .ok executable
  | none => .error (.malformedRecord (.noExecutable record))

/-- The launcher in a home. -/
def launcherBelow (home launcher : String) : String :=
  String.ofList (Text.dropEndWhile Path.isSeparator home.toList) ++ "\\" ++ launcher

/-- What is asked of the installer for a service. -/
def ServiceProfile.registrationRequest (d : ServiceProfile) (launcher : String) :
    RegistrationRequest where
  serviceName := d.name
  displayName := d.name
  executable := (ServiceProfile.ifNonEmpty d.executable).getD (launcherBelow d.home launcher)
  account := match ServiceProfile.ifNonEmpty d.runAsUser with
    | some user => .user user ((d.password.map Password.secret).getD "")
    | none => .localSystem

namespace ServiceManager

variable {η : Type} (m : ServiceManager η)

/-- Writes the arguments of a service behind the executable in its record. -/
def enterRecord (d : ServiceProfile) : SetupM η Unit := do
  match ← SetupM.call (.recordChange d.name) (m.records.record d.name) with
  | none => SetupM.fail (.serviceNotFound d.name)
  | some current =>
    let executable ← SetupM.ofExcept (executablePart current)
    SetupM.call (.recordChange d.name)
      (m.records.setRecord d.name (executable ++ " " ++ d.argumentLine))

/-- Registers a service with the installer, and keeps the state for a rollback. -/
def register (d : ServiceProfile) : SetupM η Unit := do
  let state ← SetupM.call (.transaction d.name)
    (m.registrar.install (d.registrationRequest m.launcher))
  if m.rollback.keepStates then SetupM.attempt (SetupM.store (m.store.save state))

/-- Registers a service if it is new, and writes its record. -/
def install (d : ServiceProfile) (isNew : Bool) : SetupM η Unit :=
  SetupM.inPhase d.name .installing do
    if isNew then m.register d
    m.enterRecord d

/-- The state by which a service is unregistered: the one that was kept, or else the default. -/
def stateForRollback (service : String) : SetupM η Rollback.State := do
  let kept ← if m.rollback.readStates then
      SetupM.ofExcept (m.store.load service (← get).disk)
    else pure none
  match kept with
  | some state => pure state
  | none =>
    if m.rollback.standIn then
      let id ← @World.draw η
      return .synthetic id (← get).now service
    else SetupM.fail (.stateNotFound service)

/-- Unregisters a service and forgets its state. -/
def uninstall (service : String) : SetupM η Unit :=
  SetupM.inPhase service .uninstalling do
    let state ← m.stateForRollback service
    SetupM.call (.transaction service) (m.registrar.uninstall service state)
    SetupM.attempt (SetupM.store (m.store.remove service))

/-- The phase of a service: the operation under way, or else what its control says. -/
def standing (service : String) : SetupM η ServiceStanding := do
  match (← get).phases.of? service with
  | some phase => return .transition phase
  | none =>
    match ← SetupM.call (.serviceControl service) (m.control.status service) with
    | some state => return .installed state
    | none => return .unregistered

/-- The state of a registered service. -/
def stateOf (service : String) : SetupM η RunState := do
  match ← SetupM.call (.serviceControl service) (m.control.status service) with
  | some state => pure state
  | none => SetupM.fail (.serviceNotFound service)

/-- The latest point in time that the clock can express, in whole seconds. -/
def maxClockSecs : Nat := 0x7fffffffffffffff

/-- The end of a wait that starts now, if waits are limited. -/
def deadline : SetupM η (Option Nat) := do
  match m.waiting.timeoutSecs with
  | none => return none
  | some timeout =>
    let stop := (← get).clock + timeout.toNat * 1000000000
    if maxClockSecs < stop / 1000000000 then throw .clockRange
    return some stop

/-- Lets the pause between two queries pass. -/
def pause : SetupM η Unit :=
  modify fun w => { w with clock := w.clock + m.waiting.pauseMs * 1000000 }

/-- Queries a service until it is in a state or the time is up, at most a number of times. -/
def poll (service : String) (target : RunState) (deadline : Option Nat) : Nat → SetupM η Unit
  | 0 => throw .outOfPatience
  | queries + 1 => do
    if (← m.stateOf service) = target then return
    if deadline.any (· ≤ (← get).clock) then SetupM.fail (.transitionTimeout service target)
    m.pause
    poll service target deadline queries

/-- Waits until a service is in a state. -/
def awaitState (service : String) (target : RunState) : SetupM η Unit := do
  let deadline ← m.deadline
  m.poll service target deadline m.patience

/-- Asks for a start. -/
def requestStart (service : String) : SetupM η Unit :=
  SetupM.call (.serviceControl service) (m.control.start service)

/-- Asks for a stop. -/
def requestStop (service : String) : SetupM η Unit :=
  SetupM.call (.serviceControl service) (m.control.stop service)

/-- Starts a service and waits until it runs. A service that is being stopped is started when it has
stopped. -/
def start (service : String) : SetupM η Unit := do
  match ← m.stateOf service with
  | .running => return
  | .startPending => m.awaitState service .running
  | .stopPending =>
    m.awaitState service .stopped
    m.requestStart service
    m.awaitState service .running
  | _ =>
    m.requestStart service
    m.awaitState service .running

/-- Stops a service and waits until it has stopped. A service that is being started is stopped when
it runs. -/
def stop (service : String) : SetupM η Unit := do
  match ← m.stateOf service with
  | .stopped => return
  | .stopPending => m.awaitState service .stopped
  | .startPending =>
    m.awaitState service .running
    m.requestStop service
    m.awaitState service .stopped
  | _ =>
    m.requestStop service
    m.awaitState service .stopped

/-- Fails if a cancellation was asked for. -/
def checkCancelled (service : String) : SetupM η Unit := do
  if (← get).cancelled then SetupM.fail (.cancelled service)

/-- Stops a service and starts it, unless a cancellation is asked for before either. -/
def restartUnlessCancelled (service : String) : SetupM η Unit := do
  checkCancelled service
  m.stop service
  checkCancelled service
  m.start service

/-- Stops a service and starts it. -/
def restart (service : String) : SetupM η Unit := do
  m.stop service
  m.start service

end ServiceManager

end ServerSetup
