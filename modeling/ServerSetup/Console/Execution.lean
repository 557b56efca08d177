import ServerSetup.Console.Command
import ServerSetup.Console.Summary
import ServerSetup.Session

/-!
# Execution of commands

What each command does with a session, and the lines that it prints on the way. What was printed
before a failure stays printed.
-/

namespace ServerSetup.Console

/-- Why a command failed. -/
inductive Failure
  /-- An operation of the session ended without a result. -/
  | halt (why : Halt)
  /-- Something else went wrong. -/
  | fault (why : Fault)

/-- The exit code for a failure. -/
def Failure.code : Failure → Nat
  | halt .clockRange => 101
  | _ => 1

/-- The words for a failure. -/
def Failure.message : Failure → Option String
  | halt (.failed e) => some e.message
  | halt _ => none
  | fault f => f.reasons.head?.map fun
    | .said text => text
    | .io _ => ""

/-- Commands: they print lines and act on the world of a session. -/
abbrev CommandM (η : Type) := ExceptT Failure (StateT (List String) (StateM (World η)))

variable {η : Type}

/-- Prints lines. -/
def print (lines : List String) : CommandM η Unit :=
  modifyThe (List String) (· ++ lines)

/-- Fails with a fault in words. -/
def complain {α : Type} (text : String) : CommandM η α := throw (.fault (.said text))

/-- An operation of the session. -/
def perform {α : Type} (op : SetupM η α) : CommandM η α := do
  match ← (ExceptT.run op : StateM (World η) (Except Halt α)) with
  | .ok a => return a
  | .error why => throw (.halt why)

/-- Fails unless the program may do what an action says. -/
def demandRights (action : String) : CommandM η Unit := do
  match requireAdministrator (← getThe (World η)).environment action with
  | .ok () => pure ()
  | .error fault => throw (.fault fault)

/-- The home of the installation that is meant: the given one, or else the current one after a look
for installations. -/
def homeMeant (s : Session η) (home : Option String) : CommandM η String := do
  match home with
  | some home => return (← perform (Session.installationAt home)).home.shown
  | none =>
    let _ ← perform s.search
    match (← getThe (World η)).catalog.current? with
    | some i => return i.home.shown
    | none => complain "未选定当前 Resin 安装，请使用 --home 指定"

/-- The directory of the scripts that is meant: the given one, or else that of the default site. -/
def scriptsMeant (s : Session η) (scripts : Option String) : CommandM η String := do
  match scripts with
  | some directory => return directory
  | none =>
    match ← perform s.scriptsDirectory with
    | some directory => return directory
    | none => complain "未找到 IIS scripts 目录，请使用 --scripts 指定"

/-- The service that an installation asks for, in a home. -/
def InstallWish.profile (wish : InstallWish) (disk : Disk) (home : String) :
    ServiceProfile where
  name := wish.name
  home := home
  executable := wish.executable
  confFile := wish.confFile.or (disk.confFile? home)
  rootDirectory := wish.rootDirectory
  logDirectory := wish.logDirectory
  server := wish.server
  runAsUser := wish.user
  password := wish.password.map Password.mk
  isPreview := wish.isPreview
  debugPort := wish.debugPort
  jmxPort := wish.jmxPort
  watchdogPort := wish.watchdogPort
  extraArguments := wish.extraArguments

/-- Looks for installations and shows them. -/
def showInstallations (s : Session η) : CommandM η Unit := do
  let found ← perform s.refresh
  print (installationLines (← getThe (World η)).catalog.current? found)

/-- Scans the services and shows them. -/
def showServices (s : Session η) : CommandM η Unit := do
  for d in ← perform s.rescan do print (serviceLines d)

/-- Installs a service and shows its arguments. -/
def install (s : Session η) (wish : InstallWish) : CommandM η Unit := do
  demandRights "注册服务"
  let home ← homeMeant s wish.home
  let d := wish.profile (← getThe (World η)).disk home
  perform (s.services.install d !wish.isUpdate)
  print [d.argumentLine]

/-- Uninstalls a service. A scan of the services comes first, and may fail. -/
def uninstall (s : Session η) (service : String) : CommandM η Unit := do
  demandRights "注销服务"
  perform (SetupM.attempt s.rescan)
  perform (s.services.uninstall service)

/-- Shows how a change of the web filter ended, and fails if it failed. -/
def report (r : FilterReport) : CommandM η Unit := do
  print ["status = " ++ r.status.name]
  if let some fault := r.fault then
    throw (.fault (fault.whileDoing ("IIS 过滤器配置失败: " ++ r.status.name)))

/-- Registers the web filter. -/
def registerFilter (s : Session η) (home scripts : Option String) : CommandM η Unit := do
  demandRights "注册 IIS 过滤器"
  let home ← homeMeant s home
  let scripts ← scriptsMeant s scripts
  report (← (s.filter.register home scripts : StateM (World η) FilterReport))

/-- Removes the web filter. -/
def deregisterFilter (s : Session η) (scripts : Option String) : CommandM η Unit := do
  demandRights "注销 IIS 过滤器"
  let scripts ← scriptsMeant s scripts
  report (← (s.filter.deregister scripts : StateM (World η) FilterReport))

/-- Executes a command that needs a session; for any other there is nothing to do. -/
def execute (s : Session η) : Command → CommandM η Unit
  | .discover => showInstallations s
  | .showServices => showServices s
  | .install wish => install s wish
  | .uninstall service => uninstall s service
  | .start service => perform (s.services.start service)
  | .stop service => perform (s.services.stop service)
  | .restart service => perform (s.services.restart service)
  | .registerFilter home scripts => registerFilter s home scripts
  | .deregisterFilter scripts => deregisterFilter s scripts
  | .stopWeb => perform s.stopWeb
  | .restartWeb => perform s.restartWeb
  | .explain _ | .checkUp => pure ()

end ServerSetup.Console
