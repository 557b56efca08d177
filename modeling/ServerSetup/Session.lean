import ServerSetup.Search
import ServerSetup.ServiceManager
import ServerSetup.Filter.Registration

/-!
# Sessions

A session is one run of the tool on a host: it joins the search for installations, the scan of the
services, their management and the web filter.
-/

namespace ServerSetup

/-- One run of the tool. -/
structure Session (η : Type) where
  settings : Settings
  host : Host η
  homeTest : HomeTest
  services : ServiceManager η
  /-- The order in which the finds on several volumes, which are searched side by side, reach the
  catalog. -/
  merge : List (List HomePath) → List HomePath := List.flatten

namespace Session

variable {η : Type}

/-- The service of the web server. -/
def webServer : String := "W3SVC"

/-- Opens a session, if the directory of the rollback states is known. -/
def new (settings : Settings) (env : Environment) (host : Host η) (homeTest : HomeTest)
    (patience : Nat) : Except OperationError (Session η) :=
  (settings.rollback.resolveDirectory env).map fun directory =>
    { settings := settings
      host := host
      homeTest := homeTest
      services :=
        { records := host.records
          control := host.control
          registrar := host.registrar
          store := ⟨directory⟩
          rollback := settings.rollback
          waiting := settings.waiting
          launcher := settings.product.launcher
          patience := patience } }

/-- The same session on another host. -/
def onHost (s : Session η) (host : Host η) : Session η :=
  { s with
    host := host
    services := { s.services with
      records := host.records
      control := host.control
      registrar := host.registrar } }

variable (s : Session η)

/-- The filter of the web server. -/
def filter : FilterSetup η := ⟨s.host.filterStore, s.settings.filter⟩

/-- Looks for installations. -/
def search : SetupM η (List Installation) :=
  Search.run
    { product := s.settings.product, test := s.homeTest, host := s.host, merge := s.merge }

/-- Scans the services anew. What an earlier scan found is forgotten even if this one fails. -/
def rescan : SetupM η (List ServiceProfile) := do
  SetupM.catalog fun c => ((), c.forgetServices)
  let found ← describedServices s.host.records s.homeTest s.settings.product.launcher
  SetupM.catalog fun c => ((), c.setServices found)
  return (← get).catalog.services

/-- The fixed server ids of some services, each once, in order. -/
def serverIds (services : List ServiceProfile) : List String :=
  (services.filterMap ServiceProfile.fixedServer?).foldl
    (fun ids id => if ids.contains id then ids else ids ++ [id]) []

/-- Notes the servers of each of some installations. -/
def noteServers (disk : Disk) (c : Catalog) : List Installation → Catalog
  | [] => c
  | i :: rest =>
    noteServers disk (c.noteServers i.home (serverIds (c.servicesOf disk i.home))).2 rest

/-- Looks for installations, scans the services, and notes the servers of each installation. -/
def refresh : SetupM η (List Installation) := do
  let _ ← s.search
  let _ ← s.rescan
  let disk := (← get).disk
  SetupM.catalog fun c => ((), noteServers disk c c.installations)
  return (← get).catalog.installations

/-- The installation with a home, which is added if it is not known. -/
def installationAt (home : String) : SetupM η Installation := do
  let home := (← get).disk.canonical home
  SetupM.catalog (·.ensureInstallation home)

/-- The directory of the web server's scripts. -/
def scriptsDirectory : SetupM η (Option String) :=
  SetupM.call (.accessDenied .scriptsDirectory) s.host.filterStore.scriptsDirectory

/-- Stops the web server. -/
def stopWeb : SetupM η Unit := s.services.stop webServer

/-- Restarts the web server. -/
def restartWeb : SetupM η Unit := s.services.restart webServer

end Session

end ServerSetup
