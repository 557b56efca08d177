import ServerSetup.World

/-!
# The host

What the tool asks of the system below: the volumes, the registered services and their records, the
control of services, their registration, and the filters of the web server. Each part is a record of
calls, so that any system can stand in for it.
-/

namespace ServerSetup

/-- The records of the registered services. -/
structure ServiceRecords (η : Type) where
  /-- The names of all services. -/
  list : HostM η (List String)
  /-- The command line of a service, if it has one. -/
  record : String → HostM η (Option String)
  /-- Writes the command line of a service. -/
  setRecord : String → String → HostM η Unit

/-- The control of services. -/
structure ServiceControl (η : Type) where
  /-- The state of a service; none if it is not registered. -/
  status : String → HostM η (Option RunState)
  /-- Asks for a start and does not wait for it. -/
  start : String → HostM η Unit
  /-- Asks for a stop and does not wait for it. -/
  stop : String → HostM η Unit

/-- The registration of services. -/
structure ServiceRegistrar (η : Type) where
  /-- Registers a service; what is needed to undo it. -/
  install : RegistrationRequest → HostM η Rollback.State
  /-- Unregisters a service as its registration's state says. -/
  uninstall : String → Rollback.State → HostM η Unit

/-- A filter of the web server. -/
structure StoredFilter where
  name : String
  enabled : Bool
  state : UInt32
  path : String
  description : String
deriving DecidableEq

/-- The web server's store of filters. -/
structure FilterStore (η : Type) where
  filters : HostM η (List StoredFilter)
  /-- Makes an entry, or puts it in place of the one with its name. -/
  put : StoredFilter → HostM η Unit
  remove : String → HostM η Unit
  /-- The names of the filters in the order of loading, separated by commas. -/
  loadOrder : HostM η String
  putLoadOrder : String → HostM η Unit
  /-- Makes the changes so far permanent. -/
  commit : HostM η Unit
  /-- The directory of the default site's scripts, if there is one. -/
  scriptsDirectory : HostM η (Option String)

/-- All that is asked of the system below. -/
structure Host (η : Type) where
  /-- The root directories of the fixed volumes. -/
  volumes : HostM η (List String)
  /-- The recorded home of the current installation. -/
  recordedHome : HostM η (Option String)
  records : ServiceRecords η
  control : ServiceControl η
  registrar : ServiceRegistrar η
  filterStore : FilterStore η
  /-- Where the program itself is, if that is known. -/
  ownLocation : Option String

end ServerSetup
