import ServerSetup.Windows.System

/-!
# The registry

Service records, the recorded home of the current installation, and the event sources of services.
A key or a value that is missing is no error where it is only asked for.
-/

namespace ServerSetup.Windows

variable {η : Type}

/-- The key of the service records. -/
def recordsKey : String := "SYSTEM\\CurrentControlSet\\Services"

/-- The key of the event sources of applications. -/
def sourcesKey : String := recordsKey ++ "\\EventLog\\Application"

/-- The full path of the key of a service's record. -/
def recordKey (service : String) : String := Root.localMachine.key (recordsKey ++ "\\" ++ service)

/-- The full path of the key of the event sources. -/
def eventSources : String := Root.localMachine.key sourcesKey

/-- The full path of the key of a service's event source. -/
def eventSource (service : String) : String := Root.localMachine.key (sourcesKey ++ "\\" ++ service)

/-- The value of a key, if the key and the value are there. -/
def readString (registry : Registry η) (root : Root) (path name : String) :
    HostM η (Option String) := do
  let full := root.key path
  match ← doing .io ("打开注册表键失败: " ++ full) (ifFound (registry.openKey root path false)) with
  | none => return none
  | some key =>
    doing .io ("读取注册表值失败: " ++ full ++ "\\" ++ name) (ifFound (registry.value key name))

/-- The service records below a key. -/
def serviceRecords (registry : Registry η) (root : Root) (path : String) : ServiceRecords η where
  list := do
    let key ← doing .io ("打开服务注册表键失败: " ++ root.key path) (registry.openKey root path false)
    doing .io "枚举服务注册表子键失败" (registry.subkeys key)
  record := fun service => readString registry root (path ++ "\\" ++ service) "ImagePath"
  setRecord := fun service record => do
    let path := path ++ "\\" ++ service
    let key ← doing .io ("打开服务注册表键失败: " ++ root.key path) (registry.openKey root path true)
    doing .io ("写入 ImagePath 失败: " ++ service) (registry.setValue key "ImagePath" record)

/-- Whether a service has an event source. -/
def hasEventSource (registry : Registry η) (service : String) : HostM η Bool := do
  let found ← doing .io ("打开事件日志源失败: " ++ service)
    (ifFound (registry.openKey .localMachine (sourcesKey ++ "\\" ++ service) false))
  return found.isSome

/-- Removes the event source of a service, if there is one. -/
def dropEventSource (registry : Registry η) (service : String) : HostM η Unit := do
  let sources ← doing .io "打开事件日志键失败" (registry.openKey .localMachine sourcesKey true)
  let _ ← doing .io ("删除事件日志源失败: " ++ service) (ifFound (registry.deleteTree sources service))

end ServerSetup.Windows
