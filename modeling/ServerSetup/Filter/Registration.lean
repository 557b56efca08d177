import ServerSetup.Settings
import ServerSetup.Path.Join
import ServerSetup.Host
import ServerSetup.Filter.LoadOrder

/-!
# The web filter

Registering the filter with the web server: an entry of its name, a place in the load order, and a
copy of its file in the directory of the scripts. The registration is made permanent before the file
is copied, and stays if the copy fails.
-/

namespace ServerSetup

/-- How a registration or its removal ended. -/
inductive FilterStatus
  | alreadyConfigured
  | configuredOk
  | ioError
  | removedOk
  | alreadyRemoved
  | storeError
deriving DecidableEq

/-- The name of a status. -/
def FilterStatus.name : FilterStatus → String
  | alreadyConfigured => "AlreadyConfigured"
  | configuredOk => "ConfiguredOk"
  | ioError => "IoError"
  | removedOk => "RemovedOk"
  | alreadyRemoved => "AlreadyRemoved"
  | storeError => "MetabaseError"

/-- A status, with the fault that is behind a failure. -/
structure FilterReport where
  status : FilterStatus
  fault : Option Fault := none

/-- The filter that settings describe, in a store of filters. -/
structure FilterSetup (η : Type) where
  store : FilterStore η
  settings : FilterSettings

namespace FilterSetup

variable {η : Type} (f : FilterSetup η)

/-- The filter's file in the directory of the scripts. -/
def target (scripts : String) : String := Path.join scripts f.settings.binary

/-- The filter's file in an installation. -/
def source (home : String) : String :=
  Path.join (Path.join home f.settings.platformDirectory) f.settings.binary

/-- The entry of a registered filter. -/
def wanted (scripts : String) : StoredFilter where
  name := f.settings.name
  enabled := true
  state := f.settings.loadedState
  path := f.target scripts
  description := f.settings.description

/-- The entry with the filter's name, up to ASCII letter case. -/
def entry? (filters : List StoredFilter) : Option StoredFilter :=
  filters.find? fun e => Text.equalIgnoringCase e.name f.settings.name

/-- Makes the entry and the place in the load order as they should be; whether anything changed. -/
def registerEntry (scripts : String) : HostM η Bool := do
  let existing := f.entry? (← f.store.filters)
  let differs := existing != some (f.wanted scripts)
  if differs then f.store.put (f.wanted scripts)
  let added := LoadOrder.add? (← f.store.loadOrder) f.settings.name
  if let some order := added then f.store.putLoadOrder order
  let changed := differs || added.isSome
  if changed then f.store.commit
  return changed

/-- Removes the entry and the place in the load order; whether there was either. -/
def remove : HostM η Bool := do
  let existing := f.entry? (← f.store.filters)
  if let some entry := existing then f.store.remove entry.name
  let removed := LoadOrder.remove? (← f.store.loadOrder) f.settings.name
  if let some order := removed then f.store.putLoadOrder order
  let found := existing.isSome || removed.isSome
  if found then f.store.commit
  return found

/-- An operation on the disk of the world. -/
def onDisk {α : Type} (op : DiskM α) : StateM (World η) (Except IoKind α) := fun w =>
  let (r, disk) := op w.disk
  (r, { w with disk := disk })

/-- A report about a file operation that failed. -/
def ioReport (attempt : String) (kind : IoKind) : FilterReport :=
  ⟨.ioError, some ((Fault.io kind).whileDoing attempt)⟩

/-- Registers the filter of the installation at `home`. -/
def register (home scripts : String) : StateM (World η) FilterReport := do
  match ← f.registerEntry scripts with
  | .error fault => return ⟨.storeError, some fault⟩
  | .ok changed =>
    match ← onDisk (Disk.copy (f.source home) (f.target scripts)) with
    | .error kind =>
      return ioReport ("复制 " ++ f.source home ++ " 到 " ++ f.target scripts ++ " 失败") kind
    | .ok () => return ⟨if changed then .configuredOk else .alreadyConfigured, none⟩

/-- Removes the filter and its file. -/
def deregister (scripts : String) : StateM (World η) FilterReport := do
  match ← f.remove with
  | .error fault => return ⟨.storeError, some fault⟩
  | .ok found =>
    let report : FilterReport := ⟨if found then .removedOk else .alreadyRemoved, none⟩
    match ← onDisk (Disk.remove (f.target scripts)) with
    | .error .notFound => return report
    | .error kind => return ioReport ("删除 " ++ f.target scripts ++ " 失败") kind
    | .ok () => return report

end FilterSetup

end ServerSetup
