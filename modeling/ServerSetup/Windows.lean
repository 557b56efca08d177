import ServerSetup.Settings
import ServerSetup.Windows.Machine
import ServerSetup.Windows.ServiceManager

/-!
# The Windows host

The adapters of a Windows system as the host of a session, and the fixed volumes. The web server's
store of filters is not one of them; it comes from elsewhere.
-/

namespace ServerSetup.Windows

variable {η : Type}

/-- A fixed disk and a disk in memory. -/
def isFixedType (type : Nat) : Bool := type == 3 || type == 6

/-- The root directories of the fixed drives among some letters. -/
def fixedAmong (sys : System η) : List Char → StateM (World η) (List String)
  | [] => return []
  | letter :: letters => do
    let directory := String.ofList [letter, ':', '\\']
    let type ← sys.driveType directory
    let rest ← fixedAmong sys letters
    return if isFixedType type then directory :: rest else rest

/-- The root directories of the fixed drives, in the order of their letters. -/
def volumes (sys : System η) : HostM η (List String) := do
  let drives ← sys.logicalDrives
  if drives.isEmpty then throw (.said "GetLogicalDrives 失败")
  fixedAmong sys ("ABCDEFGHIJKLMNOPQRSTUVWXYZ".toList.filter drives.contains)

/-- A system as the host of a session with a configuration. -/
def host (sys : System η) (filterStore : FilterStore η) (settings : Settings) : Host η where
  volumes := volumes sys
  recordedHome := readString sys.registry .localMachine settings.product.recordedHomeKey
    settings.product.recordedHomeValue
  records := serviceRecords sys.registry .localMachine recordsKey
  control := serviceControl sys.services
  registrar := serviceRegistrar sys settings.waiting.pauseMs
  filterStore := filterStore
  ownLocation := none

/-- The machine in memory as the host of a session. Its store of filters is in memory as well. -/
def Machine.host (settings : Settings) : Host Machine :=
  Windows.host system
    (Rehearsal.FilterTable.filterStore Machine.filterTable fun t m => { m with filterTable := t })
    settings

end ServerSetup.Windows
