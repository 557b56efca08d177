import ServerSetup.Settings
import ServerSetup.Disk
import ServerSetup.Json.Reader

/-!
# Settings documents

Settings are written as a JSON record of four sections. Every section and every field may be
left out and then keeps its default.
-/

namespace ServerSetup

open Json

/-- The section that says how installations are recognised. -/
def ProductSettings.ofJson? (source : Source) : Option ProductSettings := do
  let d : ProductSettings := {}
  match ← record? ["dir_prefix", "container_marker", "launcher", "root_markers",
      "current_home_key", "current_home_value"] source with
  | [start, mark, launcher, markers, key, value] => return {
      directoryStart := ← given string? d.directoryStart start
      containerMark := ← given string? d.containerMark mark
      launcher := ← given string? d.launcher launcher
      rootMarkers := ← given (list? string?) d.rootMarkers markers
      recordedHomeKey := ← given string? d.recordedHomeKey key
      recordedHomeValue := ← given string? d.recordedHomeValue value }
  | _ => none

/-- The section about the web filter. -/
def FilterSettings.ofJson? (source : Source) : Option FilterSettings := do
  let d : FilterSettings := {}
  match ← record? ["name", "binary", "description", "platform_subdir", "loaded_state",
      "adsutil_script"] source with
  | [name, binary, description, directory, state, script] => return {
      name := ← given string? d.name name
      binary := ← given string? d.binary binary
      description := ← given string? d.description description
      platformDirectory := ← given string? d.platformDirectory directory
      loadedState := .ofNat (← given (nat? 0xFFFFFFFF) d.loadedState.toNat state)
      adminScript := ← given (nullable? string?) d.adminScript script }
  | _ => none

/-- The section about rollback states. -/
def RollbackSettings.ofJson? (source : Source) : Option RollbackSettings := do
  let d : RollbackSettings := {}
  match ← record? ["persist", "load_persisted", "synthetic_default", "state_dir"] source with
  | [keep, load, synthetic, directory] => return {
      keepStates := ← given bool? d.keepStates keep
      readStates := ← given bool? d.readStates load
      standIn := ← given bool? d.standIn synthetic
      stateDirectory := ← given (nullable? string?) d.stateDirectory directory }
  | _ => none

/-- The section about waiting. -/
def WaitSettings.ofJson? (source : Source) : Option WaitSettings := do
  let d : WaitSettings := {}
  match ← record? ["poll_interval_ms", "transition_timeout_secs"] source with
  | [pause, timeout] => return {
      pollIntervalMs := .ofNat (← given (nat? 0xFFFFFFFFFFFFFFFF) d.pollIntervalMs.toNat pause)
      timeoutSecs := ← given (nullable? fun s => (nat? 0xFFFFFFFFFFFFFFFF s).map UInt64.ofNat)
        d.timeoutSecs timeout }
  | _ => none

/-- The settings that a JSON value gives. -/
def Settings.ofJson? (source : Source) : Option Settings := do
  match ← record? ["product", "filter", "rollback", "control"] source with
  | [product, filter, rollback, waiting] => return {
      product := ← given ProductSettings.ofJson? {} product
      filter := ← given FilterSettings.ofJson? {} filter
      rollback := ← given RollbackSettings.ofJson? {} rollback
      waiting := ← given WaitSettings.ofJson? {} waiting }
  | _ => none

/-- The settings in the bytes of a file. -/
def Settings.ofBytes? (bytes : List UInt8) : Option Settings :=
  (document? bytes).bind ofJson?

/-- Loads a settings file. -/
def Settings.load (disk : Disk) (path : String) : Except OperationError Settings :=
  match disk.read path with
  | .error kind => .error (.io path kind)
  | .ok bytes =>
    match ofBytes? bytes with
    | some settings => .ok settings
    | none => .error (.settings (.unreadable path))

end ServerSetup
