import ServerSetup.Environment
import ServerSetup.OperationError

/-!
# Settings

All that can be adjusted: how an installation is recognised, how the web filter is registered, what
is kept for a rollback, and how long a change of state is waited for.
-/

namespace ServerSetup

/-- How installations and their services are recognised. -/
structure ProductSettings where
  /-- How the name of an installation's directory below a volume starts, in any letter case. -/
  directoryStart : String := "resin"
  /-- What the name of a directory contains that holds installations, in any letter case. -/
  containerMark : String := "appservers"
  /-- The file name of the launcher. -/
  launcher : String := "resin.exe"
  /-- The files that every installation has, relative to its home. -/
  rootMarkers : List String := ["lib/resin.jar"]
  /-- The registry key with the current installation. -/
  recordedHomeKey : String := "SOFTWARE\\Caucho\\Resin"
  /-- The registry value with the current installation. -/
  recordedHomeValue : String := "Home"

/-- How the web filter is registered. -/
structure FilterSettings where
  /-- The name of the filter, also in the load order. -/
  name : String := "Resin"
  /-- The file name of the filter. -/
  binary : String := "isapi_srun.dll"
  description : String := "isapi_srun Extension"
  /-- The directory with the filter's file, relative to the home of an installation. -/
  platformDirectory : String := "win32"
  /-- The state that marks a filter as loaded. -/
  loadedState : UInt32 := 4
  /-- The administration script of the web server, if it is not at its usual place. -/
  adminScript : Option String := none

/-- What is kept for a rollback. -/
structure RollbackSettings where
  /-- Whether a registration writes its state. -/
  keepStates : Bool := true
  /-- Whether written states are read. -/
  readStates : Bool := true
  /-- Whether a default stands in for a state that is missing. -/
  standIn : Bool := true
  /-- The directory for the states, if it is not the usual one. -/
  stateDirectory : Option String := none

/-- How a change of state is waited for. -/
structure WaitSettings where
  /-- The pause between two queries, in milliseconds. -/
  pollIntervalMs : UInt64 := 250
  /-- The longest wait in seconds; without it a wait may last for ever. -/
  timeoutSecs : Option UInt64 := none

/-- All settings of the tool. -/
structure Settings where
  product : ProductSettings := {}
  filter : FilterSettings := {}
  rollback : RollbackSettings := {}
  waiting : WaitSettings := {}

/-- The pause between two queries, in milliseconds: at least one. -/
def WaitSettings.pauseMs (c : WaitSettings) : Nat := max c.pollIntervalMs.toNat 1

/-- The directory for the rollback states. -/
def RollbackSettings.resolveDirectory (c : RollbackSettings) (env : Environment) :
    Except OperationError String :=
  match c.stateDirectory with
  | some directory => .ok directory
  | none => env.stateDirectory.mapError fun why => .settings (.noStateDirectory why)

end ServerSetup
