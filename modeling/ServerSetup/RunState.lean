/-!
# Run states

The states in which a service manager reports a registered service.
-/

namespace ServerSetup

/-- The state of a registered service. -/
inductive RunState
  | stopped | startPending | stopPending | running | continuePending | pausePending | paused
deriving DecidableEq

/-- The name of a state in messages. -/
def RunState.name : RunState → String
  | stopped => "stopped"
  | startPending => "start_pending"
  | stopPending => "stop_pending"
  | running => "running"
  | continuePending => "continue_pending"
  | pausePending => "pause_pending"
  | paused => "paused"

/-- The state that a pending start or stop leads to. -/
def RunState.settled : RunState → RunState
  | startPending => running
  | stopPending => stopped
  | s => s

end ServerSetup
