import ServerSetup.World

/-!
# Phases of services

While a service is being registered or unregistered, no second operation of this kind may start on
the same service. The phases under way are kept by the name of the service; an operation enters its
phase before it does anything and leaves it however it ends.
-/

namespace ServerSetup

namespace Phases

/-- The phase that a service is in. -/
def of? (phases : Phases) (service : String) : Option Transition := phases.lookup service

/-- A service enters a phase. -/
def enter (phases : Phases) (service : String) (phase : Transition) : Phases :=
  (service, phase) :: phases

/-- A service leaves its phase. -/
def leave (phases : Phases) (service : String) : Phases := phases.filter fun p => p.1 != service

end Phases

/-- Runs an operation on a service while the service is in a phase. It fails at once if the service
is in a phase already. -/
def SetupM.inPhase {η α : Type} (service : String) (phase : Transition) (op : SetupM η α) :
    SetupM η α := fun w =>
  match w.phases.of? service with
  | some current => (.error (.failed (.busy service current)), w)
  | none =>
    let (r, w) := op { w with phases := w.phases.enter service phase }
    (r, { w with phases := w.phases.leave service })

end ServerSetup
