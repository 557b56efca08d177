import ServerSetup.Proofs.Operation
import ServerSetup.ServiceManager

/-!
# Notes of what the control of services is asked

To say what starting, stopping and restarting a service ask for and in which order, the manager is
given a control that notes each call, its answer, and whether a cancellation was asked for
(`ServiceManager.noted`). It stands in for any control: with the notes left out, an operation does
what it does without them (`Watches.watch`).

The host of the noting control is the host of the manager together with its notes, and a world is
taken apart and put together accordingly (`World.noting`, `World.plain`). `Watches` says of an
operation on such worlds and one on plain worlds that they do the same, that the notes which are
added follow on one another, and that the calls in them with the result satisfy a predicate.
Operations are sequences, so the main rule is the one for a sequence (`Watches.bind`): the calls of
its first step, and those of its second step if the first one succeeds.
-/

namespace ServerSetup

/-! ### Calls and notes -/

/-- A call of the control of services with its answer. -/
inductive ControlCall
  | status (service : String) (answer : Except Fault (Option RunState))
  | start (service : String) (answer : Except Fault Unit)
  | stop (service : String) (answer : Except Fault Unit)

/-- A note of a call. -/
structure ControlNote where
  call : ControlCall
  /-- Whether a cancellation had been asked for when the call was made. -/
  cancelledBefore : Bool
  /-- Whether one had been asked for when the call returned. -/
  cancelledAfter : Bool

/-- A host with notes of the calls so far. -/
structure Noted (η : Type) where
  host : η
  notes : List ControlNote

namespace World

variable {η : Type}

/-- A world whose host keeps notes. -/
def noting (w : World η) (notes : List ControlNote) : World (Noted η) where
  disk := w.disk
  environment := w.environment
  catalog := w.catalog
  phases := w.phases
  cancelled := w.cancelled
  clock := w.clock
  drawn := w.drawn
  now := w.now
  host := ⟨w.host, notes⟩

/-- A world without the notes of its host. -/
def plain (w : World (Noted η)) : World η where
  disk := w.disk
  environment := w.environment
  catalog := w.catalog
  phases := w.phases
  cancelled := w.cancelled
  clock := w.clock
  drawn := w.drawn
  now := w.now
  host := w.host.host

end World

namespace HostM

variable {η α : Type}

/-- A call of the host that is not noted. -/
def unnoted (op : HostM η α) : HostM (Noted η) α := fun w ↦
  let (answer, w') := op w.plain
  (answer, w'.noting w.host.notes)

/-- A call of the host that is noted. -/
def noted (call : Except Fault α → ControlCall) (op : HostM η α) : HostM (Noted η) α := fun w ↦
  let (answer, w') := op w.plain
  (answer, w'.noting (w.host.notes ++ [⟨call answer, w.cancelled, w'.cancelled⟩]))

end HostM

/-- A control that notes its calls. -/
def ServiceControl.noted {η : Type} (c : ServiceControl η) : ServiceControl (Noted η) where
  status service := HostM.noted (.status service) (c.status service)
  start service := HostM.noted (.start service) (c.start service)
  stop service := HostM.noted (.stop service) (c.stop service)

/-- A manager whose control notes its calls. -/
def ServiceManager.noted {η : Type} (m : ServiceManager η) : ServiceManager (Noted η) where
  records :=
    { list := HostM.unnoted m.records.list
      record := fun service ↦ HostM.unnoted (m.records.record service)
      setRecord := fun service record ↦ HostM.unnoted (m.records.setRecord service record) }
  control := m.control.noted
  registrar :=
    { install := fun request ↦ HostM.unnoted (m.registrar.install request)
      uninstall := fun service state ↦ HostM.unnoted (m.registrar.uninstall service state) }
  store := m.store
  rollback := m.rollback
  waiting := m.waiting
  launcher := m.launcher
  patience := m.patience

/-! ### Operations -/

/-- The two changes of a service's run state that can be asked for. -/
inductive Turn
  | start
  | stop
deriving DecidableEq

namespace Turn

/-- The state that is waited for. -/
def goal : Turn → RunState
  | start => .running
  | stop => .stopped

/-- The state of a service on its way there. -/
def pending : Turn → RunState
  | start => .startPending
  | stop => .stopPending

/-- The other one. -/
def other : Turn → Turn
  | start => stop
  | stop => start

/-- The call that asks for it. -/
def call (service : String) (answer : Except Fault Unit) : Turn → ControlCall
  | start => .start service answer
  | stop => .stop service answer

variable {η : Type}

/-- Asks for it. -/
def request (m : ServiceManager η) (service : String) : Turn → SetupM η Unit
  | start => m.requestStart service
  | stop => m.requestStop service

/-- The operation of a manager. -/
def run (m : ServiceManager η) (service : String) : Turn → SetupM η Unit
  | start => m.start service
  | stop => m.stop service

end Turn

/-- An operation that the control of services takes part in. -/
inductive ControlOperation
  | turn (t : Turn)
  | restart
  | restartUnlessCancelled

/-- What was noted in an operation, and what came of it. -/
structure ControlRun (η : Type) where
  notes : List ControlNote
  result : Except Halt Unit
  world : World η

/-- The calls that were noted. -/
def ControlRun.calls {η : Type} (r : ControlRun η) : List ControlCall :=
  r.notes.map ControlNote.call

namespace ControlOperation

variable {η : Type} (m : ServiceManager η) (service : String)

/-- The operation of a manager. -/
def run : ControlOperation → SetupM η Unit
  | turn t => t.run m service
  | restart => m.restart service
  | restartUnlessCancelled => m.restartUnlessCancelled service

end ControlOperation

/-- Runs an operation with a control that notes its calls. -/
def ControlOperation.watch {η : Type} (o : ControlOperation) (m : ServiceManager η)
    (service : String) (w : World η) : ControlRun η :=
  let outcome := o.run m.noted service (w.noting [])
  ⟨outcome.2.host.notes, outcome.1, outcome.2.plain⟩

/-! ### Operations with notes beside those without -/

/-- The notes follow on one another: between two calls nobody asks for a cancellation. -/
def Linked : Bool → List ControlNote → Bool → Prop
  | cancelled, [], cancelled' => cancelled = cancelled'
  | cancelled, n :: notes, cancelled' =>
    n.cancelledBefore = cancelled ∧ Linked n.cancelledAfter notes cancelled'

/-- Notes that follow on others can be put behind them. -/
theorem Linked.append {c c' c'' : Bool} {notes notes' : List ControlNote} (h : Linked c notes c')
    (h' : Linked c' notes' c'') : Linked c (notes ++ notes') c'' := by
  induction notes generalizing c with
  | nil =>
    obtain rfl : c = c' := h
    exact h'
  | cons n notes ih => exact ⟨h.1, ih h.2⟩

/-- An operation does the same with notes as without, and the calls it adds to them and its result
are as a predicate says. -/
def Watches {η α : Type} (noted : SetupM (Noted η) α) (plain : SetupM η α)
    (Course : List ControlCall → Except Halt α → Prop) : Prop :=
  ∀ w past, ∃ notes, noted (w.noting past) = ((plain w).1, (plain w).2.noting (past ++ notes)) ∧
    Linked w.cancelled notes (plain w).2.cancelled ∧
    Course (notes.map ControlNote.call) (plain w).1

namespace Watches

variable {η α β : Type} {noted : SetupM (Noted η) α} {plain : SetupM η α}
  {Course Course' : List ControlCall → Except Halt α → Prop}

theorem mono (h : Watches noted plain Course)
    (hcourse : ∀ calls r, Course calls r → Course' calls r) :
    Watches noted plain Course' := by
  intro w past
  obtain ⟨notes, hrun, hlinked, hnotes⟩ := h w past
  exact ⟨notes, hrun, hlinked, hcourse _ _ hnotes⟩

/-- A step that makes no call. -/
theorem quiet (hrun : ∀ w past, noted (w.noting past) = ((plain w).1, (plain w).2.noting past))
    (hcancelled : ∀ w, (plain w).2.cancelled = w.cancelled)
    (hcourse : ∀ w, Course [] (plain w).1) : Watches noted plain Course := by
  intro w past
  exact ⟨[], by rw [hrun, List.append_nil], (hcancelled w).symm, hcourse w⟩

theorem pure (a : α) (h : Course [] (.ok a)) :
    Watches (Pure.pure a : SetupM (Noted η) α) (Pure.pure a : SetupM η α) Course :=
  quiet (fun _ _ ↦ rfl) (fun _ ↦ rfl) fun _ ↦ h

theorem throw (halt : Halt) (h : Course [] (.error halt)) :
    Watches (MonadExcept.throw halt : SetupM (Noted η) α) (MonadExcept.throw halt : SetupM η α)
      Course :=
  quiet (fun _ _ ↦ rfl) (fun _ ↦ rfl) fun _ ↦ h

/-- **A sequence makes the calls of its first step, and those of its second step if the first one
succeeds.** -/
theorem bind {next : α → SetupM (Noted η) β} {next' : α → SetupM η β}
    {N : α → List ControlCall → Except Halt β → Prop}
    {Whole : List ControlCall → Except Halt β → Prop} (h : Watches noted plain Course)
    (hnext : ∀ a, Watches (next a) (next' a) (N a))
    (herror : ∀ calls e, Course calls (.error e) → Whole calls (.error e))
    (hok : ∀ calls a rest r, Course calls (.ok a) → N a rest r → Whole (calls ++ rest) r) :
    Watches (noted >>= next) (plain >>= next') Whole := by
  intro w past
  obtain ⟨notes, hrun, hlinked, hnotes⟩ := h w past
  rw [SetupM.bind_eq, SetupM.bind_eq, hrun]
  rcases hplain : plain w with ⟨e | a, w₁⟩
  · rw [hplain] at hlinked hnotes
    exact ⟨notes, rfl, hlinked, herror _ e hnotes⟩
  · rw [hplain] at hlinked hnotes
    obtain ⟨notes', hrun', hlinked', hnotes'⟩ := hnext a w₁ (past ++ notes)
    refine ⟨notes ++ notes', ?_, hlinked.append hlinked', ?_⟩
    · rw [← List.append_assoc]
      exact hrun'
    · rw [List.map_append]
      exact hok _ a _ _ hnotes hnotes'

/-- A step that reads the world, but not the notes. -/
theorem read {next : World (Noted η) → SetupM (Noted η) α} {next' : World η → SetupM η α}
    (h : ∀ w past, Watches (next (w.noting past)) (next' w) Course) :
    Watches (get >>= next) (get >>= next') Course :=
  fun w past ↦ h w past w past

/-- A call that is noted. -/
theorem call {wrap : Fault → OperationError} {op : HostM η α} {note : Except Fault α → ControlCall}
    (h : ∀ answer, Course [note answer] (answer.mapError fun why ↦ .failed (wrap why))) :
    Watches (SetupM.call wrap (HostM.noted note op)) (SetupM.call wrap op) Course := by
  intro w past
  refine ⟨[⟨note (op w).1, w.cancelled, (op w).2.cancelled⟩], ?_⟩
  have hnoted : HostM.noted note op (w.noting past) = ((op w).1,
      (op w).2.noting (past ++ [⟨note (op w).1, w.cancelled, (op w).2.cancelled⟩])) := rfl
  rw [SetupM.call, SetupM.call, hnoted]
  rcases op w with ⟨why | a, w'⟩
  · exact ⟨rfl, ⟨rfl, rfl⟩, h (.error why)⟩
  · exact ⟨rfl, ⟨rfl, rfl⟩, h (.ok a)⟩

variable {m : ServiceManager η} {service : String} {o : ControlOperation}
  {Course : List ControlCall → Except Halt Unit → Prop}

/-- **What is noted in an operation stands for what it does without notes**, and goes as the courses
of the operation go. -/
theorem watch (h : Watches (o.run m.noted service) (o.run m service) Course) (w : World η) :
    o.run m service w = ((o.watch m service w).result, (o.watch m service w).world) ∧
      Linked w.cancelled (o.watch m service w).notes (o.watch m service w).world.cancelled ∧
      Course (o.watch m service w).calls (o.watch m service w).result := by
  obtain ⟨notes, hrun, hlinked, hcourse⟩ := h w []
  have hwatch : o.watch m service w =
      ⟨notes, (o.run m service w).1, (o.run m service w).2⟩ := by
    rw [ControlOperation.watch, hrun]
    rfl
  rw [hwatch]
  exact ⟨rfl, hlinked, hcourse⟩

end Watches

end ServerSetup
