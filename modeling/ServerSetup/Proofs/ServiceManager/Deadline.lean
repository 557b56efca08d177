import ServerSetup.Proofs.ServiceManager.Cancellation
import ServerSetup.Settings.Document

/-!
# Waits whose end the clock cannot express

A wait that is limited in time ends at the time at which it began and the timeout added to it. The
settings allow any timeout, and the clock does not go on for ever: where the sum is beyond it, the
operation is broken off. This happens exactly if a wait begins too late for its timeout
(`halts_clockRange_iff`).

Two facts make the condition exact. Only the beginning of a wait computes a time
(`awaitState_eq_clockRange_iff`); queries, requests and pauses never run into the end of the clock.
And `Awaits` says in which worlds the waits of an operation begin, by following its calls up to
there: a wait that an operation does not come to does no harm, however long its timeout is.

The clock counts nanoseconds and its end is a number of seconds, so that the sum is compared in
seconds with the rest rounded off. As the timeout is in whole seconds this changes nothing
(`deadlineAt_eq_clockRange_iff`).
-/

namespace ServerSetup

/-! ### Failures of sequences -/

/-- A sequence fails as its first step does, or as the rest does behind it. -/
theorem StateExcept.bind_fst_eq_error_iff {ε σ α β : Type} {op : ExceptT ε (StateM σ) α}
    {f : α → ExceptT ε (StateM σ) β} {s : σ} {e : ε} : ((op >>= f) s).1 = .error e ↔
      (op s).1 = .error e ∨ ∃ a s₁, op s = (.ok a, s₁) ∧ (f a s₁).1 = .error e := by
  rw [bind_eq]
  rcases hop : op s with ⟨e' | a, s₁⟩
  · constructor
    · rintro ⟨⟩
      exact .inl rfl
    · rintro (⟨⟨⟩⟩ | ⟨_, _, hok, _⟩)
      · rfl
      · cases hok
  · constructor
    · intro h
      exact .inr ⟨a, s₁, rfl, h⟩
    · rintro (h | ⟨a', s₂, hok, h⟩)
      · cases h
      · cases hok
        exact h

/-- A wait that begins at this time would end at one that the clock cannot express. -/
def WaitSettings.Overruns (waiting : WaitSettings) (clock : Nat) : Prop :=
  ∃ timeout, waiting.timeoutSecs = some timeout ∧
    ServiceManager.maxClockSecs < clock / 1000000000 + timeout.toNat

variable {η : Type} {m : ServiceManager η} {service : String} {target : RunState} {w w' : World η}

namespace ServiceManager

/-! ### What a wait can run into -/

/-- The end of a wait is beyond the clock exactly if the wait begins too late for its timeout. -/
theorem deadlineAt_eq_clockRange_iff {waiting : WaitSettings} {clock : Nat} :
    deadlineAt waiting clock = .error .clockRange ↔ waiting.Overruns clock := by
  rw [deadlineAt, WaitSettings.Overruns]
  rcases waiting.timeoutSecs with - | timeout
  · refine iff_of_false (by rintro ⟨⟩) ?_
    rintro ⟨_, h, -⟩
    cases h
  · have hsecs : (clock + timeout.toNat * 1000000000) / 1000000000 =
        clock / 1000000000 + timeout.toNat := Nat.add_mul_div_right _ _ (by decide)
    dsimp only
    rw [hsecs]
    split
    · next h => exact iff_of_true rfl ⟨timeout, rfl, h⟩
    · next h =>
      refine iff_of_false (by rintro ⟨⟩) ?_
      rintro ⟨_, ⟨⟩, hlt⟩
      exact h hlt

/-- A call does not run into the end of the clock. -/
theorem call_ne_clockRange {α : Type} (wrap : Fault → OperationError) (op : HostM η α)
    (w : World η) : (SetupM.call wrap op w).1 ≠ .error .clockRange := by
  rw [SetupM.call]
  rcases op w with ⟨why | a, w'⟩
  · rintro ⟨⟩
  · rintro ⟨⟩

/-- Asking for the state of a service does not run into it. -/
theorem stateOf_ne_clockRange (w : World η) : (m.stateOf service w).1 ≠ .error .clockRange := by
  rw [stateOf, Ne, StateExcept.bind_fst_eq_error_iff]
  rintro (h | ⟨- | state, w', -, h⟩)
  · exact call_ne_clockRange _ _ _ h
  · cases h
  · cases h

/-- Polling does not run into it. -/
theorem poll_ne_clockRange (deadline : Option Nat) (queries : Nat) (w : World η) :
    (m.poll service target deadline queries w).1 ≠ .error .clockRange := by
  induction queries generalizing w with
  | zero => rintro ⟨⟩
  | succ queries ih =>
    rw [poll, Ne, StateExcept.bind_fst_eq_error_iff]
    rintro (h | ⟨state, w₁, -, h⟩)
    · exact stateOf_ne_clockRange w h
    · by_cases hstate : state = target
      · rw [if_pos hstate] at h
        cases h
      · rw [if_neg hstate] at h
        revert h
        show ((ite (deadline.any (· ≤ w₁.clock) = true) _ _ : SetupM η Unit) w₁).1 ≠ _
        split
        · rintro ⟨⟩
        · exact ih _

/-- A wait runs into the end of the clock only when it begins. -/
theorem awaitState_eq_clockRange_iff :
    (m.awaitState service target w).1 = .error .clockRange ↔ m.waiting.Overruns w.clock := by
  rw [awaitState, StateExcept.bind_fst_eq_error_iff, deadline_eq, deadlineAt_eq_clockRange_iff]
  refine or_iff_left ?_
  rintro ⟨deadline, w₁, -, h⟩
  exact poll_ne_clockRange deadline m.patience w₁ h

end ServiceManager

/-! ### Where waits begin -/

namespace Turn

variable {t : Turn}

theorem request_ne_clockRange (w : World η) :
    (t.request m service w).1 ≠ .error .clockRange := by
  cases t
  · exact ServiceManager.call_ne_clockRange _ _ w
  · exact ServiceManager.call_ne_clockRange _ _ w

/-- A turn that is taken in the first world begins a wait in the second: where it is under way
already, where the other one is, and behind its request. -/
inductive Awaits (t : Turn) (m : ServiceManager η) (service : String) (w : World η) :
    World η → Prop
  | pending {w' : World η} (hstate : m.stateOf service w = (.ok t.pending, w')) :
      Awaits t m service w w'
  | settling {w' : World η} (hstate : m.stateOf service w = (.ok t.other.pending, w')) :
      Awaits t m service w w'
  | settled {w₁ w₂ w' : World η} (hstate : m.stateOf service w = (.ok t.other.pending, w₁))
      (hwait : m.awaitState service t.other.goal w₁ = (.ok (), w₂))
      (hrequest : t.request m service w₂ = (.ok (), w')) : Awaits t m service w w'
  | requested {w₁ w' : World η} {state : RunState} (hstate : m.stateOf service w = (.ok state, w₁))
      (hpossible : t.PossibleIn state) (hrequest : t.request m service w₁ = (.ok (), w')) :
      Awaits t m service w w'

/-- Behind a request the goal is waited for. -/
theorem requested_eq_clockRange_iff : ((do
      t.request m service
      m.awaitState service t.goal : SetupM η Unit) w).1 = .error .clockRange ↔
    ∃ w', t.request m service w = (.ok (), w') ∧ m.waiting.Overruns w'.clock := by
  rw [StateExcept.bind_fst_eq_error_iff]
  refine (or_iff_right (request_ne_clockRange w)).trans ⟨?_, ?_⟩
  · rintro ⟨⟨⟩, w', hrequest, h⟩
    exact ⟨w', hrequest, ServiceManager.awaitState_eq_clockRange_iff.1 h⟩
  · rintro ⟨w', hrequest, h⟩
    exact ⟨(), w', hrequest, ServiceManager.awaitState_eq_clockRange_iff.2 h⟩

/-- **A turn runs into the end of the clock exactly if it begins a wait too late.** -/
theorem run_eq_clockRange_iff : (t.run m service w).1 = .error .clockRange ↔
    ∃ w', t.Awaits m service w w' ∧ m.waiting.Overruns w'.clock := by
  rw [run_eq, StateExcept.bind_fst_eq_error_iff]
  refine (or_iff_right (ServiceManager.stateOf_ne_clockRange w)).trans ⟨?_, ?_⟩
  · rintro ⟨state, w₁, hstate, h⟩
    -- The cases are those of the state that is seen first, in the order in which they are asked
    -- for.
    by_cases hgoal : state = t.goal
    · rw [if_pos hgoal] at h
      cases h
    rw [if_neg hgoal] at h
    by_cases hpending : state = t.pending
    · rw [if_pos hpending] at h
      subst hpending
      exact ⟨w₁, .pending hstate, ServiceManager.awaitState_eq_clockRange_iff.1 h⟩
    rw [if_neg hpending] at h
    by_cases hother : state = t.other.pending
    · rw [if_pos hother, StateExcept.bind_fst_eq_error_iff] at h
      subst hother
      rcases h with h | ⟨⟨⟩, w₂, hwait, h⟩
      · exact ⟨w₁, .settling hstate, ServiceManager.awaitState_eq_clockRange_iff.1 h⟩
      · obtain ⟨w', hrequest, h⟩ := requested_eq_clockRange_iff.1 h
        exact ⟨w', .settled hstate hwait hrequest, h⟩
    · rw [if_neg hother] at h
      obtain ⟨w', hrequest, h⟩ := requested_eq_clockRange_iff.1 h
      exact ⟨w', .requested hstate ⟨hgoal, hpending, hother⟩ hrequest, h⟩
  · rintro ⟨w', hawaits, h⟩
    have hwait (target : RunState) : (m.awaitState service target w').1 = .error .clockRange :=
      ServiceManager.awaitState_eq_clockRange_iff.2 h
    -- Each wait that can be reached fixes the first state, and so the way through the program.
    cases hawaits with
    | pending hstate =>
      refine ⟨_, w', hstate, ?_⟩
      rw [if_neg pending_ne_goal, if_pos rfl]
      exact hwait t.goal
    | settling hstate =>
      refine ⟨_, w', hstate, ?_⟩
      rw [if_neg other_pending_ne_goal, if_neg other_pending_ne_pending, if_pos rfl,
        StateExcept.bind_fst_eq_error_iff]
      exact .inl (hwait t.other.goal)
    | @settled w₁ w₂ _ hstate hsettled hrequest =>
      refine ⟨_, w₁, hstate, ?_⟩
      rw [if_neg other_pending_ne_goal, if_neg other_pending_ne_pending, if_pos rfl,
        StateExcept.bind_fst_eq_error_iff]
      exact .inr ⟨(), w₂, hsettled, requested_eq_clockRange_iff.2 ⟨w', hrequest, h⟩⟩
    | @requested w₁ _ state hstate hpossible hrequest =>
      refine ⟨state, w₁, hstate, ?_⟩
      rw [if_neg hpossible.1, if_neg hpossible.2.1, if_neg hpossible.2.2]
      exact requested_eq_clockRange_iff.2 ⟨w', hrequest, h⟩

end Turn

/-! ### Operations -/

namespace ControlOperation

/-- An operation that begins in the first world begins a wait in the second: in its turn, or, if it
is a restart, in its stop or in the start behind it. -/
inductive Awaits (m : ServiceManager η) (service : String) (w : World η) :
    ControlOperation → World η → Prop
  | turn {t : Turn} {w' : World η} (h : t.Awaits m service w w') : Awaits m service w (.turn t) w'
  | stop {w' : World η} (h : Turn.stop.Awaits m service w w') : Awaits m service w .restart w'
  | start {w₁ w' : World η} (hstop : m.stop service w = (.ok (), w₁))
      (h : Turn.start.Awaits m service w₁ w') : Awaits m service w .restart w'
  | stopUnlessCancelled {w' : World η} (hw : w.cancelled = false)
      (h : Turn.stop.Awaits m service w w') : Awaits m service w .restartUnlessCancelled w'
  | startUnlessCancelled {w₁ w' : World η} (hw : w.cancelled = false)
      (hstop : m.stop service w = (.ok (), w₁)) (hw₁ : w₁.cancelled = false)
      (h : Turn.start.Awaits m service w₁ w') : Awaits m service w .restartUnlessCancelled w'

/-- A restart runs into it exactly if one of its waits begins too late. -/
theorem restart_eq_clockRange_iff : (m.restart service w).1 = .error .clockRange ↔
    ∃ w', Awaits m service w .restart w' ∧ m.waiting.Overruns w'.clock := by
  rw [ServiceManager.restart, StateExcept.bind_fst_eq_error_iff]
  constructor
  · rintro (h | ⟨⟨⟩, w₁, hstop, h⟩)
    · obtain ⟨w', hawaits, h⟩ := (Turn.run_eq_clockRange_iff (t := .stop)).1 h
      exact ⟨w', .stop hawaits, h⟩
    · obtain ⟨w', hawaits, h⟩ := (Turn.run_eq_clockRange_iff (t := .start)).1 h
      exact ⟨w', .start hstop hawaits, h⟩
  · rintro ⟨w', hawaits, h⟩
    cases hawaits with
    | stop hawaits => exact .inl (Turn.run_eq_clockRange_iff.2 ⟨w', hawaits, h⟩)
    | start hstop hawaits =>
      exact .inr ⟨(), _, hstop, Turn.run_eq_clockRange_iff.2 ⟨w', hawaits, h⟩⟩

/-- What follows a check runs into it only if no cancellation was asked for. -/
theorem checkCancelled_bind_eq_clockRange_iff {f : Unit → SetupM η Unit} :
    ((ServiceManager.checkCancelled service >>= f) w).1 = .error .clockRange ↔
      w.cancelled = false ∧ (f () w).1 = .error .clockRange := by
  rw [StateExcept.bind_eq, ServiceManager.checkCancelled_eq]
  rcases w.cancelled with - | -
  · exact (and_iff_right rfl).symm
  · refine iff_of_false (by rintro ⟨⟩) ?_
    rintro ⟨⟨⟩, -⟩

/-- A restart that can be cancelled runs into it exactly if one of its waits begins too late. -/
theorem restartUnlessCancelled_eq_clockRange_iff :
    (m.restartUnlessCancelled service w).1 = .error .clockRange ↔
      ∃ w', Awaits m service w .restartUnlessCancelled w' ∧ m.waiting.Overruns w'.clock := by
  rw [ServiceManager.restartUnlessCancelled, checkCancelled_bind_eq_clockRange_iff,
    StateExcept.bind_fst_eq_error_iff]
  simp only [checkCancelled_bind_eq_clockRange_iff]
  constructor
  · rintro ⟨hw, h | ⟨⟨⟩, w₁, hstop, hw₁, h⟩⟩
    · obtain ⟨w', hawaits, h⟩ := (Turn.run_eq_clockRange_iff (t := .stop)).1 h
      exact ⟨w', .stopUnlessCancelled hw hawaits, h⟩
    · obtain ⟨w', hawaits, h⟩ := (Turn.run_eq_clockRange_iff (t := .start)).1 h
      exact ⟨w', .startUnlessCancelled hw hstop hw₁ hawaits, h⟩
  · rintro ⟨w', hawaits, h⟩
    cases hawaits with
    | stopUnlessCancelled hw hawaits =>
      exact ⟨hw, .inl (Turn.run_eq_clockRange_iff.2 ⟨w', hawaits, h⟩)⟩
    | startUnlessCancelled hw hstop hw₁ hawaits =>
      exact ⟨hw, .inr ⟨(), _, hstop, hw₁, Turn.run_eq_clockRange_iff.2 ⟨w', hawaits, h⟩⟩⟩

end ControlOperation

namespace ServiceManager

/-- **An operation runs into the end of the clock exactly if it begins a wait too late for the
timeout.** Without a timeout it never does. -/
theorem halts_clockRange_iff {η : Type} (o : ControlOperation) (m : ServiceManager η)
    (service : String) (w : World η) : (o.run m service w).1 = .error .clockRange ↔
      ∃ w', o.Awaits m service w w' ∧ m.waiting.Overruns w'.clock := by
  cases o with
  | turn t =>
    refine Turn.run_eq_clockRange_iff.trans (exists_congr fun w' ↦ and_congr_left fun _ ↦ ?_)
    refine ⟨.turn, fun h ↦ ?_⟩
    cases h with
    | turn h => exact h
  | restart => exact ControlOperation.restart_eq_clockRange_iff
  | restartUnlessCancelled => exact ControlOperation.restartUnlessCancelled_eq_clockRange_iff

end ServiceManager

namespace Rehearsal

/-- Settings with the longest timeout are read, and with them a service cannot even be started. -/
theorem start_clockRange :
    ((Settings.ofBytes? (Text.bytesOf
        "\x7b\"control\":\x7b\"transition_timeout_secs\":18446744073709551615\x7d\x7d")).map
      fun settings ↦ settings.waiting.timeoutSecs) = some (some 18446744073709551615) ∧
    ((ControlOperation.turn .start).run
        { manager with waiting.timeoutSecs := some 18446744073709551615, patience := 2 } "svc"
        { worldWith [] with host := { states := [("svc", .stopped)], notes := () } }).1 =
      .error .clockRange :=
  ⟨by decide +kernel, rfl⟩

end Rehearsal

end ServerSetup
