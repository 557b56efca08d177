import ServerSetup.Proofs.ServiceManager.Notes

/-!
# The courses of starting and stopping a service

Whatever the control of services answers, an operation goes one of a few ways. A wait queries a
service until it is in the awaited state (`Waiting`); a turn queries it, may wait for the other turn
to come to its end, makes its request and waits for its goal (`Turning`); a restart is one turn
after the other (`Restarting`).

A course is the calls that were made, with their answers, and the result. It is what can be seen of
an operation from the side of the control of services, and the relations list the courses without
mention of the clock, the settings or the state of the host. `Watches` connects them with the
operations: an operation that notes its calls does the same as the operation itself, and its notes
and its result are a course. There is one such lemma for each function, put together from those of
the functions that it calls.

The relations allow more than happens. A wait may time out at any answer if waits are limited at
all, as nothing is said about how long a call takes. So what holds of all courses holds of every
operation.
-/

namespace ServerSetup

/-! ### Waits -/

/-- The courses of a wait for a state; `limited` tells whether waits are limited in time. -/
inductive Waiting (service : String) (target : RunState) (limited : Bool) :
    List ControlCall → Except Halt Unit → Prop
  /-- More queries are needed than can be waited for. -/
  | outOfPatience : Waiting service target limited [] (.error .outOfPatience)
  /-- The end of the wait is a time that the clock cannot express. -/
  | clockRange (hlimited : limited = true) :
    Waiting service target limited [] (.error .clockRange)
  | failed (why : Fault) :
    Waiting service target limited [.status service (.error why)]
      (.error (.failed (.serviceControl service why)))
  | missing :
    Waiting service target limited [.status service (.ok none)]
      (.error (.failed (.serviceNotFound service)))
  | reached : Waiting service target limited [.status service (.ok (some target))] (.ok ())
  | timedOut (state : RunState) (hstate : state ≠ target) (hlimited : limited = true) :
    Waiting service target limited [.status service (.ok (some state))]
      (.error (.failed (.transitionTimeout service target)))
  | again (state : RunState) {rest : List ControlCall} {result : Except Halt Unit}
      (hstate : state ≠ target) (hrest : Waiting service target limited rest result) :
    Waiting service target limited (.status service (.ok (some state)) :: rest) result

namespace ServiceManager

variable {η : Type} {m : ServiceManager η} {service : String} {target : RunState}

/-- What a query for a state comes to. -/
def stateIn (service : String) : Except Fault (Option RunState) → Except Halt RunState
  | .error why => .error (.failed (.serviceControl service why))
  | .ok none => .error (.failed (.serviceNotFound service))
  | .ok (some state) => .ok state

/-- Asking for the state of a service is one query. -/
theorem watches_stateOf : Watches (m.noted.stateOf service) (m.stateOf service)
    fun calls r ↦ ∃ answer, calls = [.status service answer] ∧ r = stateIn service answer := by
  refine Watches.bind (N := fun state calls r ↦ calls = [] ∧ r = stateIn service (.ok state))
    (Watches.call fun answer ↦ ⟨answer, rfl, rfl⟩ : Watches _ _ fun calls r ↦
      ∃ answer, calls = [.status service answer] ∧
        r = answer.mapError fun why ↦ .failed (.serviceControl service why)) ?_ ?_ ?_
  · rintro (- | state)
    · exact .throw _ ⟨rfl, rfl⟩
    · exact .pure _ ⟨rfl, rfl⟩
  · rintro calls e ⟨why | state, rfl, h⟩
    · cases h
      exact ⟨.error why, rfl, rfl⟩
    · cases h
  · rintro calls state rest r ⟨why | state', rfl, h⟩ ⟨rfl, rfl⟩
    · cases h
    · cases h
      exact ⟨_, rfl, rfl⟩

/-- What begins with a query goes on with the state that was found, if there is one. -/
theorem watches_query {α : Type} {next : RunState → SetupM (Noted η) α}
    {next' : RunState → SetupM η α} {Course : List ControlCall → Except Halt α → Prop}
    (hfailed : ∀ why, Course [.status service (.error why)]
      (.error (.failed (.serviceControl service why))))
    (hmissing : Course [.status service (.ok none)] (.error (.failed (.serviceNotFound service))))
    (hnext : ∀ state, Watches (next state) (next' state)
      fun rest r ↦ Course (.status service (.ok (some state)) :: rest) r) :
    Watches (m.noted.stateOf service >>= next) (m.stateOf service >>= next') Course := by
  refine watches_stateOf.bind hnext ?_ ?_
  · rintro calls e ⟨why | - | state, rfl, h⟩
    · cases h
      exact hfailed why
    · cases h
      exact hmissing
    · cases h
  · rintro calls state rest r ⟨why | - | state', rfl, h⟩ hrest
    · cases h
    · cases h
    · cases h
      exact hrest

/-- The end of a wait that starts at a time, if waits are limited. -/
def deadlineAt (waiting : WaitSettings) (clock : Nat) : Except Halt (Option Nat) :=
  match waiting.timeoutSecs with
  | none => .ok none
  | some timeout =>
    let stop := clock + timeout.toNat * 1000000000
    if maxClockSecs < stop / 1000000000 then .error .clockRange else .ok (some stop)

/-- The end of a wait is computed from the time, and nothing else happens. -/
theorem deadline_eq (w : World η) : m.deadline w = (deadlineAt m.waiting w.clock, w) := by
  rw [deadline, deadlineAt]
  rcases m.waiting.timeoutSecs with - | timeout
  · rfl
  · dsimp only
    rw [SetupM.get_bind_eq]
    by_cases hstop : maxClockSecs < (w.clock + timeout.toNat * 1000000000) / 1000000000
    · rw [if_pos hstop, if_pos hstop]
      rfl
    · rw [if_neg hstop, if_neg hstop]
      rfl

/-- A wait starts with an end if waits are limited. -/
theorem deadlineAt_cases (waiting : WaitSettings) (clock : Nat) :
    deadlineAt waiting clock = .error .clockRange ∧ waiting.timeoutSecs.isSome = true ∨
      ∃ deadline, deadlineAt waiting clock = .ok deadline ∧
        deadline.isSome = waiting.timeoutSecs.isSome := by
  rw [deadlineAt]
  rcases waiting.timeoutSecs with - | timeout
  · exact .inr ⟨none, rfl, rfl⟩
  · dsimp only
    split
    · exact .inl ⟨rfl, rfl⟩
    · exact .inr ⟨_, rfl, rfl⟩

/-- To compute it, nothing is asked. -/
theorem watches_deadline : Watches m.noted.deadline m.deadline fun calls r ↦ calls = [] ∧
    (r = .error .clockRange ∧ m.waiting.timeoutSecs.isSome = true ∨
      ∃ deadline, r = .ok deadline ∧ deadline.isSome = m.waiting.timeoutSecs.isSome) := by
  refine .quiet (fun w past ↦ ?_) (fun w ↦ ?_) fun w ↦ ⟨rfl, ?_⟩
  · rw [deadline_eq, deadline_eq]
    rfl
  · rw [deadline_eq]
  · rw [deadline_eq]
    exact deadlineAt_cases m.waiting w.clock

-- The time that passes is kept abstract: the two sides of an equation about a pause are not to be
-- told apart by multiplying out its nanoseconds.
theorem pause_eq (w : World η) : ∃ time, m.pause w = (.ok (), { w with clock := time }) ∧
    ∀ past, m.noted.pause (w.noting past) = (.ok (), { w.noting past with clock := time }) :=
  ⟨_, rfl, fun _ ↦ rfl⟩

/-- In a pause nothing is asked. -/
theorem watches_pause : Watches m.noted.pause m.pause fun calls r ↦ calls = [] ∧ r = .ok () := by
  intro w past
  obtain ⟨time, hplain, hnoted⟩ := m.pause_eq w
  rw [hplain, hnoted]
  exact ⟨[], by rw [List.append_nil]; rfl, rfl, rfl, rfl⟩

/-- Polling goes the courses of a wait. -/
theorem watches_poll (deadline : Option Nat) (queries : Nat) :
    Watches (m.noted.poll service target deadline queries) (m.poll service target deadline queries)
      (Waiting service target deadline.isSome) := by
  induction queries with
  | zero => exact .throw _ .outOfPatience
  | succ queries ih =>
    refine watches_query .failed .missing fun state ↦ ?_
    by_cases hstate : state = target
    · simp only [if_pos hstate]
      rw [hstate]
      exact .pure _ .reached
    · simp only [if_neg hstate]
      refine .read fun w past ↦ ?_
      show Watches (ite (deadline.any (· ≤ w.clock) = true) _ _)
        (ite (deadline.any (· ≤ w.clock) = true) _ _) _
      split
      · next hlate =>
        have hlimited : deadline.isSome = true := by
          rcases deadline with - | stop
          · cases hlate
          · rfl
        exact .throw _ (.timedOut state hstate hlimited)
      · refine watches_pause.bind (fun _ ↦ ih) ?_ ?_
        · rintro calls e ⟨-, h⟩
          cases h
        · rintro calls a rest r ⟨rfl, -⟩ hrest
          exact .again state hstate hrest

/-- Waiting for a state goes the courses of a wait. -/
theorem watches_awaitState : Watches (m.noted.awaitState service target)
    (m.awaitState service target) (Waiting service target m.waiting.timeoutSecs.isSome) := by
  refine watches_deadline.bind (fun deadline ↦ watches_poll deadline m.patience) ?_ ?_
  · rintro calls e ⟨rfl, ⟨h, hlimited⟩ | ⟨deadline, h, -⟩⟩
    · cases h
      exact .clockRange hlimited
    · cases h
  · rintro calls deadline rest r ⟨rfl, ⟨h, -⟩ | ⟨deadline', h, hlimited⟩⟩ hrest
    · cases h
    · cases h
      rwa [hlimited] at hrest

end ServiceManager

/-! ### Turns -/

/-- The calls that a turn makes before its request: it is made at once, or when the other turn has
come to its end. -/
inductive Turn.Ready (t : Turn) (service : String) (limited : Bool) : List ControlCall → Prop
  | atOnce (state : RunState) (hgoal : state ≠ t.goal) (hpending : state ≠ t.pending)
      (hother : state ≠ t.other.pending) :
    Ready t service limited [.status service (.ok (some state))]
  | settled {rest : List ControlCall}
      (hrest : Waiting service t.other.goal limited rest (.ok ())) :
    Ready t service limited (.status service (.ok (some t.other.pending)) :: rest)

/-- The courses of a turn. -/
inductive Turning (t : Turn) (service : String) (limited : Bool) :
    List ControlCall → Except Halt Unit → Prop
  | failed (why : Fault) :
    Turning t service limited [.status service (.error why)]
      (.error (.failed (.serviceControl service why)))
  | missing :
    Turning t service limited [.status service (.ok none)]
      (.error (.failed (.serviceNotFound service)))
  | there : Turning t service limited [.status service (.ok (some t.goal))] (.ok ())
  | pending {rest : List ControlCall} {result : Except Halt Unit}
      (hrest : Waiting service t.goal limited rest result) :
    Turning t service limited (.status service (.ok (some t.pending)) :: rest) result
  | unsettled {rest : List ControlCall} {halt : Halt}
      (hrest : Waiting service t.other.goal limited rest (.error halt)) :
    Turning t service limited (.status service (.ok (some t.other.pending)) :: rest)
      (.error halt)
  | refused {before : List ControlCall} (why : Fault)
      (hbefore : t.Ready service limited before) :
    Turning t service limited (before ++ [t.call service (.error why)])
      (.error (.failed (.serviceControl service why)))
  | requested {before rest : List ControlCall} {result : Except Halt Unit}
      (hbefore : t.Ready service limited before)
      (hrest : Waiting service t.goal limited rest result) :
    Turning t service limited (before ++ t.call service (.ok ()) :: rest) result

namespace Turn

variable {η : Type} {m : ServiceManager η} {service : String} {t : Turn}

/-- Both turns are made in the same way. -/
theorem run_eq : t.run m service = (do
    let state ← m.stateOf service
    if state = t.goal then pure ()
    else if state = t.pending then m.awaitState service t.goal
    else if state = t.other.pending then do
      m.awaitState service t.other.goal
      t.request m service
      m.awaitState service t.goal
    else do
      t.request m service
      m.awaitState service t.goal) := by
  cases t
  · show m.start service = _
    rw [ServiceManager.start]
    refine congrArg (m.stateOf service >>= ·) (funext fun state ↦ ?_)
    cases state <;> rfl
  · show m.stop service = _
    rw [ServiceManager.stop]
    refine congrArg (m.stateOf service >>= ·) (funext fun state ↦ ?_)
    cases state <;> rfl

theorem watches_request : Watches (t.request m.noted service) (t.request m service)
    fun calls r ↦ ∃ answer, calls = [t.call service answer] ∧
      r = answer.mapError fun why ↦ .failed (.serviceControl service why) := by
  cases t
  · exact .call fun answer ↦ ⟨answer, rfl, rfl⟩
  · exact .call fun answer ↦ ⟨answer, rfl, rfl⟩

/-- The calls that follow when a turn is ready for its request. What was called before is left open,
as a turn gets ready in two ways. -/
theorem watches_requested :
    Watches (do t.request m.noted service; m.noted.awaitState service t.goal)
      (do t.request m service; m.awaitState service t.goal)
      fun rest r ↦ ∀ before, t.Ready service m.waiting.timeoutSecs.isSome before →
        Turning t service m.waiting.timeoutSecs.isSome (before ++ rest) r := by
  refine watches_request.bind (fun _ ↦ ServiceManager.watches_awaitState) ?_ ?_
  · rintro calls e ⟨why | ⟨⟩, rfl, h⟩ before hbefore
    · cases h
      exact .refused why hbefore
    · cases h
  · rintro calls a rest r ⟨why | ⟨⟩, rfl, h⟩ hrest before hbefore
    · cases h
    · exact .requested hbefore hrest

/-- **A turn goes one of these ways**, whatever the control answers. -/
theorem watches_run : Watches (t.run m.noted service) (t.run m service)
    (Turning t service m.waiting.timeoutSecs.isSome) := by
  rw [run_eq, run_eq]
  refine ServiceManager.watches_query .failed .missing fun state ↦ ?_
  by_cases hgoal : state = t.goal
  · simp only [if_pos hgoal]
    exact .pure _ (hgoal ▸ .there)
  · by_cases hpending : state = t.pending
    · simp only [if_neg hgoal, if_pos hpending]
      refine ServiceManager.watches_awaitState.mono fun rest r hrest ↦ ?_
      rw [hpending]
      exact .pending hrest
    · by_cases hother : state = t.other.pending
      · simp only [if_neg hgoal, if_neg hpending, if_pos hother]
        refine ServiceManager.watches_awaitState.bind (fun _ ↦ watches_requested) ?_ ?_
        · rintro calls e hrest
          rw [hother]
          exact .unsettled hrest
        · rintro calls ⟨⟩ rest r hbefore hrest
          rw [hother]
          exact hrest _ (.settled hbefore)
      · simp only [if_neg hgoal, if_neg hpending, if_neg hother]
        exact watches_requested.mono fun rest r hrest ↦
          hrest _ (.atOnce state hgoal hpending hother)

end Turn

/-! ### Restarts -/

/-- The courses of a restart. -/
inductive Restarting (service : String) (limited : Bool) :
    List ControlCall → Except Halt Unit → Prop
  | unstopped {calls : List ControlCall} {halt : Halt}
      (hstop : Turning .stop service limited calls (.error halt)) :
    Restarting service limited calls (.error halt)
  | stopped {calls rest : List ControlCall} {result : Except Halt Unit}
      (hstop : Turning .stop service limited calls (.ok ()))
      (hstart : Turning .start service limited rest result) :
    Restarting service limited (calls ++ rest) result

theorem ServiceManager.watches_restart {η : Type} {m : ServiceManager η} {service : String} :
    Watches (m.noted.restart service) (m.restart service)
      (Restarting service m.waiting.timeoutSecs.isSome) :=
  (Turn.watches_run (t := .stop)).bind (fun _ ↦ Turn.watches_run (t := .start))
    (fun _ _ hstop ↦ .unstopped hstop) fun _ _ _ _ hstop hstart ↦ .stopped hstop hstart

end ServerSetup
