import ServerSetup.Proofs.ServiceManager.Requests
import ServerSetup.Proofs.Rehearsal

/-!
# Where the goal of a turn does not end it

Starting and stopping end as soon as a query says that the goal is reached, with one exception:
while a turn waits for the other one to come to its end, it does not look for its own goal. A
service that is first seen starting, fails to start and stops has not stopped in the eyes of the
operation that is to stop it.

The statement is about the calls that an operation made and its result. `EndedBy` says that a call,
wherever it stands among them, is the last one and the operation succeeds; it is empty if the call
was not made. A wait is ended by the first answer with its target (`Waiting.endedBy`). A turn has a
wait for the other turn in front, whose target is another state, so that an answer with the goal of
the turn passes there unnoticed. `Overtaken` describes these calls, and the condition is exact: the
goal ends the operation in all its courses but those.
-/

namespace ServerSetup

/-! ### Calls that end an operation -/

/-- A call ends an operation: nothing is asked behind it, and the operation succeeds. -/
def EndedBy (last : ControlCall) (calls : List ControlCall) (result : Except Halt Unit) : Prop :=
  ∀ before behind, calls = before ++ last :: behind → behind = [] ∧ result = .ok ()

namespace EndedBy

variable {last call : ControlCall} {calls front : List ControlCall} {result : Except Halt Unit}

theorem of_notMem (h : last ∉ calls) : EndedBy last calls result := by
  rintro before behind rfl
  exact absurd (by simp) h

/-- An operation of one call that succeeds is ended by it. -/
theorem self : EndedBy last [last] (.ok ()) := by
  rintro (- | ⟨call, before⟩) behind hsplit
  · cases hsplit
    exact ⟨rfl, rfl⟩
  · cases before <;> cases hsplit

/-- A call in front that is another one makes no difference. -/
theorem cons (hne : call ≠ last) (h : EndedBy last calls result) :
    EndedBy last (call :: calls) result := by
  rintro (- | ⟨call', before⟩) behind hsplit
  · cases hsplit
    exact absurd rfl hne
  · cases hsplit
    exact h before behind rfl

/-- Several calls in front make none, either. -/
theorem append (hfront : last ∉ front) (h : EndedBy last calls result) :
    EndedBy last (front ++ calls) result := by
  induction front with
  | nil => exact h
  | cons call front ih =>
    rw [List.mem_cons, not_or] at hfront
    exact (ih hfront.2).cons fun hcall ↦ hfront.1 hcall.symm

/-- If a call ends an operation, then the operation fails only where that call was not made. -/
theorem notMem {halt : Halt} (h : EndedBy last calls (.error halt)) : last ∉ calls := by
  intro hlast
  obtain ⟨before, behind, hsplit⟩ := List.append_of_mem hlast
  exact nomatch (h before behind hsplit).2

end EndedBy

theorem ControlCall.status_ne {service : String} {state state' : RunState} (h : state ≠ state') :
    ControlCall.status service (.ok (some state)) ≠ .status service (.ok (some state')) := by
  rintro ⟨⟩
  exact h rfl

theorem Turn.call_ne_status {t : Turn} {service service' : String} {answer : Except Fault Unit}
    {answer' : Except Fault (Option RunState)} :
    t.call service answer ≠ .status service' answer' := by
  cases t <;> exact nofun

/-! ### Waits -/

namespace Waiting

variable {service : String} {target : RunState} {limited : Bool} {calls : List ControlCall}
  {result : Except Halt Unit}

/-- A wait ends with the first answer that its target is reached. -/
theorem endedBy (h : Waiting service target limited calls result) :
    EndedBy (.status service (.ok (some target))) calls result := by
  induction h with
  | outOfPatience => exact .of_notMem List.not_mem_nil
  | clockRange => exact .of_notMem List.not_mem_nil
  | failed why => exact .of_notMem (by simp)
  | missing => exact .of_notMem (by simp)
  | reached => exact .self
  | timedOut state hstate =>
    exact .of_notMem fun hmem ↦ ControlCall.status_ne hstate.symm (List.mem_singleton.1 hmem)
  | again state hstate _ ih => exact ih.cons (ControlCall.status_ne hstate)

end Waiting

/-! ### Turns -/

namespace Turn

variable {t : Turn} {service : String} {limited : Bool}

/-- The other turn is under way at first, and the goal is seen before the goal of the other turn. -/
def Overtaken (t : Turn) (service : String) (calls : List ControlCall) : Prop :=
  ∃ waited behind, calls = .status service (.ok (some t.other.pending)) ::
      (waited ++ .status service (.ok (some t.goal)) :: behind) ∧
    .status service (.ok (some t.other.goal)) ∉ waited

/-- Where the goal is seen before the request, it was reached while the other turn was awaited. -/
theorem Ready.overtaken {before : List ControlCall} (h : t.Ready service limited before)
    (hgoal : .status service (.ok (some t.goal)) ∈ before) (rest : List ControlCall) :
    t.Overtaken service (before ++ rest) := by
  cases h with
  | atOnce state hstate =>
    exact absurd (List.mem_singleton.1 hgoal) (ControlCall.status_ne hstate.symm)
  | @settled calls hrest =>
    have hcalls : .status service (.ok (some t.goal)) ∈ calls :=
      (List.mem_cons.1 hgoal).resolve_left (ControlCall.status_ne other_pending_ne_goal.symm)
    obtain ⟨waited, behind, rfl⟩ := List.append_of_mem hcalls
    refine ⟨waited, behind ++ rest, by simp, fun hother ↦ ?_⟩
    -- The wait for the other turn has not ended before the goal was seen.
    obtain ⟨front, back, rfl⟩ := List.append_of_mem hother
    obtain ⟨hback, -⟩ := hrest.endedBy front (back ++ .status service (.ok (some t.goal)) :: behind)
      (by simp)
    exact absurd hback (by simp)

end Turn

namespace Turning

variable {t : Turn} {service : String} {limited : Bool} {calls : List ControlCall}
  {result : Except Halt Unit}

/-- A turn that is not overtaken ends with the first answer that its goal is reached. -/
theorem endedBy (h : Turning t service limited calls result)
    (hovertaken : ¬t.Overtaken service calls) :
    EndedBy (.status service (.ok (some t.goal))) calls result := by
  cases h with
  | failed why => exact .of_notMem (by simp)
  | missing => exact .of_notMem (by simp)
  | there => exact .self
  | pending hrest => exact hrest.endedBy.cons (ControlCall.status_ne Turn.pending_ne_goal)
  | unsettled hrest =>
    refine .of_notMem fun hgoal ↦ hovertaken ?_
    have hrestGoal := (List.mem_cons.1 hgoal).resolve_left
      (ControlCall.status_ne Turn.other_pending_ne_goal.symm)
    obtain ⟨waited, behind, rfl⟩ := List.append_of_mem hrestGoal
    exact ⟨waited, behind, rfl, fun hother ↦
      hrest.endedBy.notMem (List.mem_append_left _ hother)⟩
  | refused why hbefore =>
    refine EndedBy.append (fun hgoal ↦ hovertaken (hbefore.overtaken hgoal _)) (.of_notMem ?_)
    exact fun hmem ↦ Turn.call_ne_status (List.mem_singleton.1 hmem).symm
  | requested hbefore hrest =>
    refine EndedBy.append (fun hgoal ↦ hovertaken (hbefore.overtaken hgoal _)) ?_
    exact hrest.endedBy.cons Turn.call_ne_status

/-- A turn that succeeds where the other one was under way has seen the other one come to its
end. -/
theorem other_goal_mem (h : Turning t service limited calls (.ok ()))
    (hfirst : calls.head? = some (.status service (.ok (some t.other.pending)))) :
    .status service (.ok (some t.other.goal)) ∈ calls := by
  cases h with
  | there =>
    exact absurd (Option.some.inj hfirst) (ControlCall.status_ne Turn.other_pending_ne_goal.symm)
  | pending =>
    exact absurd (Option.some.inj hfirst) (ControlCall.status_ne Turn.other_pending_ne_pending.symm)
  | requested hbefore =>
    cases hbefore with
    | atOnce state _ _ hother =>
      exact absurd (Option.some.inj hfirst) (ControlCall.status_ne hother)
    | settled hrest =>
      obtain ⟨front, rfl⟩ := hrest.concluded.eq_append
      simp

/-- An overtaken turn does not end with the first answer that its goal is reached. -/
theorem not_endedBy (h : Turning t service limited calls result)
    (hovertaken : t.Overtaken service calls) :
    ¬EndedBy (.status service (.ok (some t.goal))) calls result := by
  intro hended
  obtain ⟨waited, behind, rfl, hwaited⟩ := hovertaken
  obtain ⟨rfl, rfl⟩ := hended (.status service (.ok (some t.other.pending)) :: waited) behind rfl
  rcases List.mem_cons.1 (h.other_goal_mem rfl) with hfirst | hmem
  · exact ControlCall.status_ne Turn.pending_ne_goal.symm hfirst
  rcases List.mem_append.1 hmem with hmem | hmem
  · exact hwaited hmem
  · exact ControlCall.status_ne Turn.other_goal_ne_goal (List.mem_singleton.1 hmem)

end Turning

/-- **A turn ends with the first answer that its goal is reached, unless it is overtaken**: unless
the other turn was under way at first and the goal is seen before that one has come to its end. Then
it goes on. -/
theorem ServiceManager.endedBy_goal_iff {η : Type} (m : ServiceManager η) (service : String)
    (w : World η) (t : Turn) :
    let r := (ControlOperation.turn t).watch m service w
    t.run m service w = (r.result, r.world) ∧
      (EndedBy (.status service (.ok (some t.goal))) r.calls r.result ↔
        ¬t.Overtaken service r.calls) := by
  obtain ⟨hrun, -, hcourse⟩ := Watches.watch (o := .turn t) Turn.watches_run w
  exact ⟨hrun, fun hended hovertaken ↦ hcourse.not_endedBy hovertaken hended, hcourse.endedBy⟩

namespace Rehearsal

/-- A machine with a service that is starting when it is first seen and has stopped when it is seen
again: its start has failed. -/
def failedStart : World (Machine Unit) :=
  { worldWith [] with
    host :=
      { states := [("svc", .stopped)]
        scripts := [("svc", [.state .startPending, .state .stopped])]
        notes := () } }

/-- A manager that does not wait after its first look. -/
def impatient : ServiceManager (Machine Unit) :=
  { manager with waiting := { timeoutSecs := some 0 }, patience := 1 }

/-- The service has stopped, and stopping it fails because it does not run. -/
theorem stop_failedStart :
    let r := (ControlOperation.turn .stop).watch impatient "svc" failedStart
    r.calls = [.status "svc" (.ok (some .startPending)), .status "svc" (.ok (some .stopped))] ∧
      r.result = .error (.failed (.transitionTimeout "svc" .running)) ∧
      ¬EndedBy (.status "svc" (.ok (some .stopped))) r.calls r.result := by
  refine ⟨rfl, rfl, fun hended ↦ ?_⟩
  exact nomatch (hended [.status "svc" (.ok (some .startPending))] [] rfl).2

end Rehearsal

end ServerSetup
