import ServerSetup.Proofs.ServiceManager.Courses

/-!
# Requests are made when they make sense

Whatever the control of services answers, a turn makes its request at most once, and only directly
behind the answer that the service is in a state from which it can be made. An operation succeeds
only if the goal is what it saw last, and the error of one that fails is what its last call was
answered.

These properties are stated of the calls of an operation and its result, and collected in `Orderly`.
It takes a list of turns: a start or a stop is one turn, and a restart is a stop and a start. Two
courses that follow on one another are orderly for the turns of both (`Orderly.append`), and one
that fails is orderly for more turns than it came to (`Orderly.giveUp`), which is all that a restart
needs.

A turn is taken apart at its request. In front there is one query, or a wait for the other turn to
come to its end (`Ready`), and the last answer there is a state in which the turn can be asked for.
Behind it there is a wait for the goal. Waits consist of queries, so the request is the only one
(`Waiting.queries`).
-/

namespace ServerSetup

/-! ### What calls are -/

namespace ControlCall

/-- The service that a call is about. -/
def service : ControlCall → String
  | status service _ => service
  | start service _ => service
  | stop service _ => service

/-- The turn that a call asks for. -/
def request? : ControlCall → Option Turn
  | status .. => none
  | start .. => some .start
  | stop .. => some .stop

/-- Why a call failed. -/
def fault? : ControlCall → Option Fault
  | status _ (.error why) => some why
  | start _ (.error why) => some why
  | stop _ (.error why) => some why
  | _ => none

/-- The requests among calls. -/
def requests (calls : List ControlCall) : List Turn := calls.filterMap request?

theorem requests_append (calls rest : List ControlCall) :
    requests (calls ++ rest) = requests calls ++ requests rest :=
  List.filterMap_append

end ControlCall

namespace Turn

variable {t : Turn} {service : String}

theorem call_service (answer : Except Fault Unit) : (t.call service answer).service = service := by
  cases t <;> rfl

theorem call_request? (answer : Except Fault Unit) :
    (t.call service answer).request? = some t := by
  cases t <;> rfl

theorem call_fault? (why : Fault) : (t.call service (.error why)).fault? = some why := by
  cases t <;> rfl

/-- A turn can be asked for when a service is neither where it leads nor on the way anywhere. -/
def PossibleIn (t : Turn) (state : RunState) : Prop :=
  state ≠ t.goal ∧ state ≠ t.pending ∧ state ≠ t.other.pending

/-- Where the other turn has come to its end, a turn can be asked for. -/
theorem possibleIn_other_goal : t.PossibleIn t.other.goal := by
  cases t <;> exact ⟨by decide, by decide, by decide⟩

theorem pending_ne_goal : t.pending ≠ t.goal := by
  cases t <;> decide

theorem other_pending_ne_goal : t.other.pending ≠ t.goal := by
  cases t <;> decide

theorem other_pending_ne_pending : t.other.pending ≠ t.pending := by
  cases t <;> decide

theorem other_goal_ne_goal : t.other.goal ≠ t.goal := by
  cases t <;> decide

/-- The state that is waited for behind calls of a turn: where the other turn was under way at first
and no request is made yet, its goal, and else the turn's own. -/
def awaited (t : Turn) (calls : List ControlCall) : RunState :=
  match calls.head?, ControlCall.requests calls with
  | some (.status _ (.ok (some state))), [] =>
    if state = t.other.pending then t.other.goal else t.goal
  | _, _ => t.goal

theorem awaited_cons {state : RunState} {rest : List ControlCall}
    (hrest : ControlCall.requests rest = []) :
    t.awaited (.status service (.ok (some state)) :: rest) =
      if state = t.other.pending then t.other.goal else t.goal := by
  have hrequests : ControlCall.requests (.status service (.ok (some state)) :: rest) = [] := hrest
  rw [awaited, hrequests]
  rfl

/-- Behind the request the goal of the turn is waited for. -/
theorem awaited_request {before rest : List ControlCall} {answer : Except Fault Unit} :
    t.awaited (before ++ t.call service answer :: rest) = t.goal := by
  have hrequests : ControlCall.requests (before ++ t.call service answer :: rest) =
      ControlCall.requests before ++ t :: ControlCall.requests rest := by
    rw [ControlCall.requests_append]
    exact congrArg _ (List.filterMap_cons_some (call_request? answer))
  rw [awaited, hrequests]
  split
  · next hnone => exact absurd hnone (by simp)
  · rfl

end Turn

/-- Each request comes directly behind the answer that the service is in a state from which it can
be made. -/
def Prompted (service : String) (calls : List ControlCall) : Prop :=
  ∀ before call behind t, calls = before ++ call :: behind → call.request? = some t →
    ∃ earlier state, before = earlier ++ [.status service (.ok (some state))] ∧ t.PossibleIn state

/-- The calls are queries of a service. -/
def Queries (service : String) (calls : List ControlCall) : Prop :=
  ∀ call ∈ calls, ∃ answer, call = .status service answer

namespace Prompted

variable {service : String} {calls rest : List ControlCall}

/-- Calls that follow on others, each prompted, are prompted together. -/
theorem append (h : Prompted service calls) (hrest : Prompted service rest) :
    Prompted service (calls ++ rest) := by
  intro before call behind t hsplit hcall
  obtain ⟨between, rfl, htail⟩ | ⟨between, rfl, htail⟩ := List.append_eq_append_iff.1 hsplit
  · obtain ⟨earlier, state, rfl, hstate⟩ := hrest between call behind t htail hcall
    exact ⟨calls ++ earlier, state, (List.append_assoc ..).symm, hstate⟩
  · rcases between with - | ⟨call', between⟩
    -- A request cannot be the first of the later calls, as none of these is directly before it.
    · obtain ⟨earlier, state, hearlier, -⟩ := hrest [] call behind t htail.symm hcall
      cases earlier <;> cases hearlier
    · obtain ⟨rfl, -⟩ := List.cons.inj htail
      exact h before call between t rfl hcall

/-- A request behind the answer that it needs. -/
theorem request {t : Turn} {state : RunState} (hstate : t.PossibleIn state)
    (answer : Except Fault Unit) :
    Prompted service [.status service (.ok (some state)), t.call service answer] := by
  intro before call behind t' hsplit hcall
  rcases before with - | ⟨call', - | ⟨call'', before⟩⟩
  · cases hsplit
    cases hcall
  · cases hsplit
    rw [Turn.call_request?, Option.some.injEq] at hcall
    rw [← hcall]
    exact ⟨[], state, rfl, hstate⟩
  · obtain ⟨-, htail⟩ := List.cons.inj (List.cons.inj hsplit).2
    cases before <;> cases htail

end Prompted

namespace Queries

variable {service : String} {calls : List ControlCall}

theorem requests (h : Queries service calls) : ControlCall.requests calls = [] := by
  refine List.filterMap_eq_nil_iff.2 fun call hcall ↦ ?_
  obtain ⟨answer, rfl⟩ := h call hcall
  rfl

theorem service_eq (h : Queries service calls) : ∀ call ∈ calls, call.service = service := by
  intro call hcall
  obtain ⟨answer, rfl⟩ := h call hcall
  rfl

theorem prompted (h : Queries service calls) : Prompted service calls := by
  rintro before call behind t rfl hcall
  obtain ⟨answer, rfl⟩ := h call (by simp)
  cases hcall

end Queries

/-! ### What the last call says -/

/-- The last call explains the result: success is the answer that the service is where it should be,
and an error is what the call was answered. -/
inductive Concluded (service : String) (goal : RunState) (limited : Bool) :
    List ControlCall → Except Halt Unit → Prop
  | reached (front : List ControlCall) :
    Concluded service goal limited (front ++ [.status service (.ok (some goal))]) (.ok ())
  | missing (front : List ControlCall) :
    Concluded service goal limited (front ++ [.status service (.ok none)])
      (.error (.failed (.serviceNotFound service)))
  | failed (front : List ControlCall) (call : ControlCall) (why : Fault)
      (hcall : call.fault? = some why) :
    Concluded service goal limited (front ++ [call])
      (.error (.failed (.serviceControl service why)))
  | timedOut (front : List ControlCall) (state target : RunState) (hstate : state ≠ target)
      (hlimited : limited = true) :
    Concluded service goal limited (front ++ [.status service (.ok (some state))])
      (.error (.failed (.transitionTimeout service target)))
  | outOfPatience (calls : List ControlCall) :
    Concluded service goal limited calls (.error .outOfPatience)
  | clockRange (calls : List ControlCall) (hlimited : limited = true) :
    Concluded service goal limited calls (.error .clockRange)

namespace Concluded

variable {service : String} {goal goal' : RunState} {limited : Bool} {calls : List ControlCall}
  {result : Except Halt Unit}

/-- What the last call explains it explains behind any earlier calls. -/
theorem append (earlier : List ControlCall) (h : Concluded service goal limited calls result) :
    Concluded service goal limited (earlier ++ calls) result := by
  cases h with
  | reached front => exact List.append_assoc .. ▸ .reached (earlier ++ front)
  | missing front => exact List.append_assoc .. ▸ .missing (earlier ++ front)
  | failed front call why hcall =>
    exact List.append_assoc .. ▸ .failed (earlier ++ front) call why hcall
  | timedOut front state target hstate hlimited =>
    exact List.append_assoc .. ▸ .timedOut (earlier ++ front) state target hstate hlimited
  | outOfPatience => exact .outOfPatience _
  | clockRange _ hlimited => exact .clockRange _ hlimited

/-- An error does not depend on where the service should be. -/
theorem error {halt : Halt} (h : Concluded service goal limited calls (.error halt)) :
    Concluded service goal' limited calls (.error halt) := by
  cases h with
  | missing front => exact .missing front
  | failed front call why hcall => exact .failed front call why hcall
  | timedOut front state target hstate hlimited =>
    exact .timedOut front state target hstate hlimited
  | outOfPatience => exact .outOfPatience _
  | clockRange _ hlimited => exact .clockRange _ hlimited

theorem eq_append (h : Concluded service goal limited calls (.ok ())) :
    ∃ front, calls = front ++ [.status service (.ok (some goal))] := by
  cases h with
  | reached front => exact ⟨front, rfl⟩

end Concluded

/-! ### Waits -/

namespace Waiting

variable {service : String} {target : RunState} {limited : Bool} {calls : List ControlCall}
  {result : Except Halt Unit}

/-- A wait makes nothing but queries. -/
theorem queries (h : Waiting service target limited calls result) : Queries service calls := by
  induction h with
  | outOfPatience => exact fun _ h ↦ absurd h List.not_mem_nil
  | clockRange => exact fun _ h ↦ absurd h List.not_mem_nil
  | failed why => exact List.forall_mem_singleton.2 ⟨_, rfl⟩
  | missing => exact List.forall_mem_singleton.2 ⟨_, rfl⟩
  | reached => exact List.forall_mem_singleton.2 ⟨_, rfl⟩
  | timedOut state => exact List.forall_mem_singleton.2 ⟨_, rfl⟩
  | again state _ _ ih => exact List.forall_mem_cons.2 ⟨⟨_, rfl⟩, ih⟩

/-- The last query of a wait explains its result. -/
theorem concluded (h : Waiting service target limited calls result) :
    Concluded service target limited calls result := by
  induction h with
  | outOfPatience => exact .outOfPatience []
  | clockRange hlimited => exact .clockRange [] hlimited
  | failed why => exact .failed [] _ why rfl
  | missing => exact .missing []
  | reached => exact .reached []
  | timedOut state hstate hlimited => exact .timedOut [] state target hstate hlimited
  | again state _ _ ih => exact ih.append [_]

/-- A wait that times out says what it waited for. -/
theorem eq_of_timedOut {target' : RunState} (h : Waiting service target limited calls result)
    (hresult : result = .error (.failed (.transitionTimeout service target'))) :
    target' = target := by
  induction h with
  | timedOut =>
    cases hresult
    rfl
  | again _ _ _ ih => exact ih hresult
  | _ => cases hresult

end Waiting

/-! ### Turns -/

/-- What an operation asks for makes sense: it asks for nothing but the turns that it consists of,
each at most once and in their order, and only when the service is seen to be ready for it; it
succeeds only if it saw the goal of each of them, and the last call explains its result. -/
structure Orderly (turns : List Turn) (service : String) (goal : RunState) (limited : Bool)
    (calls : List ControlCall) (result : Except Halt Unit) : Prop where
  service_eq : ∀ call ∈ calls, call.service = service
  requests : (ControlCall.requests calls).Sublist turns
  prompted : Prompted service calls
  goals : result = .ok () →
    (turns.map fun t ↦ .status service (.ok (some t.goal))).Sublist calls
  concluded : Concluded service goal limited calls result

namespace Orderly

variable {turns turns' : List Turn} {service : String} {goal goal' : RunState} {limited : Bool}
  {calls rest : List ControlCall} {result : Except Halt Unit}

/-- Turns that follow on one another. -/
theorem append (h : Orderly turns service goal limited calls (.ok ()))
    (h' : Orderly turns' service goal' limited rest result) :
    Orderly (turns ++ turns') service goal' limited (calls ++ rest) result where
  service_eq := List.forall_mem_append.2 ⟨h.service_eq, h'.service_eq⟩
  requests := by
    rw [ControlCall.requests_append]
    exact h.requests.append h'.requests
  prompted := h.prompted.append h'.prompted
  goals hresult := by
    rw [List.map_append]
    exact (h.goals rfl).append (h'.goals hresult)
  concluded := h'.concluded.append calls

/-- Turns that are given up. -/
theorem giveUp {halt : Halt} (h : Orderly turns service goal limited calls (.error halt))
    (turns' : List Turn) :
    Orderly (turns ++ turns') service goal' limited calls (.error halt) where
  service_eq := h.service_eq
  requests := h.requests.trans (List.sublist_append_left ..)
  prompted := h.prompted
  goals hresult := nomatch hresult
  concluded := h.concluded.error

end Orderly

namespace Turn

variable {t : Turn} {service : String} {limited : Bool}

/-- The calls before a request are queries, and the last one says that it can be made. -/
theorem Ready.eq_append {before : List ControlCall} (h : t.Ready service limited before) :
    ∃ earlier state, before = earlier ++ [.status service (.ok (some state))] ∧
      Queries service earlier ∧ t.PossibleIn state := by
  cases h with
  | atOnce state hgoal hpending hother =>
    exact ⟨[], state, rfl, fun _ h ↦ absurd h List.not_mem_nil, hgoal, hpending, hother⟩
  | settled hrest =>
    obtain ⟨front, rfl⟩ := hrest.concluded.eq_append
    refine ⟨.status service (.ok (some t.other.pending)) :: front, _, rfl, ?_,
      possibleIn_other_goal⟩
    exact List.forall_mem_cons.2 ⟨⟨_, rfl⟩, (List.forall_mem_append.1 hrest.queries).1⟩

end Turn

namespace Orderly

variable {t : Turn} {service : String} {limited : Bool} {calls : List ControlCall}
  {result : Except Halt Unit}

/-- A turn that ends without a request. -/
theorem queries (h : Queries service calls)
    (hconcluded : Concluded service t.goal limited calls result) :
    Orderly [t] service t.goal limited calls result where
  service_eq := h.service_eq
  requests := h.requests ▸ List.nil_sublist _
  prompted := h.prompted
  goals := by
    rintro rfl
    obtain ⟨front, rfl⟩ := hconcluded.eq_append
    exact List.sublist_append_right ..
  concluded := hconcluded

/-- A turn that makes its request. -/
theorem request {before rest : List ControlCall} {answer : Except Fault Unit}
    (hbefore : t.Ready service limited before) (hrest : Queries service rest)
    (hconcluded : Concluded service t.goal limited (before ++ t.call service answer :: rest)
      result) :
    Orderly [t] service t.goal limited (before ++ t.call service answer :: rest) result := by
  obtain ⟨earlier, state, rfl, hearlier, hstate⟩ := hbefore.eq_append
  -- The request and the query directly before it are kept together, between two lists of queries.
  have hsplit : earlier ++ [.status service (.ok (some state))] ++ t.call service answer :: rest =
      earlier ++ ([.status service (.ok (some state)), t.call service answer] ++ rest) := by
    rw [List.append_assoc]
    rfl
  rw [hsplit] at hconcluded ⊢
  refine ⟨?_, ?_, ?_, ?_, hconcluded⟩
  · refine List.forall_mem_append.2 ⟨hearlier.service_eq, List.forall_mem_append.2
      ⟨?_, hrest.service_eq⟩⟩
    exact List.forall_mem_cons.2 ⟨rfl, List.forall_mem_singleton.2 (Turn.call_service answer)⟩
  · rw [ControlCall.requests_append, ControlCall.requests_append, hearlier.requests,
      hrest.requests]
    show (List.filterMap ControlCall.request? _ ++ []).Sublist [t]
    rw [List.append_nil, List.filterMap_cons_none rfl,
      List.filterMap_cons_some (Turn.call_request? answer)]
    exact .refl _
  · exact hearlier.prompted.append ((Prompted.request hstate answer).append hrest.prompted)
  · rintro rfl
    obtain ⟨front, hfront⟩ := hconcluded.eq_append
    rw [hfront]
    exact List.sublist_append_right ..

end Orderly

/-- **What a turn asks for makes sense.** -/
theorem Turning.orderly {t : Turn} {service : String} {limited : Bool} {calls : List ControlCall}
    {result : Except Halt Unit} (h : Turning t service limited calls result) :
    Orderly [t] service t.goal limited calls result := by
  have hquery {answer : Except Fault (Option RunState)} {rest : List ControlCall}
      (hrest : Queries service rest) : Queries service (.status service answer :: rest) :=
    List.forall_mem_cons.2 ⟨⟨_, rfl⟩, hrest⟩
  have hnone : Queries service [] := fun _ h ↦ absurd h List.not_mem_nil
  cases h with
  | failed why => exact .queries (hquery hnone) (.failed [] _ why rfl)
  | missing => exact .queries (hquery hnone) (.missing [])
  | there => exact .queries (hquery hnone) (.reached [])
  | pending hrest => exact .queries (hquery hrest.queries) (hrest.concluded.append [_])
  | unsettled hrest => exact .queries (hquery hrest.queries) (hrest.concluded.append [_]).error
  | refused why hbefore =>
    exact .request hbefore hnone (.failed _ _ why (Turn.call_fault? why))
  | requested hbefore hrest =>
    exact .request hbefore hrest.queries ((hrest.concluded.append [_]).append _)

/-- A turn that times out says what it waited for. -/
theorem Turning.eq_awaited {t : Turn} {service : String} {limited : Bool}
    {calls : List ControlCall} {result : Except Halt Unit} {target : RunState}
    (h : Turning t service limited calls result)
    (hresult : result = .error (.failed (.transitionTimeout service target))) :
    target = t.awaited calls := by
  cases h with
  | pending hrest =>
    rw [Turn.awaited_cons hrest.queries.requests, if_neg Turn.other_pending_ne_pending.symm]
    exact hrest.eq_of_timedOut hresult
  | unsettled hrest =>
    rw [Turn.awaited_cons hrest.queries.requests, if_pos rfl]
    exact hrest.eq_of_timedOut hresult
  | requested _ hrest =>
    rw [Turn.awaited_request]
    exact hrest.eq_of_timedOut hresult
  | _ => cases hresult

/-- **What a restart asks for makes sense.** -/
theorem Restarting.orderly {service : String} {limited : Bool} {calls : List ControlCall}
    {result : Except Halt Unit} (h : Restarting service limited calls result) :
    Orderly [.stop, .start] service .running limited calls result := by
  cases h with
  | unstopped hstop => exact hstop.orderly.giveUp [.start]
  | stopped hstop hstart => exact hstop.orderly.append hstart.orderly

/-- **Whatever the control answers, what it is asked for makes sense.** Starting and stopping make
their own request at most once, and only directly behind the answer that the service is neither at
the goal nor on the way anywhere; a restart asks for at most one stop and then for at most one
start. They succeed only behind the answer that the goal is reached, and fail as their last call
says; a timeout names the state that was waited for. -/
theorem ServiceManager.watch_orderly {η : Type} (m : ServiceManager η) (service : String)
    (w : World η) :
    (∀ t : Turn, let r := (ControlOperation.turn t).watch m service w
      t.run m service w = (r.result, r.world) ∧
        Orderly [t] service t.goal m.waiting.timeoutSecs.isSome r.calls r.result ∧
        ∀ target, r.result = .error (.failed (.transitionTimeout service target)) →
          target = t.awaited r.calls) ∧
    let r := ControlOperation.restart.watch m service w
    m.restart service w = (r.result, r.world) ∧
      Orderly [.stop, .start] service .running m.waiting.timeoutSecs.isSome r.calls r.result := by
  constructor
  · intro t
    obtain ⟨hrun, -, hcourse⟩ := Watches.watch (o := .turn t) Turn.watches_run w
    exact ⟨hrun, hcourse.orderly, fun _ ↦ hcourse.eq_awaited⟩
  · obtain ⟨hrun, -, hcourse⟩ := Watches.watch (o := .restart) watches_restart w
    exact ⟨hrun, hcourse.orderly⟩

end ServerSetup
