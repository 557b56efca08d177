import Mathlib.Logic.Function.Basic
import ServerSetup.Proofs.Rehearsal
import ServerSetup.Proofs.ServiceManager.Report

/-!
# Operations that overlap

Several calls of a manager may be under way at once, from several threads or one from within a port
of another. This module lets calls take their steps in any order: a call enters its phase or is
refused, asks for one thing after the other, whatever the answers are, and leaves its phase. In
every run the phases are those of the calls under way, and no two of these are on one service
(`run_excludes`).

A `Crew` is the phases that the calls share and the stage of each call. Entering looks a service up
and puts it in its phase in one step, as the lock of the phases makes it. A query is a step of its
own and may be answered in any way, so a port can take any time, and calls on other services can go
on in between; nothing is assumed about ports that would have to hold of all threads together.

Two invariants are carried through a run, with a lemma for each kind of step. `Orderly` is about the
present: the phases are those of the calls under way, one on each service. `Accounted` is about the
past: who has been refused, and that a call which was refused asked for nothing.

Scripts and steps are tied to the operations of the manager in two ways (`Excluding.uninterrupted`,
`Excluding.guarded`). A call that no other one interrupts does what the operation does. And the
operation asks its ports only in worlds in which its service is in its phase, which is seen by
exchanging the ports for others that answer alike in such worlds.
-/

namespace ServerSetup

/-! ### Phases -/

namespace Phases

variable {phases : Phases} {service other : String} {phase : Transition}

theorem of?_enter_self : (phases.enter service phase).of? service = some phase :=
  List.lookup_cons_self

theorem of?_enter_of_ne (h : other ≠ service) :
    (phases.enter service phase).of? other = phases.of? other := by
  have hne : (other == service) = false := beq_eq_false_iff_ne.2 h
  rw [enter, of?, List.lookup_cons, hne, of?]

/-- A service that leaves its phase is in none. -/
theorem of?_leave_self : (phases.leave service).of? service = none := by
  refine List.lookup_eq_none_iff.2 fun p hp ↦ bne_iff_ne.2 fun h ↦ ?_
  have hne := (List.mem_filter.1 hp).2
  rw [h, bne_self_eq_false] at hne
  cases hne

/-- The other services stay in their phases. -/
theorem of?_leave_of_ne (h : other ≠ service) :
    (phases.leave service).of? other = phases.of? other := by
  induction phases with
  | nil => rfl
  | cons p phases ih =>
    rw [leave, List.filter_cons, ← leave]
    by_cases hp : p.1 = service
    · have hne : (other == p.1) = false := beq_eq_false_iff_ne.2 (hp ▸ h)
      rw [if_neg (by simp [hp]), ih, of?, of?, List.lookup_cons, hne]
    · rw [if_pos (bne_iff_ne.2 hp), of?, List.lookup_cons, ← of?, ih, of?, of?, List.lookup_cons]

/-- If no service is in a phase, there are no phases. -/
theorem eq_nil_of_forall (h : ∀ service, phases.of? service = none) : phases = [] := by
  rcases phases with - | ⟨p, phases⟩
  · rfl
  · have hself : Phases.of? (p :: phases) p.1 = some p.2 := List.lookup_cons_self
    rw [h p.1] at hself
    cases hself

end Phases

/-! ### Calls and their steps -/

/-- How far a call has come. -/
inductive CallStage
  | waiting
  /-- The call is under way and has this left to do. -/
  | inside (script : ServiceScript)
  | returned (result : Except OperationError Unit)

/-- What a call does in one step. -/
inductive CallEvent
  | entered
  | refused (phase : Transition)
  | asked (exchange : Exchange)
  | left

/-- The phases that calls share, and the stage of each call. -/
structure Crew (ι : Type) where
  phases : Phases
  stage : ι → CallStage

namespace Crew

variable {ι η : Type}

/-- No call has been made. -/
def start : Crew ι := ⟨[], fun _ ↦ .waiting⟩

/-- A call has entered and has not returned. -/
def Inside (c : Crew ι) (i : ι) : Prop := ∃ script, c.stage i = .inside script

variable {m : ServiceManager η} {calls : ι → ServiceOperation} {c c₁ c₂ : Crew ι} {i j : ι}
  {event : CallEvent} {events before behind : List (ι × CallEvent)}

/-! ### What is true at every moment -/

/-- The phases are those of the calls under way, which are on different services. -/
structure Orderly (calls : ι → ServiceOperation) (c : Crew ι) : Prop where
  phase_iff : ∀ service phase, c.phases.of? service = some phase ↔
    ∃ i, c.Inside i ∧ (calls i).service = service ∧ (calls i).phase = phase
  unique : ∀ i j, c.Inside i → c.Inside j → (calls i).service = (calls j).service → i = j

theorem not_inside_of_waiting (h : c.stage i = .waiting) : ¬ c.Inside i := by
  rintro ⟨script, hinside⟩
  rw [h] at hinside
  cases hinside

/-- A step that leaves the phases alone and takes no call in or out. -/
theorem Orderly.of_inside_iff (h : Orderly calls c) (hphases : c₁.phases = c.phases)
    (hinside : ∀ i, c₁.Inside i ↔ c.Inside i) : Orderly calls c₁ := by
  refine ⟨fun service phase ↦ ?_,
    fun i j hi hj ↦ h.unique i j ((hinside i).1 hi) ((hinside j).1 hj)⟩
  simp only [hphases, hinside, h.phase_iff]

/-- A service that is free has no call under way. -/
theorem Orderly.not_inside_of_free (h : Orderly calls c) {service : String}
    (hfree : c.phases.of? service = none) : ∀ j, c.Inside j → (calls j).service ≠ service := by
  rintro j hj rfl
  have hphase := (h.phase_iff (calls j).service (calls j).phase).2 ⟨j, hj, rfl, rfl⟩
  rw [hfree] at hphase
  cases hphase

/-- Before any call is made there are no phases. -/
theorem orderly_start : Orderly calls (start : Crew ι) := by
  have hnot (i : ι) : ¬ (start : Crew ι).Inside i := not_inside_of_waiting rfl
  constructor
  · intro service phase
    constructor
    · intro h
      cases h
    · rintro ⟨i, hi, -⟩
      exact absurd hi (hnot i)
  · intro i j hi
    exact absurd hi (hnot i)

/-- What has become of the calls after some events. -/
structure Accounted (calls : ι → ServiceOperation) (events : List (ι × CallEvent)) (c : Crew ι) :
    Prop where
  /-- No call under way will say that the service is busy. -/
  sincere : ∀ i script, c.stage i = .inside script → ∀ exchanges result,
    script.Course exchanges result → ∀ service phase, result ≠ .error (.busy service phase)
  /-- A call that has said so was refused. -/
  busy_iff : ∀ i service phase, c.stage i = .returned (.error (.busy service phase)) ↔
    service = (calls i).service ∧ (i, .refused phase) ∈ events
  /-- A call that was refused has done nothing else. -/
  alone : ∀ i phase event, (i, .refused phase) ∈ events → (i, event) ∈ events →
    event = .refused phase
  /-- A call that waits has done nothing. -/
  idle : ∀ i, c.stage i = .waiting → ∀ event, (i, event) ∉ events

theorem accounted_start : Accounted calls [] (start : Crew ι) where
  sincere i script h := by cases h
  busy_iff i service phase := by simp [start]
  alone := by simp
  idle := by simp

/-! ### Steps and runs -/

variable [DecidableEq ι]

/-- A call takes a step. -/
inductive Step (m : ServiceManager η) (calls : ι → ServiceOperation) (c : Crew ι) (i : ι) :
    CallEvent → Crew ι → Prop
  | enter (hwaiting : c.stage i = .waiting) (hfree : c.phases.of? (calls i).service = none) :
    Step m calls c i .entered
      ⟨c.phases.enter (calls i).service (calls i).phase,
        Function.update c.stage i (.inside ((calls i).script m))⟩
  | refuse (phase : Transition) (hwaiting : c.stage i = .waiting)
      (hbusy : c.phases.of? (calls i).service = some phase) :
    Step m calls c i (.refused phase)
      ⟨c.phases,
        Function.update c.stage i (.returned (.error (.busy (calls i).service phase)))⟩
  | ask (query : ServiceQuery) (next : query.Answer → ServiceScript) (answer : query.Answer)
      (hinside : c.stage i = .inside (.ask query next)) :
    Step m calls c i (.asked (query.exchange answer))
      ⟨c.phases, Function.update c.stage i (.inside (next answer))⟩
  | leave (result : Except OperationError Unit) (hinside : c.stage i = .inside (.done result)) :
    Step m calls c i .left
      ⟨c.phases.leave (calls i).service, Function.update c.stage i (.returned result)⟩

/-- Calls take steps, one after the other. -/
inductive Run (m : ServiceManager η) (calls : ι → ServiceOperation) (c : Crew ι) :
    List (ι × CallEvent) → Crew ι → Prop
  | refl : Run m calls c [] c
  | step {events : List (ι × CallEvent)} {c₁ c₂ : Crew ι} {i : ι} {event : CallEvent}
      (hrun : Run m calls c events c₁) (hstep : Step m calls c₁ i event c₂) :
    Run m calls c (events ++ [(i, event)]) c₂

theorem inside_update_of_ne {phases : Phases} {stage : CallStage} (h : j ≠ i) :
    Inside ⟨phases, Function.update c.stage i stage⟩ j ↔ c.Inside j := by
  simp only [Inside, Function.update_of_ne h]

theorem inside_update_self {phases : Phases} {stage : CallStage} :
    Inside ⟨phases, Function.update c.stage i stage⟩ i ↔ ∃ script, stage = .inside script := by
  simp only [Inside, Function.update_self]

/-- The calls under way on the other services are the same as before. -/
theorem exists_inside_update_iff {phases : Phases} {stage : CallStage} {service : String}
    {phase : Transition} (hservice : service ≠ (calls i).service) :
    (∃ j, Inside ⟨phases, Function.update c.stage i stage⟩ j ∧ (calls j).service = service ∧
      (calls j).phase = phase) ↔
      ∃ j, c.Inside j ∧ (calls j).service = service ∧ (calls j).phase = phase := by
  refine exists_congr fun j ↦ and_congr_left fun ⟨hj, _⟩ ↦ inside_update_of_ne ?_
  rintro rfl
  exact hservice hj.symm

/-- A call that enters a free service is the only one on it. -/
theorem Orderly.enter (h : Orderly calls c) {script : ServiceScript}
    (hfree : c.phases.of? (calls i).service = none) :
    Orderly calls ⟨c.phases.enter (calls i).service (calls i).phase,
      Function.update c.stage i (.inside script)⟩ := by
  have hothers := h.not_inside_of_free hfree
  have hself : Inside (⟨c.phases.enter (calls i).service (calls i).phase,
      Function.update c.stage i (.inside script)⟩ : Crew ι) i :=
    inside_update_self.2 ⟨script, rfl⟩
  -- The call that enters is the only one of its service, because the service was free; nothing
  -- changes for other services.
  constructor
  · intro service phase
    by_cases hservice : service = (calls i).service
    · subst hservice
      rw [Phases.of?_enter_self, Option.some.injEq]
      constructor
      · rintro rfl
        exact ⟨i, hself, rfl, rfl⟩
      · rintro ⟨j, hj, hsame, rfl⟩
        by_cases hji : j = i
        · rw [hji]
        · exact absurd hsame (hothers j ((inside_update_of_ne hji).1 hj))
    · rw [Phases.of?_enter_of_ne hservice, h.phase_iff, exists_inside_update_iff hservice]
  · intro j k hj hk hsame
    by_cases hji : j = i
    · by_cases hki : k = i
      · rw [hji, hki]
      · subst hji
        exact absurd hsame.symm (hothers k ((inside_update_of_ne hki).1 hk))
    · by_cases hki : k = i
      · subst hki
        exact absurd hsame (hothers j ((inside_update_of_ne hji).1 hj))
      · exact h.unique j k ((inside_update_of_ne hji).1 hj) ((inside_update_of_ne hki).1 hk) hsame

/-- A call that leaves frees its service. -/
theorem Orderly.leave (h : Orderly calls c) {result : Except OperationError Unit}
    (hinside : c.Inside i) :
    Orderly calls ⟨c.phases.leave (calls i).service,
      Function.update c.stage i (.returned result)⟩ := by
  -- the call that leaves was the only one on its service
  have hstays {j : ι} (hj : Inside ⟨c.phases.leave (calls i).service,
      Function.update c.stage i (.returned result)⟩ j) : c.Inside j ∧ j ≠ i := by
    have hji : j ≠ i := by
      rintro rfl
      obtain ⟨script, hscript⟩ := inside_update_self.1 hj
      cases hscript
    exact ⟨(inside_update_of_ne hji).1 hj, hji⟩
  constructor
  · intro service phase
    by_cases hservice : service = (calls i).service
    · subst hservice
      rw [Phases.of?_leave_self]
      constructor
      · intro hphase
        cases hphase
      · rintro ⟨j, hj, hsame, -⟩
        exact absurd (h.unique j i (hstays hj).1 hinside hsame) (hstays hj).2
    · rw [Phases.of?_leave_of_ne hservice, h.phase_iff, exists_inside_update_iff hservice]
  · intro j k hj hk hsame
    exact h.unique j k (hstays hj).1 (hstays hk).1 hsame

/-- Every step keeps the phases in step with the calls under way. -/
theorem Orderly.step (h : Orderly calls c) (hstep : Step m calls c i event c₁) :
    Orderly calls c₁ := by
  cases hstep with
  | enter hwaiting hfree => exact h.enter hfree
  | refuse phase hwaiting hbusy =>
    refine h.of_inside_iff rfl fun j ↦ ?_
    by_cases hji : j = i
    · subst hji
      rw [inside_update_self]
      constructor
      · rintro ⟨script, hscript⟩
        cases hscript
      · intro hj
        exact absurd hj (not_inside_of_waiting hwaiting)
    · exact inside_update_of_ne hji
  | ask query next answer hinside =>
    refine h.of_inside_iff rfl fun j ↦ ?_
    by_cases hji : j = i
    · subst hji
      rw [inside_update_self]
      exact ⟨fun _ ↦ ⟨_, hinside⟩, fun _ ↦ ⟨_, rfl⟩⟩
    · exact inside_update_of_ne hji
  | leave result hinside => exact h.leave ⟨_, hinside⟩

/-- In every run the phases are those of the calls under way. -/
theorem Run.orderly (hrun : Run m calls start events c) : Orderly calls c := by
  induction hrun with
  | refl => exact orderly_start
  | step _ hstep ih => exact ih.step hstep

/-! ### Refused calls -/

theorem Step.stage_of_ne (hstep : Step m calls c i event c₁) (h : j ≠ i) :
    c₁.stage j = c.stage j := by
  cases hstep <;> exact Function.update_of_ne h _ _

/-- What an operation does in its phase does not end with the service being busy. -/
theorem course_ne_busy {o : ServiceOperation} {exchanges : List Exchange}
    {result : Except OperationError Unit} (h : (o.script m).Course exchanges result)
    (service : String) (phase : Transition) : result ≠ .error (.busy service phase) := by
  rintro rfl
  rcases o with ⟨d, isNew⟩ | name
  · have herrors := (ServiceManager.report_of_course h).errors _ rfl
    simp at herrors
  · obtain ⟨file, huninstalling⟩ := ServiceManager.uninstalling_of_course h
    have herrors := huninstalling.report.errors _ rfl
    simp at herrors

/-- Every step keeps the account of what has become of the calls. -/
theorem Accounted.step (h : Accounted calls events c) (hstep : Step m calls c i event c₁) :
    Accounted calls (events ++ [(i, event)]) c₁ := by
  have hold {j : ι} {event' : CallEvent} (hji : j ≠ i) :
      (j, event') ∈ events ++ [(i, event)] ↔ (j, event') ∈ events := by
    simp [hji]
  -- a call that takes a step was not refused before
  have hnot : ∀ phase, (i, .refused phase) ∉ events := by
    intro phase hmem
    have hstage := (h.busy_iff i _ phase).2 ⟨rfl, hmem⟩
    cases hstep with
    | enter hwaiting | refuse _ hwaiting =>
      rw [hstage] at hwaiting
      cases hwaiting
    | ask _ _ _ hinside | leave _ hinside =>
      rw [hstage] at hinside
      cases hinside
  have hnew {phase : Transition} :
      (i, .refused phase) ∈ events ++ [(i, event)] ↔ event = .refused phase := by
    simp [hnot phase, eq_comm]
  constructor
  · intro j script hscript exchanges result hcourse
    by_cases hji : j = i
    · subst hji
      cases hstep with
      | enter =>
        simp only [Function.update_self, CallStage.inside.injEq] at hscript
        subst hscript
        exact course_ne_busy hcourse
      | ask query next answer hinside =>
        simp only [Function.update_self, CallStage.inside.injEq] at hscript
        subst hscript
        exact h.sincere j _ hinside _ result (.ask hcourse)
      | refuse | leave => simp at hscript
    · rw [hstep.stage_of_ne hji] at hscript
      exact h.sincere j script hscript exchanges result hcourse
  · intro j service phase
    by_cases hji : j = i
    · subst hji
      rw [hnew]
      cases hstep with
      | enter | ask => simp
      | refuse => simp [eq_comm]
      | leave result hinside =>
        have hresult := h.sincere j _ hinside _ _ (.done result) service phase
        simp [hresult]
    · rw [hstep.stage_of_ne hji, hold hji]
      exact h.busy_iff j service phase
  · intro j phase event' hrefused hevent
    by_cases hji : j = i
    · subst hji
      obtain rfl := hnew.1 hrefused
      rcases List.mem_append.1 hevent with hmem | hmem
      · cases hstep with
        | refuse _ hwaiting => exact absurd hmem (h.idle j hwaiting event')
      · simpa using hmem
    · exact h.alone j phase event' ((hold hji).1 hrefused) ((hold hji).1 hevent)
  · intro j hwaiting event'
    by_cases hji : j = i
    · subst hji
      cases hstep <;> simp at hwaiting
    · rw [hold hji]
      exact h.idle j (hstep.stage_of_ne hji ▸ hwaiting) event'

/-- In every run the account is right. -/
theorem Run.accounted (hrun : Run m calls start events c) : Accounted calls events c := by
  induction hrun with
  | refl => exact accounted_start
  | step _ hstep ih => exact ih.step hstep

/-- Every event of a run was a step of its call at that moment. -/
theorem Run.exists_step (hrun : Run m calls c events c₂) (hmem : (i, event) ∈ events) :
    ∃ before behind c₁ c₁', events = before ++ (i, event) :: behind ∧ Run m calls c before c₁ ∧
      Step m calls c₁ i event c₁' := by
  induction hrun with
  | refl => cases hmem
  | @step events c₁ c₂ j event' hrun hstep ih =>
    rcases List.mem_append.1 hmem with hmem | hmem
    · obtain ⟨before, behind, c₃, c₄, rfl, hbefore, hthen⟩ := ih hmem
      exact ⟨before, behind ++ [(j, event')], c₃, c₄, by simp, hbefore, hthen⟩
    · obtain ⟨rfl, rfl⟩ : i = j ∧ event = event' := by simpa using hmem
      exact ⟨events, [], c₁, c₂, rfl, hrun, hstep⟩

/-! ### Calls that are not interrupted -/

theorem Run.single (hstep : Step m calls c i event c₁) : Run m calls c [(i, event)] c₁ :=
  .step .refl hstep

/-- Two runs make one. -/
theorem Run.trans (hfirst : Run m calls c before c₁) (hthen : Run m calls c₁ behind c₂) :
    Run m calls c (before ++ behind) c₂ := by
  induction hthen with
  | refl => rwa [List.append_nil]
  | step _ hstep ih =>
    rw [← List.append_assoc]
    exact .step ih hstep

/-- A call under way can go through any course of its script and return. -/
theorem run_of_course {script : ServiceScript} {exchanges : List Exchange}
    {result : Except OperationError Unit} (hcourse : script.Course exchanges result)
    (hinside : c.stage i = .inside script) :
    Run m calls c (exchanges.map (fun exchange ↦ (i, .asked exchange)) ++ [(i, .left)])
      ⟨c.phases.leave (calls i).service, Function.update c.stage i (.returned result)⟩ := by
  induction hcourse generalizing c with
  | done result => exact .single (.leave result hinside)
  | @ask query next answer exchanges result _ ih =>
    have hrest := ih (c := ⟨c.phases, Function.update c.stage i (.inside (next answer))⟩)
      (Function.update_self ..)
    rw [Function.update_idem] at hrest
    exact (Run.single (.ask query next answer hinside)).trans hrest

/-- Every script has a course, as every query has an answer. -/
theorem exists_course (script : ServiceScript) : ∃ exchanges result,
    script.Course exchanges result := by
  induction script with
  | done result => exact ⟨[], result, .done result⟩
  | ask query next ih =>
    have hanswer : Nonempty query.Answer := by
      cases query with
      | stamp => exact ⟨(.fresh 0, .epoch)⟩
      | load => exact ⟨.error .notFound⟩
      | save | forget => exact ⟨.error (.stateNotFound "")⟩
      | _ => exact ⟨.error (.said "")⟩
    obtain ⟨answer⟩ := hanswer
    obtain ⟨exchanges, result, hrest⟩ := ih answer
    exact ⟨_, result, .ask hrest⟩

/-- A call that no other one interrupts does what the operation of the manager does. -/
theorem run_of_uninterrupted (hports : m.KeepsPhases) (hwaiting : c.stage i = .waiting)
    (w : World η) (hw : w.phases = c.phases) : ∃ events c₁ result,
      Run m calls c events c₁ ∧ (∀ e ∈ events, e.1 = i) ∧
        c₁.phases = ((calls i).run m w).2.phases ∧ c₁.stage i = .returned result ∧
        ((calls i).run m w).1 = result.mapError .failed := by
  rw [ServiceOperation.run_eq_perform]
  rcases hphase : w.phases.of? (calls i).service with - | phase
  · have hfree : c.phases.of? (calls i).service = none := hw ▸ hphase
    have henter : Run m calls c [(i, .entered)] _ := .single (.enter hwaiting hfree)
    have hcourse := ((calls i).script m).course_perform (m := m)
      (w.entering (calls i).service (calls i).phase)
    have hrun := henter.trans (run_of_course hcourse (Function.update_self ..))
    refine ⟨_, _, _, hrun, ?_, ?_, Function.update_self .., ?_⟩
    · intro e he
      simp only [List.mem_append, List.mem_singleton, List.mem_map] at he
      obtain rfl | ⟨exchange, -, rfl⟩ | rfl := he <;> rfl
    · rw [ServiceOperation.perform_of_free hphase]
      show _ = (((calls i).script m).perform m
        (w.entering (calls i).service (calls i).phase)).world.phases.leave (calls i).service
      rw [ServiceScript.phases_perform hports, World.entering, hw]
    · rw [ServiceOperation.perform_of_free hphase]
  · have hbusy : c.phases.of? (calls i).service = some phase := hw ▸ hphase
    refine ⟨_, _, _, .single (.refuse phase hwaiting hbusy), by simp, ?_, Function.update_self ..,
      ?_⟩
    · rw [ServiceOperation.perform_of_busy hphase, hw]
    · rw [ServiceOperation.perform_of_busy hphase]

/-- **An operation asks its ports only while its service is in its phase**: ports that would answer
otherwise in other worlds make no difference, and neither do any ports if the service is busy. -/
theorem run_of_samePorts (hports : m.KeepsPhases) (o : ServiceOperation)
    (records : ServiceRecords η) (registrar : ServiceRegistrar η)
    (hagree : ∀ query w, w.phases.of? o.service = some o.phase →
      ({ m with records := records, registrar := registrar } : ServiceManager η).answer query w =
        m.answer query w) (w : World η) :
    o.run { m with records := records, registrar := registrar } w = o.run m w := by
  have hscript : o.script { m with records := records, registrar := registrar } = o.script m := by
    cases o with
    | install | uninstall => rfl
  rw [ServiceOperation.run_eq_perform, ServiceOperation.run_eq_perform]
  rcases hphase : w.phases.of? o.service with - | current
  · rw [ServiceOperation.perform_of_free hphase, ServiceOperation.perform_of_free hphase, hscript,
      ServiceScript.perform_congr hports hagree _ Phases.of?_enter_self]
  · rw [ServiceOperation.perform_of_busy hphase, ServiceOperation.perform_of_busy hphase]

/-! ### Mutual exclusion -/

/-- What is true of calls after some events. -/
structure Excluding (m : ServiceManager η) (calls : ι → ServiceOperation)
    (events : List (ι × CallEvent)) (c : Crew ι) : Prop where
  /-- The phases are those of the calls that have entered and not returned. -/
  phases : ∀ service phase, c.phases.of? service = some phase ↔
    ∃ i, c.Inside i ∧ (calls i).service = service ∧ (calls i).phase = phase
  /-- Only one call is under way on a service. -/
  unique : ∀ i j, c.Inside i → c.Inside j → (calls i).service = (calls j).service → i = j
  /-- When there are no calls under way, there are no phases. -/
  quiet : (∀ i, ¬ c.Inside i) → c.phases = []
  /-- A call that is made now is refused exactly if another one is under way on its service, and it
  changes the stage of no other call and no phase. -/
  refused : ∀ i, c.stage i = .waiting → ∀ phase c',
    Step m calls c i (.refused phase) c' ↔
      (∃ j, c.Inside j ∧ (calls j).service = (calls i).service ∧ (calls j).phase = phase) ∧
      c' = ⟨c.phases, Function.update c.stage i
        (.returned (.error (.busy (calls i).service phase)))⟩
  /-- A call that is made now may enter exactly if all calls under way are on other services. -/
  entered : ∀ i, c.stage i = .waiting →
    ((∃ c', Step m calls c i .entered c') ↔
      ∀ j, c.Inside j → (calls j).service ≠ (calls i).service)
  /-- A call has said that the service is busy exactly if, when it was made, another one was under
  way on that service, in that phase. -/
  busy : ∀ i service phase, c.stage i = .returned (.error (.busy service phase)) ↔
    service = (calls i).service ∧ ∃ before behind c₁,
      events = before ++ (i, .refused phase) :: behind ∧ Run m calls start before c₁ ∧
        ∃ j, c₁.Inside j ∧ (calls j).service = service ∧ (calls j).phase = phase
  /-- A call that has said so has asked for nothing. -/
  silent : ∀ i service phase, c.stage i = .returned (.error (.busy service phase)) →
    ∀ event, (i, event) ∈ events → event = .refused phase
  /-- A call under way can return. -/
  returns : ∀ i, c.Inside i → ∃ (exchanges : List Exchange) (result : Except OperationError Unit),
    Run m calls c (exchanges.map (fun exchange ↦ (i, .asked exchange)) ++ [(i, .left)])
      ⟨c.phases.leave (calls i).service, Function.update c.stage i (.returned result)⟩
  /-- A call that is not interrupted does what the operation of the manager does. -/
  uninterrupted : ∀ i, c.stage i = .waiting → m.KeepsPhases → ∀ w : World η, w.phases = c.phases →
    ∃ events c₁ result, Run m calls c events c₁ ∧ (∀ e ∈ events, e.1 = i) ∧
      c₁.phases = ((calls i).run m w).2.phases ∧ c₁.stage i = .returned result ∧
      ((calls i).run m w).1 = result.mapError .failed
  /-- The operation asks its ports only while its service is in its phase. So other ports do as well
  if they answer alike in such worlds. -/
  guarded : ∀ i, m.KeepsPhases → ∀ (records : ServiceRecords η) (registrar : ServiceRegistrar η),
    (∀ query w, w.phases.of? (calls i).service = some (calls i).phase →
      ({ m with records := records, registrar := registrar } : ServiceManager η).answer query w =
        m.answer query w) →
    ∀ w, (calls i).run { m with records := records, registrar := registrar } w = (calls i).run m w

/-- **No two operations on a service overlap, and no phase outlives its operation.** This holds in
every run, whatever the calls are, in whatever order they take their steps, and whatever the ports
answer. -/
theorem run_excludes (hrun : Run m calls start events c) : Excluding m calls events c where
  phases := hrun.orderly.phase_iff
  unique := hrun.orderly.unique
  quiet hnone := by
    refine Phases.eq_nil_of_forall fun service ↦
      Option.eq_none_iff_forall_ne_some.2 fun phase h ↦ ?_
    obtain ⟨i, hi, -⟩ := (hrun.orderly.phase_iff service phase).1 h
    exact hnone i hi
  -- A step of a call that waits either enters or is refused, and which of the two is decided by
  -- the phases, which are those of the calls inside.
  refused i hwaiting phase c' := by
    rw [← hrun.orderly.phase_iff]
    constructor
    · intro hstep
      cases hstep with
      | refuse _ _ hbusy => exact ⟨hbusy, rfl⟩
    · rintro ⟨hbusy, rfl⟩
      exact .refuse phase hwaiting hbusy
  entered i hwaiting := by
    constructor
    · rintro ⟨c', hstep⟩
      cases hstep with
      | enter _ hfree => exact hrun.orderly.not_inside_of_free hfree
    · intro hothers
      refine ⟨_, .enter hwaiting (Option.eq_none_iff_forall_ne_some.2 fun phase h ↦ ?_)⟩
      obtain ⟨j, hj, hservice, -⟩ := (hrun.orderly.phase_iff _ phase).1 h
      exact hothers j hj hservice
  busy i service phase := by
    rw [hrun.accounted.busy_iff]
    constructor
    · rintro ⟨rfl, hmem⟩
      obtain ⟨before, behind, c₁, c₂, hevents, hbefore, hstep⟩ := hrun.exists_step hmem
      cases hstep with
      | refuse _ _ hbusy =>
        exact ⟨rfl, before, behind, c₁, hevents, hbefore, (hbefore.orderly.phase_iff _ _).1 hbusy⟩
    · rintro ⟨rfl, before, behind, c₁, rfl, -⟩
      exact ⟨rfl, by simp⟩
  silent i service phase hbusy event hevent :=
    hrun.accounted.alone i phase event ((hrun.accounted.busy_iff i service phase).1 hbusy).2 hevent
  returns i hi := by
    obtain ⟨script, hinside⟩ := hi
    obtain ⟨exchanges, result, hcourse⟩ := exists_course script
    exact ⟨exchanges, result, run_of_course hcourse hinside⟩
  uninterrupted i hwaiting hports w hw := run_of_uninterrupted hports hwaiting w hw
  guarded i hports records registrar := run_of_samePorts hports (calls i) records registrar

/-- The registration of a service, and a call to unregister it. -/
def sampleCalls : Bool → ServiceOperation
  | true => .install { name := "web", home := "C:\\resin" } true
  | false => .uninstall "web"

/-- While a service is being registered, it is not unregistered. -/
theorem sample_refused : ∃ c,
    Run Rehearsal.manager sampleCalls start [(true, .entered), (false, .refused .installing)] c ∧
      c.phases.of? "web" = some .installing ∧ c.phases.of? "other" = none ∧
      c.stage false = .returned (.error (.busy "web" .installing)) := by
  have henter : Run Rehearsal.manager sampleCalls start [(true, .entered)] _ :=
    .single (.enter rfl rfl)
  have hrun := henter.step (.refuse (i := false) .installing rfl rfl)
  have hexcludes := run_excludes hrun
  refine ⟨_, hrun, ?_, ?_, ?_⟩
  · exact (hexcludes.phases "web" .installing).2 ⟨true, ⟨_, rfl⟩, rfl, rfl⟩
  · rfl
  · exact (hexcludes.busy false "web" .installing).2
      ⟨rfl, [(true, .entered)], [], _, rfl, .single (.enter rfl rfl), true, ⟨_, rfl⟩, rfl, rfl⟩

end Crew

end ServerSetup
