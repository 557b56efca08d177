import Mathlib.Data.List.Forall2
import ServerSetup.Proofs.ServiceManager.Cancellation
import ServerSetup.Proofs.ServiceManager.Script

/-!
# Two runs side by side

To say that an operation takes no notice of something, it is run in two worlds that differ in this.
`Respects R` says of two operations that they answer alike and leave worlds related by `R` if they
find such worlds. A manager *compares* by a relation if its ports and its store do so for the
services in question, and if the relation fixes what the operations themselves read of the world
(`ServiceManager.Compares`). Then all operations on these services do so, one after the other
(`Compares.performAll`).

The two runs may differ in what they ask of the installer: requests are compared by a relation of
their own, `Q`.

Registering and unregistering is compared by way of scripts. Two scripts are alike if they ask for
the same and go on alike with each answer that a port can give, but for requests to register, which
may differ as `Q` says (`ServiceScript.Alike`). What is asked on behalf of a service in question is
about such services only; an installer may answer a registration with a state, and the store is
asked to keep that, so the state has to be about one of them as well (`Compares.named`).

Starting, stopping and waiting read the clock and the wish to cancel, which are the same in both
worlds. These operations are compared as they stand, along their definitions.

The relation is chosen by the user of the module. With equality of all but the host it says what a
password reaches, and with equality of what there is of one service it says what the operations on
the other services may change.
-/

namespace ServerSetup

/-! ### Operations on related worlds -/

/-- Two operations answer alike and leave related worlds, where they find related worlds. -/
def Respects {η α : Type} (R : World η → World η → Prop) (op op' : World η → α × World η) : Prop :=
  ∀ w w', R w w' → (op w).1 = (op' w').1 ∧ R (op w).2 (op' w').2

namespace Respects

variable {η ε α β : Type} {R : World η → World η → Prop}

variable {op op' : ExceptT ε (StateM (World η)) α} {f f' : α → ExceptT ε (StateM (World η)) β}

theorem pure (a : α) : Respects R (Pure.pure a : ExceptT ε (StateM (World η)) α)
    (Pure.pure a : ExceptT ε (StateM (World η)) α) :=
  fun _ _ hw ↦ ⟨rfl, hw⟩

theorem throw (e : ε) : Respects R (MonadExcept.throw e : ExceptT ε (StateM (World η)) α)
    (MonadExcept.throw e : ExceptT ε (StateM (World η)) α) :=
  fun _ _ hw ↦ ⟨rfl, hw⟩

/-- **A sequence does what its steps do alike.** -/
theorem bind (hop : Respects R op op') (hf : ∀ a, Respects R (f a) (f' a)) :
    Respects R (op >>= f) (op' >>= f') := by
  intro w w' hw
  obtain ⟨hanswer, hworld⟩ := hop w w' hw
  rw [StateExcept.bind_eq, StateExcept.bind_eq]
  rcases hrun : op w with ⟨answer, w₁⟩
  rcases hrun' : op' w' with ⟨answer', w₁'⟩
  rw [hrun, hrun'] at hanswer hworld
  obtain rfl : answer = answer' := hanswer
  rcases answer with e | a
  · exact ⟨rfl, hworld⟩
  · exact hf a _ _ hworld

/-- A step may read of the world what the relation fixes. -/
theorem read {f f' : World η → ExceptT ε (StateM (World η)) α}
    (h : ∀ w w', R w w' → (f w w).1 = (f' w' w').1 ∧ R (f w w).2 (f' w' w').2) :
    Respects R (get >>= f) (get >>= f') :=
  h

/-- Reporting the failure of a call respects what the call respects. -/
theorem call {wrap : Fault → OperationError} {op op' : HostM η α} (hop : Respects R op op') :
    Respects R (SetupM.call wrap op) (SetupM.call wrap op') := by
  intro w w' hw
  obtain ⟨hanswer, hworld⟩ := hop w w' hw
  rw [SetupM.call, SetupM.call]
  rcases hrun : op w with ⟨answer, w₁⟩
  rcases hrun' : op' w' with ⟨answer', w₁'⟩
  rw [hrun, hrun'] at hanswer hworld
  obtain rfl : answer = answer' := hanswer
  rcases answer with why | a
  · exact ⟨rfl, hworld⟩
  · exact ⟨rfl, hworld⟩

end Respects

/-! ### Managers that compare worlds -/

/-- The service that a query is about. -/
def ServiceQuery.service? : ServiceQuery → Option String
  | register request => some request.serviceName
  | unregister service _ => some service
  | readRecord service => some service
  | writeRecord service _ => some service
  | save state => some state.serviceName
  | load service => some service
  | forget service => some service
  | stamp => none

/-- What the operations of a manager on some services read of two related worlds is the same, and
what its ports and its store do for these services keeps the worlds related. -/
structure ServiceManager.Compares {η : Type} (m : ServiceManager η)
    (R : World η → World η → Prop) (Q : RegistrationRequest → RegistrationRequest → Prop)
    (about : String → Prop) : Prop where
  phase : ∀ {w w' service}, R w w' → about service →
    w'.phases.of? service = w.phases.of? service
  entering : ∀ {w w' service} (phase), R w w' → about service →
    R (w.entering service phase) (w'.entering service phase)
  leaving : ∀ {w w' service}, R w w' → about service → R (w.leaving service) (w'.leaving service)
  clock : ∀ {w w'}, R w w' → w'.clock = w.clock
  /-- Time may pass. -/
  later : ∀ {w w'} (time), R w w' → R { w with clock := time } { w' with clock := time }
  cancelled : ∀ {w w'}, R w w' → w'.cancelled = w.cancelled
  answer : ∀ query, (∀ service ∈ query.service?, about service) →
    Respects R (m.answer query) (m.answer query)
  install : ∀ {r r'}, Q r r' → Respects R (m.registrar.install r) (m.registrar.install r')
  /-- A state that the installer answers with is about one of the services again. -/
  named : ∀ {r r' w state}, Q r r' → (m.registrar.install r w).1 = .ok state →
    about state.serviceName
  status : ∀ {service}, about service →
    Respects R (m.control.status service) (m.control.status service)
  start : ∀ {service}, about service →
    Respects R (m.control.start service) (m.control.start service)
  stop : ∀ {service}, about service → Respects R (m.control.stop service) (m.control.stop service)

/-! ### Scripts side by side -/

/-- Two exchanges are the same, but for requests that are compared by a relation. -/
inductive Exchange.Alike (Q : RegistrationRequest → RegistrationRequest → Prop) :
    Exchange → Exchange → Prop
  | same (exchange : Exchange) : Alike Q exchange exchange
  | register {r r' : RegistrationRequest} (h : Q r r') (answer : Except Fault Rollback.State) :
    Alike Q (.register r answer) (.register r' answer)

theorem Exchange.Alike.eq {Q : RegistrationRequest → RegistrationRequest → Prop} {a b : Exchange}
    (h : a.Alike Q b) (hQ : ∀ r r', Q r r' → r = r') : a = b := by
  cases h with
  | same => rfl
  | register h => rw [hQ _ _ h]

/-- Two scripts ask alike and go on alike with the same answers, if these are a manager's. -/
inductive ServiceScript.Alike {η : Type} (m : ServiceManager η)
    (Q : RegistrationRequest → RegistrationRequest → Prop) (about : String → Prop) :
    ServiceScript → ServiceScript → Prop
  | done (result : Except OperationError Unit) : Alike m Q about (.done result) (.done result)
  | ask {query : ServiceQuery} {next next' : query.Answer → ServiceScript}
      (habout : ∀ service ∈ query.service?, about service)
      (hnext : ∀ answer, Alike m Q about (next answer) (next' answer)) :
      Alike m Q about (.ask query next) (.ask query next')
  | register {r r' : RegistrationRequest}
      {next next' : Except Fault Rollback.State → ServiceScript} (h : Q r r')
      (hnext : ∀ w, Alike m Q about (next (m.registrar.install r w).1)
        (next' (m.registrar.install r w).1)) :
      Alike m Q about (.ask (.register r) next) (.ask (.register r') next')

namespace ServiceScript

variable {η : Type} {m : ServiceManager η} {R : World η → World η → Prop}
  {Q : RegistrationRequest → RegistrationRequest → Prop} {about : String → Prop}

/-- **Scripts that are alike are performed alike.** -/
theorem Alike.perform {script script' : ServiceScript} (h : script.Alike m Q about script')
    (hm : m.Compares R Q about) {w w' : World η} (hw : R w w') :
    List.Forall₂ (Exchange.Alike Q) (script.perform m w).exchanges
      (script'.perform m w').exchanges ∧
    (script.perform m w).result = (script'.perform m w').result ∧
    R (script.perform m w).world (script'.perform m w').world := by
  induction h generalizing w w' with
  | done result => exact ⟨.nil, rfl, hw⟩
  | @ask query next next' habout hnext ih =>
    obtain ⟨hanswer, hworld⟩ := hm.answer query habout w w' hw
    obtain ⟨hexchanges, hresult, hworld'⟩ := ih (m.answer query w).1 hworld
    rw [ServiceScript.perform, ServiceScript.perform, ← hanswer]
    exact ⟨.cons (.same _) hexchanges, hresult, hworld'⟩
  | @register r r' next next' hr hnext ih =>
    obtain ⟨hanswer, hworld⟩ := hm.install hr w w' hw
    obtain ⟨hexchanges, hresult, hworld'⟩ := ih w hworld
    have hrun : m.answer (.register r) w = m.registrar.install r w := rfl
    have hrun' : m.answer (.register r') w' = m.registrar.install r' w' := rfl
    rw [ServiceScript.perform, ServiceScript.perform, hrun, hrun', ← hanswer]
    exact ⟨.cons (.register hr _) hexchanges, hresult, hworld'⟩

/-- The script for a record is compared with itself. -/
theorem alike_recordScript {d : ServiceProfile} (h : about d.name) :
    (recordScript d).Alike m Q about (recordScript d) := by
  have hname : ∀ service ∈ some d.name, about service := by
    rintro service ⟨⟩
    exact h
  refine .ask hname fun answer ↦ ?_
  rcases answer with why | - | current
  · exact .done _
  · exact .done _
  · dsimp only
    rcases executablePart current with e | front
    · exact .done _
    · refine .ask hname fun answer ↦ ?_
      rcases answer with why | ⟨⟩
      · exact .done _
      · exact .done _

/-- The script for an unregistration by a state is compared with itself. -/
theorem alike_unregisterScript {service : String} (h : about service) (state : Rollback.State) :
    (unregisterScript service state).Alike m Q about (unregisterScript service state) := by
  have hname : ∀ other ∈ some service, about other := by
    rintro other ⟨⟩
    exact h
  refine .ask hname fun answer ↦ ?_
  rcases answer with why | ⟨⟩
  · exact .done _
  · exact .ask hname fun _ ↦ .done _

/-- So is the one by the default state. -/
theorem alike_standInScript {service : String} (h : about service) :
    (m.standInScript service).Alike m Q about (m.standInScript service) := by
  rw [ServiceManager.standInScript]
  split
  · exact .ask (by rintro other ⟨⟩) fun _ ↦ alike_unregisterScript h _
  · exact .done _

/-- So is the one for an unregistration as a whole. -/
theorem alike_uninstallScript {service : String} (h : about service) :
    (m.uninstallScript service).Alike m Q about (m.uninstallScript service) := by
  rw [ServiceManager.uninstallScript]
  split
  · refine .ask ?_ fun answer ↦ ?_
    · rintro other ⟨⟩
      exact h
    · rcases m.store.stateIn service answer with e | - | state
      · exact .done _
      · exact alike_standInScript h
      · exact alike_unregisterScript h state
  · exact alike_standInScript h

/-- Profiles of one service with one argument line are registered alike. -/
theorem alike_installScript (hm : m.Compares R Q about) {d d' : ServiceProfile} (isNew : Bool)
    (h : about d.name) (hname : d'.name = d.name) (hline : d'.argumentLine = d.argumentLine)
    (hrequest : Q (d.registrationRequest m.launcher) (d'.registrationRequest m.launcher)) :
    (m.installScript d isNew).Alike m Q about (m.installScript d' isNew) := by
  have hrecord : recordScript d' = recordScript d := by
    rw [recordScript, recordScript, hname, hline]
  rw [ServiceManager.installScript, ServiceManager.installScript, hrecord, hname]
  split
  · refine .register hrequest fun w ↦ ?_
    rcases hanswer : (m.registrar.install (d.registrationRequest m.launcher) w).1 with why | state
    · exact .done _
    · dsimp only
      split
      · refine .ask ?_ fun _ ↦ alike_recordScript h
        rintro service ⟨⟩
        exact hm.named hrequest hanswer
      · exact alike_recordScript h
  · exact alike_recordScript h

end ServiceScript

/-! ### Registrations and unregistrations side by side -/

/-- Two operations are alike on one of the services in question, but for what the installer is asked
to register. -/
inductive ServiceOperation.Alike {η : Type} (m : ServiceManager η)
    (Q : RegistrationRequest → RegistrationRequest → Prop) (about : String → Prop) :
    ServiceOperation → ServiceOperation → Prop
  | install {d d' : ServiceProfile} (isNew : Bool) (habout : about d.name)
      (hname : d'.name = d.name) (hline : d'.argumentLine = d.argumentLine)
      (hrequest : Q (d.registrationRequest m.launcher) (d'.registrationRequest m.launcher)) :
      Alike m Q about (.install d isNew) (.install d' isNew)
  | uninstall {service : String} (habout : about service) :
      Alike m Q about (.uninstall service) (.uninstall service)

namespace ServiceOperation.Alike

variable {η : Type} {m : ServiceManager η} {R : World η → World η → Prop}
  {Q : RegistrationRequest → RegistrationRequest → Prop} {about : String → Prop}
  {o o' : ServiceOperation}

theorem about_service (h : o.Alike m Q about o') : about o.service := by
  cases h with
  | install isNew habout => exact habout
  | uninstall habout => exact habout

theorem service_eq (h : o.Alike m Q about o') : o'.service = o.service := by
  cases h with
  | install isNew habout hname => exact hname
  | uninstall habout => rfl

theorem phase_eq (h : o.Alike m Q about o') : o'.phase = o.phase := by
  cases h <;> rfl

theorem script (h : o.Alike m Q about o') (hm : m.Compares R Q about) :
    (o.script m).Alike m Q about (o'.script m) := by
  cases h with
  | install isNew habout hname hline hrequest =>
    exact ServiceScript.alike_installScript hm isNew habout hname hline hrequest
  | uninstall habout => exact ServiceScript.alike_uninstallScript habout

/-- Operations that are alike are refused alike, and performed alike if they are not refused. -/
theorem perform (h : o.Alike m Q about o') (hm : m.Compares R Q about) {w w' : World η}
    (hw : R w w') :
    List.Forall₂ (Exchange.Alike Q) (o.perform m w).exchanges (o'.perform m w').exchanges ∧
      (o.perform m w).result = (o'.perform m w').result ∧
      R (o.perform m w).world (o'.perform m w').world := by
  rw [ServiceOperation.perform, ServiceOperation.perform, h.service_eq, h.phase_eq,
    hm.phase hw h.about_service]
  rcases w.phases.of? o.service with - | current
  · obtain ⟨hexchanges, hresult, hworld⟩ :=
      (h.script hm).perform hm (hm.entering o.phase hw h.about_service)
    exact ⟨hexchanges, hresult, hm.leaving hworld h.about_service⟩
  · exact ⟨.nil, rfl, hw⟩

end ServiceOperation.Alike

/-! ### Starting and stopping side by side -/

namespace ServiceManager.Compares

variable {η : Type} {m : ServiceManager η} {R : World η → World η → Prop}
  {Q : RegistrationRequest → RegistrationRequest → Prop} {about : String → Prop}
  {service : String}

/-- A check whether an operation is cancelled respects the relation. -/
theorem respects_checkCancelled (hm : m.Compares R Q about) :
    Respects R (checkCancelled service) (checkCancelled service) := by
  intro w w' hw
  rw [checkCancelled_eq, checkCancelled_eq, hm.cancelled hw]
  split
  · exact ⟨rfl, hw⟩
  · exact ⟨rfl, hw⟩

/-- So does computing the end of a wait. -/
theorem respects_deadline (hm : m.Compares R Q about) : Respects R m.deadline m.deadline := by
  intro w w' hw
  rw [deadline_eq, deadline_eq, hm.clock hw]
  exact ⟨rfl, hw⟩

/-- So does a pause. -/
theorem respects_pause (hm : m.Compares R Q about) : Respects R m.pause m.pause := by
  intro w w' hw
  refine ⟨rfl, ?_⟩
  show R { w with clock := w.clock + m.waiting.pauseMs * 1000000 }
    { w' with clock := w'.clock + m.waiting.pauseMs * 1000000 }
  rw [hm.clock hw]
  exact hm.later _ hw

section

variable (hm : m.Compares R Q about) (hservice : about service)

include hm hservice

/-- So does asking for the state of a service. -/
theorem respects_stateOf : Respects R (m.stateOf service) (m.stateOf service) := by
  refine (Respects.call (hm.status hservice)).bind fun answer ↦ ?_
  rcases answer with - | state
  · exact .throw _
  · exact .pure state

/-- So does polling, whatever its end is. -/
theorem respects_poll (target : RunState) (deadline : Option Nat) (queries : Nat) :
    Respects R (m.poll service target deadline queries)
      (m.poll service target deadline queries) := by
  induction queries with
  | zero => exact .throw _
  | succ queries ih =>
    refine (hm.respects_stateOf hservice).bind fun state ↦ ?_
    by_cases hstate : state = target
    · simp only [if_pos hstate]
      exact .pure ()
    · simp only [if_neg hstate]
      -- The clock decides alike in both runs whether the time is up.
      refine .read fun w w' hw ↦ ?_
      rw [hm.clock hw]
      by_cases hlate : deadline.any (· ≤ w.clock) = true
      · simp only [if_pos hlate]
        exact Respects.throw _ w w' hw
      · simp only [if_neg hlate]
        exact hm.respects_pause.bind (fun _ ↦ ih) w w' hw

/-- So does waiting for a state. -/
theorem respects_awaitState (target : RunState) :
    Respects R (m.awaitState service target) (m.awaitState service target) :=
  hm.respects_deadline.bind fun deadline ↦ hm.respects_poll hservice target deadline m.patience

/-- So does a request. -/
theorem respects_request (t : Turn) : Respects R (t.request m service) (t.request m service) := by
  cases t
  · exact .call (hm.start hservice)
  · exact .call (hm.stop hservice)

/-- So does a turn. -/
theorem respects_turn (t : Turn) : Respects R (t.run m service) (t.run m service) := by
  have hrequested : Respects R
      (t.request m service >>= fun _ ↦ m.awaitState service t.goal)
      (t.request m service >>= fun _ ↦ m.awaitState service t.goal) :=
    (hm.respects_request hservice t).bind fun _ ↦ hm.respects_awaitState hservice t.goal
  rw [Turn.run_eq]
  refine (hm.respects_stateOf hservice).bind fun state ↦ ?_
  split
  · exact .pure ()
  · split
    · exact hm.respects_awaitState hservice t.goal
    · split
      · exact (hm.respects_awaitState hservice t.other.goal).bind fun _ ↦ hrequested
      · exact hrequested

/-- **Starting, stopping and restarting a service go alike in related worlds.** -/
theorem respects_control (o : ControlOperation) :
    Respects R (o.run m service) (o.run m service) := by
  have hstop : Respects R (m.stop service) (m.stop service) := hm.respects_turn hservice .stop
  have hstart : Respects R (m.start service) (m.start service) := hm.respects_turn hservice .start
  cases o with
  | turn t => exact hm.respects_turn hservice t
  | restart => exact hstop.bind fun _ ↦ hstart
  | restartUnlessCancelled =>
    exact hm.respects_checkCancelled.bind fun _ ↦ hstop.bind fun _ ↦
      hm.respects_checkCancelled.bind fun _ ↦ hstart

/-- So does asking how a service stands. -/
theorem respects_standing : Respects R (m.standing service) (m.standing service) := by
  refine .read fun w w' hw ↦ ?_
  rw [hm.phase hw hservice]
  rcases w.phases.of? service with - | phase
  · refine (Respects.call (hm.status hservice)).bind (fun answer ↦ ?_) w w' hw
    rcases answer with - | state
    · exact .pure _
    · exact .pure _
  · exact Respects.pure _ w w' hw

end

end ServiceManager.Compares

/-! ### All operations of a manager -/

/-- An operation of a manager. -/
inductive ManagerOperation
  /-- A registration, an update or an unregistration. -/
  | change (o : ServiceOperation)
  /-- A start, a stop or a restart. -/
  | control (o : ControlOperation) (service : String)
  /-- The question for the phase of a service. -/
  | standing (service : String)
  /-- The question for the state of a registered service. -/
  | stateOf (service : String)

/-- What came of an operation. -/
inductive ManagerResult
  | change (result : Except OperationError Unit)
  | control (result : Except Halt Unit)
  | standing (result : Except Halt ServiceStanding)
  | stateOf (result : Except Halt RunState)

/-- What the installer, the records and the store were asked in an operation, with the answers, and
what came of it. -/
structure ManagerOutcome where
  exchanges : List Exchange
  result : ManagerResult

namespace ManagerOutcome

/-- The outcome of an operation that asks for nothing but the control of services. -/
def quiet {α η : Type} (result : Except Halt α → ManagerResult) (r : Except Halt α × World η) :
    ManagerOutcome × World η :=
  (⟨[], result r.1⟩, r.2)

/-- The results are the same, and so is what was asked and answered, but for requests that are
compared by a relation. -/
structure Alike (Q : RegistrationRequest → RegistrationRequest → Prop) (a b : ManagerOutcome) :
    Prop where
  exchanges : List.Forall₂ (Exchange.Alike Q) a.exchanges b.exchanges
  result : a.result = b.result

/-- Outcomes that are alike are the same if the requests are. -/
theorem Alike.eq {Q : RegistrationRequest → RegistrationRequest → Prop} {a b : ManagerOutcome}
    (h : a.Alike Q b) (hQ : ∀ r r', Q r r' → r = r') : a = b := by
  have hexchanges : a.exchanges = b.exchanges :=
    List.forall₂_eq_eq_eq ▸ h.exchanges.imp fun _ _ h ↦ h.eq hQ
  rcases a with ⟨exchanges, result⟩
  obtain rfl : exchanges = b.exchanges := hexchanges
  obtain rfl : result = b.result := h.result
  rfl

end ManagerOutcome

theorem Respects.quiet {η α : Type} {R : World η → World η → Prop} {op op' : SetupM η α}
    (h : Respects R op op') (Q : RegistrationRequest → RegistrationRequest → Prop)
    (result : Except Halt α → ManagerResult) {w w' : World η} (hw : R w w') :
    (ManagerOutcome.quiet result (op w)).1.Alike Q (ManagerOutcome.quiet result (op' w')).1 ∧
      R (ManagerOutcome.quiet result (op w)).2 (ManagerOutcome.quiet result (op' w')).2 :=
  ⟨⟨.nil, congrArg result (h w w' hw).1⟩, (h w w' hw).2⟩

namespace ManagerOperation

variable {η : Type}

/-- Does an operation in a world. -/
def perform (m : ServiceManager η) : ManagerOperation → World η → ManagerOutcome × World η
  | change o, w =>
    (⟨(o.perform m w).exchanges, .change (o.perform m w).result⟩, (o.perform m w).world)
  | control o service, w => ManagerOutcome.quiet .control (o.run m service w)
  | standing service, w => ManagerOutcome.quiet .standing (m.standing service w)
  | stateOf service, w => ManagerOutcome.quiet .stateOf (m.stateOf service w)

/-- The service of an operation. -/
def service : ManagerOperation → String
  | change o => o.service
  | control _ service => service
  | standing service => service
  | stateOf service => service

/-- Two operations are the same on one of the services in question, but for what the installer is
asked to register. -/
inductive Alike (m : ServiceManager η) (Q : RegistrationRequest → RegistrationRequest → Prop)
    (about : String → Prop) : ManagerOperation → ManagerOperation → Prop
  | change {o o' : ServiceOperation} (h : o.Alike m Q about o') :
      Alike m Q about (.change o) (.change o')
  | control (o : ControlOperation) {service : String} (h : about service) :
      Alike m Q about (.control o service) (.control o service)
  | standing {service : String} (h : about service) :
      Alike m Q about (.standing service) (.standing service)
  | stateOf {service : String} (h : about service) :
      Alike m Q about (.stateOf service) (.stateOf service)

end ManagerOperation

section

variable {η : Type} {m : ServiceManager η} {Q : RegistrationRequest → RegistrationRequest → Prop}
  {about : String → Prop}

theorem ServiceOperation.alike_refl (hQ : ∀ r, about r.serviceName → Q r r) (o : ServiceOperation)
    (h : about o.service) : o.Alike m Q about o := by
  cases o with
  | install d isNew => exact .install isNew h rfl rfl (hQ _ h)
  | uninstall service => exact .uninstall h

/-- An operation on one of the services is the same as itself. -/
theorem ManagerOperation.alike_refl (hQ : ∀ r, about r.serviceName → Q r r) (o : ManagerOperation)
    (h : about o.service) : o.Alike m Q about o := by
  cases o with
  | change o => exact .change (o.alike_refl hQ h)
  | control o service => exact .control o h
  | standing service => exact .standing h
  | stateOf service => exact .stateOf h

end

/-- Does operations one after the other. -/
def ServiceManager.performAll {η : Type} (m : ServiceManager η) :
    List ManagerOperation → World η → List ManagerOutcome × World η
  | [], w => ([], w)
  | o :: rest, w =>
    let done := o.perform m w
    let later := m.performAll rest done.2
    (done.1 :: later.1, later.2)

namespace ServiceManager.Compares

variable {η : Type} {m : ServiceManager η} {R : World η → World η → Prop}
  {Q : RegistrationRequest → RegistrationRequest → Prop} {about : String → Prop}

/-- **One operation**: it has the same outcome in related worlds and leaves such worlds. -/
theorem perform (hm : m.Compares R Q about) {o o' : ManagerOperation} (h : o.Alike m Q about o')
    {w w' : World η} (hw : R w w') :
    (o.perform m w).1.Alike Q (o'.perform m w').1 ∧ R (o.perform m w).2 (o'.perform m w').2 := by
  cases h with
  | change h =>
    obtain ⟨hexchanges, hresult, hworld⟩ := h.perform hm hw
    exact ⟨⟨hexchanges, congrArg ManagerResult.change hresult⟩, hworld⟩
  | control o h => exact (hm.respects_control h o).quiet Q .control hw
  | standing h => exact (hm.respects_standing h).quiet Q .standing hw
  | stateOf h => exact (hm.respects_stateOf h).quiet Q .stateOf hw

/-- **Operations one after the other** have the same outcomes in related worlds and leave such
worlds. -/
theorem performAll (hm : m.Compares R Q about) {os os' : List ManagerOperation}
    (h : List.Forall₂ (ManagerOperation.Alike m Q about) os os') {w w' : World η} (hw : R w w') :
    List.Forall₂ (ManagerOutcome.Alike Q) (m.performAll os w).1 (m.performAll os' w').1 ∧
      R (m.performAll os w).2 (m.performAll os' w').2 := by
  induction h generalizing w w' with
  | nil => exact ⟨.nil, hw⟩
  | cons ho _ ih =>
    obtain ⟨houtcome, hworld⟩ := hm.perform ho hw
    obtain ⟨houtcomes, hworlds⟩ := ih hworld
    exact ⟨.cons houtcome houtcomes, hworlds⟩

end ServiceManager.Compares

end ServerSetup
