import ServerSetup.Proofs.Rollback.Store
import ServerSetup.ServiceManager

/-!
# Operations on services as scripts

Registering and unregistering a service is a conversation with the installer, the service records
and the store of states. A script is such a conversation before it is held: it asks for one thing
and goes on with the answer. Performing a script notes each query with its answer, so that one can
say what an operation has asked for and in which order. The scripts of this module do what the
operations of a `ServiceManager` do (`run_eq_perform`).

There are two ways to speak of a script. Its courses are the exchanges that it may come to if every
query may get any answer (`Course`), and its performance is the one course that comes of the answers
of a world (`perform`, `course_perform`). What holds of all courses is shown by cases on the script
alone and needs nothing of the ports. What depends on the state between two queries is shown by
induction on the script, with the world carried along.

Reading the file of a service counts as one query, whose answer is the bytes or why there are none.
What the store makes of them is computed by the script, so that a course determines its result
(`Course.unique`).
-/

namespace ServerSetup

/-! ### Queries and scripts -/

/-- What an operation on a service asks for. -/
inductive ServiceQuery
  /-- The installer is to register a service. -/
  | register (request : RegistrationRequest)
  /-- The installer is to unregister a service as a state says. -/
  | unregister (service : String) (state : Rollback.State)
  /-- The record of a service. -/
  | readRecord (service : String)
  /-- The record of a service is to be written. -/
  | writeRecord (service record : String)
  /-- The store is to keep a state. -/
  | save (state : Rollback.State)
  /-- The content of the file that the store has for a service. -/
  | load (service : String)
  /-- The store is to remove the file of a service. -/
  | forget (service : String)
  /-- A fresh identifier and the present moment. -/
  | stamp

namespace ServiceQuery

/-- The answers that a query may get. -/
abbrev Answer : ServiceQuery → Type
  | register _ => Except Fault Rollback.State
  | unregister _ _ => Except Fault Unit
  | readRecord _ => Except Fault (Option String)
  | writeRecord _ _ => Except Fault Unit
  | save _ => Except OperationError String
  | load _ => FileReading
  | forget _ => Except OperationError Bool
  | stamp => Identifier × Moment

end ServiceQuery

/-- A query together with the answer it got. -/
inductive Exchange
  | register (request : RegistrationRequest) (answer : Except Fault Rollback.State)
  | unregister (service : String) (state : Rollback.State) (answer : Except Fault Unit)
  | readRecord (service : String) (answer : Except Fault (Option String))
  | writeRecord (service record : String) (answer : Except Fault Unit)
  | save (state : Rollback.State) (answer : Except OperationError String)
  | load (service : String) (answer : FileReading)
  | forget (service : String) (answer : Except OperationError Bool)
  | stamp (answer : Identifier × Moment)

/-- A query with an answer. -/
def ServiceQuery.exchange : (query : ServiceQuery) → query.Answer → Exchange
  | register request, answer => .register request answer
  | unregister service state, answer => .unregister service state answer
  | readRecord service, answer => .readRecord service answer
  | writeRecord service record, answer => .writeRecord service record answer
  | save state, answer => .save state answer
  | load service, answer => .load service answer
  | forget service, answer => .forget service answer
  | stamp, answer => .stamp answer

/-- An operation that asks for one thing after the other. -/
inductive ServiceScript
  | done (result : Except OperationError Unit)
  | ask (query : ServiceQuery) (next : query.Answer → ServiceScript)

/-- The exchanges and the result that a script may come to, whatever the answers are. -/
inductive ServiceScript.Course : ServiceScript → List Exchange → Except OperationError Unit → Prop
  | done (result : Except OperationError Unit) : Course (.done result) [] result
  | ask {query : ServiceQuery} {next : query.Answer → ServiceScript} {answer : query.Answer}
      {exchanges : List Exchange} {result : Except OperationError Unit}
      (hrest : Course (next answer) exchanges result) :
      Course (.ask query next) (query.exchange answer :: exchanges) result

namespace ServiceScript

variable {exchanges : List Exchange} {result result' : Except OperationError Unit}

/-- A script that is done has one course. -/
theorem course_done_iff :
    (done result).Course exchanges result' ↔ exchanges = [] ∧ result' = result := by
  constructor
  · rintro ⟨⟩
    exact ⟨rfl, rfl⟩
  · rintro ⟨rfl, rfl⟩
    exact .done result'

/-- A course of a script that asks begins with the query, answered in some way. -/
theorem course_ask_iff {query : ServiceQuery} {next : query.Answer → ServiceScript} :
    (ask query next).Course exchanges result ↔ ∃ answer rest,
      exchanges = query.exchange answer :: rest ∧ (next answer).Course rest result := by
  constructor
  · rintro (- | hrest)
    exact ⟨_, _, rfl, hrest⟩
  · rintro ⟨answer, rest, rfl, hrest⟩
    exact .ask hrest

theorem exchange_injective {query : ServiceQuery} {answer answer' : query.Answer}
    (h : query.exchange answer = query.exchange answer') : answer = answer' := by
  cases query <;> exact (by simpa [ServiceQuery.exchange] using h)

/-- What was asked and answered determines the result. -/
theorem Course.unique {script : ServiceScript} (h : script.Course exchanges result)
    (h' : script.Course exchanges result') : result = result' := by
  induction h with
  | done result => exact (course_done_iff.1 h').2.symm
  | ask hrest ih =>
    obtain ⟨answer', rest, hexchanges, hrest'⟩ := course_ask_iff.1 h'
    rw [List.cons.injEq] at hexchanges
    obtain ⟨hexchange, rfl⟩ := hexchanges
    cases exchange_injective hexchange
    exact ih hrest'

end ServiceScript

/-! ### Scripts of the operations -/

/-- Writes the arguments of a service behind the executable in its record. -/
def recordScript (d : ServiceProfile) : ServiceScript :=
  .ask (.readRecord d.name) fun (answer : Except Fault (Option String)) ↦
    match answer with
    | .error why => .done (.error (.recordChange d.name why))
    | .ok none => .done (.error (.serviceNotFound d.name))
    | .ok (some current) =>
      match executablePart current with
      | .error e => .done (.error e)
      | .ok front =>
        .ask (.writeRecord d.name (front ++ " " ++ d.argumentLine))
          fun (answer : Except Fault Unit) ↦
            match answer with
            | .error why => .done (.error (.recordChange d.name why))
            | .ok () => .done (.ok ())

/-- Unregisters a service as a state says, and removes its file. -/
def unregisterScript (service : String) (state : Rollback.State) : ServiceScript :=
  .ask (.unregister service state) fun (answer : Except Fault Unit) ↦
    match answer with
    | .error why => .done (.error (.transaction service why))
    | .ok () => .ask (.forget service) fun _ ↦ .done (.ok ())

namespace ServiceManager

variable {η : Type} (m : ServiceManager η)

/-- Registers a service if it is new, and writes its record. -/
def installScript (d : ServiceProfile) (isNew : Bool) : ServiceScript :=
  if isNew then
    .ask (.register (d.registrationRequest m.launcher))
      fun (answer : Except Fault Rollback.State) ↦
        match answer with
        | .error why => .done (.error (.transaction d.name why))
        | .ok state =>
          if m.rollback.keepStates then .ask (.save state) fun _ ↦ recordScript d
          else recordScript d
  else recordScript d

/-- Unregisters a service as the default state says, if there is to be one. -/
def standInScript (service : String) : ServiceScript :=
  if m.rollback.standIn then
    .ask .stamp fun (answer : Identifier × Moment) ↦
      unregisterScript service (.synthetic answer.1 answer.2 service)
  else .done (.error (.stateNotFound service))

/-- Unregisters a service as the state that was kept says, or else as the default says. -/
def loadedScript (service : String) :
    Except OperationError (Option Rollback.State) → ServiceScript
  | .error e => .done (.error e)
  | .ok none => m.standInScript service
  | .ok (some state) => unregisterScript service state

/-- Unregisters a service by a state that was kept, if such states are read, or by the default. -/
def uninstallScript (service : String) : ServiceScript :=
  if m.rollback.readStates then
    .ask (.load service) fun answer ↦ m.loadedScript service (m.store.stateIn service answer)
  else m.standInScript service

end ServiceManager

/-! ### Performances -/

/-- What has been done in performing a script. -/
structure Performance (η : Type) where
  exchanges : List Exchange
  result : Except OperationError Unit
  world : World η

/-- The answer of a world to a query, and the world behind it. -/
def ServiceManager.answer {η : Type} (m : ServiceManager η) :
    (query : ServiceQuery) → World η → query.Answer × World η
  | .register request, w => m.registrar.install request w
  | .unregister service state, w => m.registrar.uninstall service state w
  | .readRecord service, w => m.records.record service w
  | .writeRecord service record, w => m.records.setRecord service record w
  | .save state, w =>
    ((m.store.save state w.disk).1, { w with disk := (m.store.save state w.disk).2 })
  | .load service, w => (w.disk.read (m.store.path service), w)
  | .forget service, w =>
    ((m.store.remove service w.disk).1, { w with disk := (m.store.remove service w.disk).2 })
  | .stamp, w => ((.fresh w.drawn, w.now), { w with drawn := w.drawn + 1 })

/-- Each port leaves the phases as it finds them. -/
def ServiceManager.KeepsPhases {η : Type} (m : ServiceManager η) : Prop :=
  ∀ query w, (m.answer query w).2.phases = w.phases

namespace ServiceScript

variable {η : Type} (m : ServiceManager η)

/-- Performs a script in a world. -/
def perform : ServiceScript → World η → Performance η
  | done result, w => ⟨[], result, w⟩
  | ask query next, w =>
    let answered := m.answer query w
    let rest := (next answered.1).perform answered.2
    { rest with exchanges := query.exchange answered.1 :: rest.exchanges }

/-- A script as an operation. -/
def run (script : ServiceScript) : SetupM η Unit := fun w ↦
  ((script.perform m w).result.mapError .failed, (script.perform m w).world)

variable {m}

/-- Performing a script goes one of its courses. -/
theorem course_perform (script : ServiceScript) (w : World η) :
    script.Course (script.perform m w).exchanges (script.perform m w).result := by
  induction script generalizing w with
  | done result => exact .done result
  | ask query next ih => exact .ask (ih _ _)

/-- Performing a script leaves the phases as they are, if the ports do. -/
theorem phases_perform (hports : m.KeepsPhases) (script : ServiceScript) (w : World η) :
    (script.perform m w).world.phases = w.phases := by
  induction script generalizing w with
  | done result => rfl
  | ask query next ih => exact (ih _ _).trans (hports query w)

/-- A script that is performed while a service is in a phase asks for nothing outside of this phase:
what a manager would answer in other worlds makes no difference. -/
theorem perform_congr {m' : ServiceManager η} {service : String} {phase : Transition}
    (hports : m.KeepsPhases)
    (hagree : ∀ query w, w.phases.of? service = some phase → m'.answer query w = m.answer query w)
    (script : ServiceScript) {w : World η} (hw : w.phases.of? service = some phase) :
    script.perform m' w = script.perform m w := by
  induction script generalizing w with
  | done result => rfl
  | ask query next ih =>
    have hafter : (m.answer query w).2.phases.of? service = some phase := by rwa [hports]
    rw [perform, perform, hagree query w hw, ih _ hafter]

end ServiceScript

/-! ### The operations -/

/-- A registration or update of a service, or its unregistration. -/
inductive ServiceOperation
  | install (d : ServiceProfile) (isNew : Bool)
  | uninstall (service : String)

namespace ServiceOperation

/-- The service of an operation. -/
def service : ServiceOperation → String
  | install d _ => d.name
  | uninstall service => service

/-- The phase in which the service is during an operation. -/
def phase : ServiceOperation → Transition
  | install _ _ => .installing
  | uninstall _ => .uninstalling

variable {η : Type} (m : ServiceManager η)

/-- The operation of a manager. -/
def run : ServiceOperation → SetupM η Unit
  | install d isNew => m.install d isNew
  | uninstall service => m.uninstall service

/-- The script of an operation. -/
def script : ServiceOperation → ServiceScript
  | install d isNew => m.installScript d isNew
  | uninstall service => m.uninstallScript service

/-- Performs an operation: it is refused if the service is in a phase, or else its script is
performed while the service is in the phase of the operation. -/
def perform (o : ServiceOperation) (w : World η) : Performance η :=
  match w.phases.of? o.service with
  | some current => ⟨[], .error (.busy o.service current), w⟩
  | none =>
    let inside := (o.script m).perform m (w.entering o.service o.phase)
    { inside with world := inside.world.leaving o.service }

end ServiceOperation

namespace ServiceManager

variable {η : Type} {m : ServiceManager η}

/-- Entering a profile in a record does what its script says. -/
theorem enterRecord_eq_run (d : ServiceProfile) : m.enterRecord d = (recordScript d).run m := by
  funext w
  rw [enterRecord, SetupM.call_bind_eq]
  simp only [ServiceScript.run, recordScript, ServiceScript.perform, answer]
  rcases m.records.record d.name w with ⟨why | - | current, w₁⟩
  · rfl
  · rfl
  · dsimp only
    rcases executablePart current with e | front
    · rfl
    · show SetupM.call _ _ w₁ = _
      rw [SetupM.call]
      simp only [ServiceScript.perform, answer]
      rcases m.records.setRecord d.name (front ++ " " ++ d.argumentLine) w₁ with ⟨why | -, w₂⟩
      · rfl
      · rfl

/-- So does unregistering a service by a state. -/
theorem unregister_eq_run (service : String) (state : Rollback.State) :
    (do
      SetupM.call (.transaction service) (m.registrar.uninstall service state)
      SetupM.attempt (SetupM.store (m.store.remove service))) =
    (unregisterScript service state).run m := by
  funext w
  rw [SetupM.call_bind_eq]
  simp only [ServiceScript.run, unregisterScript, ServiceScript.perform, answer]
  rcases m.registrar.uninstall service state w with ⟨why | -, w₁⟩
  · rfl
  · dsimp only
    rw [SetupM.attempt_store_eq]
    rfl

/-- So does unregistering it by the default state. -/
theorem standIn_eq_run (service : String) :
    ((if m.rollback.standIn then do
        let id ← @World.draw η
        return .synthetic id (← get).now service
      else SetupM.fail (.stateNotFound service)) >>=
        fun state ↦ (unregisterScript service state).run m) =
      (m.standInScript service).run m := by
  rw [standInScript]
  rcases m.rollback.standIn with - | -
  · rfl
  · rfl

/-- So does unregistering it by the kept state or the default. -/
theorem stateForRollback_eq_run (service : String) :
    (m.stateForRollback service >>= fun state ↦ (unregisterScript service state).run m) =
      (m.uninstallScript service).run m := by
  funext w
  rw [stateForRollback, uninstallScript]
  rcases m.rollback.readStates with - | -
  · exact congrFun (standIn_eq_run service) w
  · simp only [if_true, bind_assoc, ServiceScript.run, ServiceScript.perform, answer]
    show (SetupM.ofExcept (m.store.load service w.disk) >>= _) w = _
    rw [Rollback.Store.load_eq, SetupM.ofExcept_bind_eq]
    rcases m.store.stateIn service (w.disk.read (m.store.path service)) with e | - | state
    · rfl
    · exact congrFun (standIn_eq_run service) w
    · rfl

/-- An unregistration does what its script says while the service is in its phase. -/
theorem uninstall_eq_run (service : String) :
    m.uninstall service =
      SetupM.inPhase service .uninstalling ((m.uninstallScript service).run m) := by
  rw [← stateForRollback_eq_run]
  simp only [← unregister_eq_run]
  rfl

/-- So does a registration or update. -/
theorem install_eq_run (d : ServiceProfile) (isNew : Bool) :
    m.install d isNew = SetupM.inPhase d.name .installing ((m.installScript d isNew).run m) := by
  rcases isNew with - | -
  · exact congrArg (SetupM.inPhase d.name .installing) (enterRecord_eq_run d)
  · have hbody : (m.register d >>= fun _ ↦ m.enterRecord d) = (m.installScript d true).run m := by
      funext w
      rw [enterRecord_eq_run, register, bind_assoc, SetupM.call_bind_eq]
      simp only [ServiceScript.run, installScript, if_true, ServiceScript.perform, answer]
      rcases m.registrar.install (d.registrationRequest m.launcher) w with ⟨why | state, w₁⟩
      · rfl
      · dsimp only
        rcases m.rollback.keepStates with - | -
        · rfl
        · simp only [if_true, SetupM.bind_eq, SetupM.attempt_store_eq]
          rfl
    exact congrArg (SetupM.inPhase d.name .installing) hbody

end ServiceManager

/-- An operation does what its script says while the service is in its phase. -/
theorem ServiceOperation.run_eq_inPhase {η : Type} {m : ServiceManager η} (o : ServiceOperation) :
    o.run m = SetupM.inPhase o.service o.phase ((o.script m).run m) := by
  rcases o with ⟨d, isNew⟩ | service
  · exact ServiceManager.install_eq_run d isNew
  · exact ServiceManager.uninstall_eq_run service

/-- **An operation does what its script says**: it has the result of the performance and leaves the
world that the performance leaves. -/
theorem ServiceOperation.run_eq_perform {η : Type} {m : ServiceManager η} (o : ServiceOperation)
    (w : World η) :
    o.run m w = ((o.perform m w).result.mapError .failed, (o.perform m w).world) := by
  rw [o.run_eq_inPhase, SetupM.inPhase, perform]
  rcases w.phases.of? o.service with - | current
  · rfl
  · rfl

end ServerSetup
