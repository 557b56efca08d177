import ServerSetup.Proofs.ServiceManager.Script

/-!
# What the result of an operation tells

The result of a registration or an unregistration tells what was changed: which ports were called
and what came of it.

An operation is a script, and a script has a handful of courses: the exchanges that it may come to,
with its result. They are listed for each of the scripts (`Recording`, `Installing`,
`Unregistering`, `Uninstalling`), and every course of the script is in its list whatever the answers
are. The reports are then read off these lists. `InstallReport` and `UninstallReport` have a field
for each result, which says what was asked for and answered exactly if the operation ended with it.

Between the two operations the question about the state of a service differs. A registration saves
the state that it was given, and what comes of this is not in its result (`unique_of_filter`). An
unregistration needs a state, and what the store finds for the service (`keptState?`) decides
between the kept state, the default and an error.
-/

namespace ServerSetup

open CommandLine

/-! ### The courses of an operation -/

namespace Exchange

/-- Whether a state was to be saved. -/
def isSave : Exchange → Bool
  | save _ _ => true
  | _ => false

/-- Whether a service was to be registered or its state to be saved. -/
def registers : Exchange → Bool
  | register _ _ => true
  | save _ _ => true
  | _ => false

/-- Whether the file of a service was read. -/
def loads : Exchange → Bool
  | load _ _ => true
  | _ => false

/-- Whether nothing but the file of a service was read or a default state was made. -/
def prepares : Exchange → Bool
  | load _ _ => true
  | stamp _ => true
  | _ => false

end Exchange

/-- The courses of an update of a record. -/
inductive ServiceProfile.Recording (d : ServiceProfile) :
    List Exchange → Except OperationError Unit → Prop
  | unreadable (why : Fault) :
    Recording d [.readRecord d.name (.error why)] (.error (.recordChange d.name why))
  | missing : Recording d [.readRecord d.name (.ok none)] (.error (.serviceNotFound d.name))
  | malformed (current : String) (hfront : executablePart? current = none) :
    Recording d [.readRecord d.name (.ok (some current))]
      (.error (.malformedRecord (.noExecutable current)))
  | unwritable (current front : String) (why : Fault)
      (hfront : executablePart? current = some front) :
    Recording d
      [.readRecord d.name (.ok (some current)),
        .writeRecord d.name (front ++ " " ++ d.argumentLine) (.error why)]
      (.error (.recordChange d.name why))
  | written (current front : String) (hfront : executablePart? current = some front) :
    Recording d
      [.readRecord d.name (.ok (some current)),
        .writeRecord d.name (front ++ " " ++ d.argumentLine) (.ok ())]
      (.ok ())

/-- Every course of the script for a record is one of these. -/
theorem recording_of_course {d : ServiceProfile} {exchanges : List Exchange}
    {result : Except OperationError Unit} (h : (recordScript d).Course exchanges result) :
    d.Recording exchanges result := by
  obtain ⟨answer, rest, rfl, hread⟩ := ServiceScript.course_ask_iff.1 h
  rcases answer with why | - | current
  · obtain ⟨rfl, rfl⟩ := ServiceScript.course_done_iff.1 hread
    exact .unreadable why
  · obtain ⟨rfl, rfl⟩ := ServiceScript.course_done_iff.1 hread
    exact .missing
  · dsimp only [executablePart] at hread
    rcases hfront : executablePart? current with - | front
    · rw [hfront] at hread
      obtain ⟨rfl, rfl⟩ := ServiceScript.course_done_iff.1 hread
      exact .malformed current hfront
    · rw [hfront] at hread
      obtain ⟨answer, rest, rfl, hwrite⟩ := ServiceScript.course_ask_iff.1 hread
      rcases answer with why | ⟨⟩
      · obtain ⟨rfl, rfl⟩ := ServiceScript.course_done_iff.1 hwrite
        exact .unwritable current front why hfront
      · obtain ⟨rfl, rfl⟩ := ServiceScript.course_done_iff.1 hwrite
        exact .written current front hfront

namespace ServiceManager

variable {η : Type} {m : ServiceManager η} {d : ServiceProfile} {isNew : Bool} {service : String}
  {file : FileReading} {exchanges : List Exchange} {result : Except OperationError Unit}

/-- What comes before the update of the record: nothing for a service that is there, or else its
registration, whose state is saved if states are kept. -/
inductive Registering (m : ServiceManager η) (d : ServiceProfile) : Bool → List Exchange → Prop
  | there : Registering m d false []
  | registered (state : Rollback.State) (hkeep : m.rollback.keepStates = false) :
    Registering m d true [.register (d.registrationRequest m.launcher) (.ok state)]
  | saved (state : Rollback.State) (answer : Except OperationError String)
      (hkeep : m.rollback.keepStates = true) :
    Registering m d true
      [.register (d.registrationRequest m.launcher) (.ok state), .save state answer]

/-- The courses of a registration or update. -/
inductive Installing (m : ServiceManager η) (d : ServiceProfile) :
    Bool → List Exchange → Except OperationError Unit → Prop
  | refused (why : Fault) :
    Installing m d true [.register (d.registrationRequest m.launcher) (.error why)]
      (.error (.transaction d.name why))
  | recorded {isNew : Bool} {before behind : List Exchange} {result : Except OperationError Unit}
      (hbefore : m.Registering d isNew before) (hbehind : d.Recording behind result) :
    Installing m d isNew (before ++ behind) result

/-- Every course of the script for a registration is one of these. -/
theorem installing_of_course (h : (m.installScript d isNew).Course exchanges result) :
    m.Installing d isNew exchanges result := by
  rcases isNew with - | -
  · exact .recorded .there (recording_of_course h)
  · obtain ⟨answer, rest, rfl, hregister⟩ := ServiceScript.course_ask_iff.1 h
    rcases answer with why | state
    · obtain ⟨rfl, rfl⟩ := ServiceScript.course_done_iff.1 hregister
      exact .refused why
    · dsimp only at hregister
      rcases hkeep : m.rollback.keepStates with - | -
      · rw [hkeep] at hregister
        exact .recorded (.registered state hkeep) (recording_of_course hregister)
      · rw [hkeep] at hregister
        obtain ⟨answer, rest, rfl, hsave⟩ := ServiceScript.course_ask_iff.1 hregister
        exact .recorded (.saved state answer hkeep) (recording_of_course hsave)

/-- The courses of an unregistration by a given state. -/
inductive Unregistering (service : String) (state : Rollback.State) :
    List Exchange → Except OperationError Unit → Prop
  | refused (why : Fault) :
    Unregistering service state [.unregister service state (.error why)]
      (.error (.transaction service why))
  | done (answer : Except OperationError Bool) :
    Unregistering service state
      [.unregister service state (.ok ()), .forget service answer] (.ok ())

/-- Every course of the script for an unregistration by a state is one of these. -/
theorem unregistering_of_course {state : Rollback.State}
    (h : (unregisterScript service state).Course exchanges result) :
    Unregistering service state exchanges result := by
  obtain ⟨answer, rest, rfl, hunregister⟩ := ServiceScript.course_ask_iff.1 h
  rcases answer with why | ⟨⟩
  · obtain ⟨rfl, rfl⟩ := ServiceScript.course_done_iff.1 hunregister
    exact .refused why
  · obtain ⟨answer, rest, rfl, hforget⟩ := ServiceScript.course_ask_iff.1 hunregister
    obtain ⟨rfl, rfl⟩ := ServiceScript.course_done_iff.1 hforget
    exact .done answer

/-- What a registration or update has asked for, by its result. -/
structure InstallReport (m : ServiceManager η) (d : ServiceProfile) (isNew : Bool)
    (exchanges : List Exchange) (result : Except OperationError Unit) : Prop where
  /-- The registration failed, and nothing else was asked for. -/
  transaction : ∀ why, result = .error (.transaction d.name why) ↔
    exchanges = [.register (d.registrationRequest m.launcher) (.error why)]
  /-- The record could not be read, or not be written. -/
  recordChange : ∀ why, result = .error (.recordChange d.name why) ↔
    .readRecord d.name (.error why) ∈ exchanges ∨
      ∃ record, .writeRecord d.name record (.error why) ∈ exchanges
  /-- There was no record. -/
  serviceNotFound : result = .error (.serviceNotFound d.name) ↔
    .readRecord d.name (.ok none) ∈ exchanges
  /-- The record names no executable. -/
  malformed : ∀ current, result = .error (.malformedRecord (.noExecutable current)) ↔
    .readRecord d.name (.ok (some current)) ∈ exchanges ∧ executablePart? current = none
  /-- The arguments were written behind the executable of the record. -/
  ok : result = .ok () ↔ ∃ current front, .readRecord d.name (.ok (some current)) ∈ exchanges ∧
    executablePart? current = some front ∧
    .writeRecord d.name (front ++ " " ++ d.argumentLine) (.ok ()) ∈ exchanges
  /-- There are no other errors. -/
  errors : ∀ e, result = .error e → (∃ why, e = .transaction d.name why) ∨
    (∃ why, e = .recordChange d.name why) ∨ e = .serviceNotFound d.name ∨
    ∃ current, e = .malformedRecord (.noExecutable current)
  /-- Nothing but the arguments behind the executable is written, and the result is what came of
  that. -/
  writes : ∀ service record answer, .writeRecord service record answer ∈ exchanges →
    service = d.name ∧ result = answer.mapError (.recordChange d.name) ∧
      ∃ current front, .readRecord d.name (.ok (some current)) ∈ exchanges ∧
        executablePart? current = some front ∧ record = front ++ " " ++ d.argumentLine
  /-- Nothing is taken back. -/
  keeps : (∀ service state answer, .unregister service state answer ∉ exchanges) ∧
    ∀ service answer, .forget service answer ∉ exchanges
  /-- Only a new service is registered, and only its state is saved. -/
  update : isNew = false → (∀ request answer, .register request answer ∉ exchanges) ∧
    ∀ state answer, .save state answer ∉ exchanges
  /-- A state that is saved is that of the registration. -/
  saves : ∀ state, (∃ answer, .save state answer ∈ exchanges) ↔ m.rollback.keepStates = true ∧
    .register (d.registrationRequest m.launcher) (.ok state) ∈ exchanges

/-- What comes before the record is about the registration. -/
theorem Registering.registers {before : List Exchange} (h : m.Registering d isNew before) :
    ∀ x ∈ before, x.registers = true := by
  rcases h with - | - | -
  · simp
  · simp [Exchange.registers]
  · simp [Exchange.registers]

theorem recording_registers {behind : List Exchange} (h : d.Recording behind result) :
    ∀ x ∈ behind, x.registers = false := by
  rcases h with - | - | - | - | - <;> simp [Exchange.registers]

/-- An exchange that is not about the registration is one about the record. -/
theorem Registering.mem_append_iff {before behind : List Exchange}
    (h : m.Registering d isNew before) {x : Exchange} (hx : x.registers = false) :
    x ∈ before ++ behind ↔ x ∈ behind := by
  rw [List.mem_append, or_iff_right]
  intro hmem
  rw [h.registers x hmem] at hx
  cases hx

/-- An exchange that is about the registration comes before those about the record. -/
theorem mem_append_recording_iff {before behind : List Exchange}
    (h : d.Recording behind result) {x : Exchange} (hx : x.registers = true) :
    x ∈ before ++ behind ↔ x ∈ before := by
  rw [List.mem_append, or_iff_left]
  intro hmem
  rw [recording_registers h x hmem] at hx
  cases hx

/-- An update of a record saves nothing. -/
theorem filter_recordScript (h : (recordScript d).Course exchanges result) :
    exchanges.filter (! ·.isSave) = exchanges := by
  rcases recording_of_course h with - | - | - | - | - <;> rfl

/-- Whatever comes of saving a state, the other answers determine the result. -/
theorem unique_of_filter {exchanges' : List Exchange} {result' : Except OperationError Unit}
    (h : (m.installScript d isNew).Course exchanges result)
    (h' : (m.installScript d isNew).Course exchanges' result')
    (hfilter : exchanges.filter (! ·.isSave) = exchanges'.filter (! ·.isSave)) :
    result = result' := by
  have hrecord {rest rest' : List Exchange} (hrest : (recordScript d).Course rest result)
      (hrest' : (recordScript d).Course rest' result')
      (heq : rest.filter (! ·.isSave) = rest'.filter (! ·.isSave)) : result = result' := by
    rw [filter_recordScript hrest, filter_recordScript hrest'] at heq
    exact hrest.unique (heq ▸ hrest')
  -- Without a registration there is only the record. With one, the answers to it are the same,
  -- and saving has no say in the result.
  rcases isNew with - | -
  · exact hrecord h h' hfilter
  · obtain ⟨answer, rest, rfl, hregister⟩ := ServiceScript.course_ask_iff.1 h
    obtain ⟨answer', rest', rfl, hregister'⟩ := ServiceScript.course_ask_iff.1 h'
    obtain ⟨hanswer, hrest⟩ : answer = answer' ∧
        rest.filter (! ·.isSave) = rest'.filter (! ·.isSave) := by
      simpa [ServiceQuery.exchange, Exchange.isSave] using hfilter
    subst hanswer
    rcases answer with why | state
    · exact (ServiceScript.course_done_iff.1 hregister).2.trans
        (ServiceScript.course_done_iff.1 hregister').2.symm
    · dsimp only at hregister hregister'
      rcases hkeep : m.rollback.keepStates with - | -
      · rw [hkeep] at hregister hregister'
        exact hrecord hregister hregister' hrest
      · rw [hkeep] at hregister hregister'
        obtain ⟨answer, rest, rfl, hsave⟩ := ServiceScript.course_ask_iff.1 hregister
        obtain ⟨answer', rest', rfl, hsave'⟩ := ServiceScript.course_ask_iff.1 hregister'
        exact hrecord hsave hsave' hrest

/-- The report of a refused registration. -/
theorem report_refused (why : Fault) :
    m.InstallReport d true [.register (d.registrationRequest m.launcher) (.error why)]
      (.error (.transaction d.name why)) where
  transaction := by simp
  recordChange := by simp
  serviceNotFound := by simp
  malformed := by simp
  ok := by simp
  errors := by simp
  writes := by simp
  keeps := by simp
  update := by simp
  saves := by simp

/-- The report where the record came to be read. -/
theorem report_recorded {before behind : List Exchange} (hbefore : m.Registering d isNew before)
    (hbehind : d.Recording behind result) : m.InstallReport d isNew (before ++ behind) result := by
  have hread {service : String} {answer : Except Fault (Option String)} :
      .readRecord service answer ∈ before ++ behind ↔ .readRecord service answer ∈ behind :=
    hbefore.mem_append_iff rfl
  have hwrite {service record : String} {answer : Except Fault Unit} :
      .writeRecord service record answer ∈ before ++ behind ↔
        .writeRecord service record answer ∈ behind :=
    hbefore.mem_append_iff rfl
  have hregister {request : RegistrationRequest} {answer : Except Fault Rollback.State} :
      .register request answer ∈ before ++ behind ↔ .register request answer ∈ before :=
    mem_append_recording_iff hbehind rfl
  have hsave {state : Rollback.State} {answer : Except OperationError String} :
      .save state answer ∈ before ++ behind ↔ .save state answer ∈ before :=
    mem_append_recording_iff hbehind rfl
  -- The front holds all that is said about the registration, what is behind it all that is said
  -- about the record, so each clause needs the cases of one of the two only.
  exact {
    transaction := fun why ↦ by
      have hresult : result ≠ .error (.transaction d.name why) := by
        rcases hbehind with - | - | - | - | - <;> simp
      have hanswer : .register (d.registrationRequest m.launcher) (.error why) ∉
          before ++ behind := by
        rw [hregister]
        rcases hbefore with - | - | - <;> simp
      constructor
      · exact fun h ↦ absurd h hresult
      · intro h
        rw [h] at hanswer
        exact absurd (List.mem_singleton_self _) hanswer
    recordChange := by
      simp only [hread, hwrite]
      rcases hbehind with - | - | - | - | - <;> simp [eq_comm]
    serviceNotFound := by
      rw [hread]
      rcases hbehind with - | - | - | - | - <;> simp
    malformed := by
      simp only [hread]
      rcases hbehind with - | - | ⟨_, hfront⟩ | ⟨_, _, _, hfront⟩ | ⟨_, _, hfront⟩ <;> simp
      all_goals grind
    ok := by
      simp only [hread, hwrite]
      rcases hbehind with - | - | ⟨_, hfront⟩ | ⟨_, _, _, hfront⟩ | ⟨_, _, hfront⟩ <;> simp
      all_goals grind
    errors := by
      rcases hbehind with - | - | - | - | - <;> simp
    writes := by
      have hfailed (why : Fault) : (Except.error why : Except Fault Unit).mapError
          (OperationError.recordChange d.name) = .error (.recordChange d.name why) := rfl
      have hdone : (Except.ok () : Except Fault Unit).mapError
          (OperationError.recordChange d.name) = .ok () := rfl
      simp only [hread, hwrite]
      rcases hbehind with - | - | - | ⟨_, _, _, hfront⟩ | ⟨_, _, hfront⟩
      · simp
      · simp
      · simp
      · simp
        all_goals grind
      · simp
        all_goals grind
    keeps := by
      rcases hbefore with - | - | - <;> rcases hbehind with - | - | - | - | - <;> simp
    update := by
      rintro rfl
      simp only [hregister, hsave]
      cases hbefore
      simp
    saves := fun state ↦ by
      simp only [hregister, hsave]
      rcases hbefore with - | ⟨_, hkeep⟩ | ⟨_, _, hkeep⟩
      · simp
      · simp [hkeep]
      · simp [hkeep, eq_comm] }

/-- **The result of a registration or update tells what was asked for and what came of it.** -/
theorem report_of_course (h : (m.installScript d isNew).Course exchanges result) :
    m.InstallReport d isNew exchanges result := by
  rcases installing_of_course h with ⟨why⟩ | ⟨hbefore, hbehind⟩
  · exact report_refused why
  · exact report_recorded hbefore hbehind

/-! ### Unregistrations -/

/-- The state that is kept for a service, if such states are read. -/
def keptState? (m : ServiceManager η) (service : String) (file : FileReading) :
    Except OperationError (Option Rollback.State) :=
  if m.rollback.readStates then m.store.stateIn service file else .ok none

/-- There is no kept state: states are not read, or the file is missing. -/
def NoKeptState (m : ServiceManager η) (file : FileReading) : Prop :=
  m.rollback.readStates = false ∨ file = .error .notFound

/-- The kept state: the file holds it in a format that is understood. -/
def KeptState (m : ServiceManager η) (file : FileReading) (state : Rollback.State) : Prop :=
  m.rollback.readStates = true ∧ ∃ bytes, file = .ok bytes ∧
    Rollback.State.ofBytes? bytes = some state ∧
    ¬ Rollback.State.currentVersion < state.schemaVersion

/-- There is no kept state exactly if states are not read or the file is missing. -/
theorem keptState?_eq_ok_none_iff :
    m.keptState? service file = .ok none ↔ m.NoKeptState file := by
  have hstate : m.store.stateIn service file = .ok none ↔ file = .error .notFound :=
    Rollback.Store.stateIn_eq_ok_none_iff
  rw [keptState?, NoKeptState, ← hstate]
  split <;> simp [*]

/-- There is one exactly if the file holds it in a format that is understood. -/
theorem keptState?_eq_ok_some_iff {state : Rollback.State} :
    m.keptState? service file = .ok (some state) ↔ m.KeptState file state := by
  have hstate : m.store.stateIn service file = .ok (some state) ↔ ∃ bytes, file = .ok bytes ∧
      Rollback.State.ofBytes? bytes = some state ∧
      ¬ Rollback.State.currentVersion < state.schemaVersion :=
    Rollback.Store.stateIn_eq_ok_some_iff
  rw [keptState?, KeptState, ← hstate]
  split <;> simp [*]

/-- It cannot be had exactly if states are read and the store fails. -/
theorem keptState?_eq_error_iff {e : OperationError} :
    m.keptState? service file = .error e ↔
      m.rollback.readStates = true ∧ m.store.stateIn service file = .error e := by
  rw [keptState?]
  split <;> simp [*]

/-- The store fails by the file exactly if this cannot be read and is not missing. -/
theorem keptState?_eq_io_iff {kind : IoKind} :
    m.keptState? service file = .error (.io (m.store.path service) kind) ↔
      m.rollback.readStates = true ∧ file = .error kind ∧ kind ≠ .notFound := by
  rw [keptState?_eq_error_iff, Rollback.Store.stateIn_eq_error_iff]
  simp

/-- It fails by the content exactly if this is no state. -/
theorem keptState?_eq_unreadable_iff :
    m.keptState? service file =
        .error (.malformedRecord (.unreadableState (m.store.path service))) ↔
      m.rollback.readStates = true ∧ ∃ bytes, file = .ok bytes ∧
        Rollback.State.ofBytes? bytes = none := by
  rw [keptState?_eq_error_iff, Rollback.Store.stateIn_eq_error_iff]
  simp

/-- It fails by the format exactly if this is a later one. -/
theorem keptState?_eq_later_iff {version : Nat} :
    m.keptState? service file =
        .error (.malformedRecord (.laterFormat (m.store.path service) version)) ↔
      m.rollback.readStates = true ∧ ∃ bytes state, file = .ok bytes ∧
        Rollback.State.ofBytes? bytes = some state ∧
        Rollback.State.currentVersion < state.schemaVersion ∧
        version = state.schemaVersion.toNat := by
  rw [keptState?_eq_error_iff, Rollback.Store.stateIn_eq_error_iff]
  simp

/-- The errors of the store: the file cannot be read, does not hold a state, or has a later
format. -/
theorem keptState?_error_cases {e : OperationError} (h : m.keptState? service file = .error e) :
    (∃ kind, e = .io (m.store.path service) kind) ∨
      e = .malformedRecord (.unreadableState (m.store.path service)) ∨
      ∃ version, e = .malformedRecord (.laterFormat (m.store.path service) version) := by
  obtain ⟨kind, -, -, rfl⟩ | ⟨bytes, -, ⟨-, rfl⟩ | ⟨state, -, -, rfl⟩⟩ :=
    Rollback.Store.stateIn_eq_error_iff.1 (keptState?_eq_error_iff.1 h).2
  · exact Or.inl ⟨kind, rfl⟩
  · exact Or.inr (Or.inl rfl)
  · exact Or.inr (Or.inr ⟨_, rfl⟩)

/-- What is asked for before a state is at hand. -/
def consulted (m : ServiceManager η) (service : String) (file : FileReading) : List Exchange :=
  if m.rollback.readStates then [.load service file] else []

theorem loads_consulted : ∀ x ∈ m.consulted service file, x.loads = true := by
  rw [consulted]
  split <;> simp [Exchange.loads]

theorem not_mem_consulted {x : Exchange} (hx : x.loads = false) :
    x ∉ m.consulted service file := by
  intro h
  rw [loads_consulted x h] at hx
  cases hx

@[simp] theorem unregister_not_mem_consulted {name : String} {state : Rollback.State}
    {answer : Except Fault Unit} :
    .unregister name state answer ∉ m.consulted service file :=
  not_mem_consulted rfl

@[simp] theorem forget_not_mem_consulted {name : String} {answer : Except OperationError Bool} :
    .forget name answer ∉ m.consulted service file :=
  not_mem_consulted rfl

/-- The courses of an unregistration that finds the file of the service as given. -/
inductive Uninstalling (m : ServiceManager η) (service : String) (file : FileReading) :
    List Exchange → Except OperationError Unit → Prop
  | unloaded (e : OperationError) (hkept : m.keptState? service file = .error e) :
    Uninstalling m service file (m.consulted service file) (.error e)
  | stateNotFound (hkept : m.keptState? service file = .ok none)
      (hstand : m.rollback.standIn = false) :
    Uninstalling m service file (m.consulted service file) (.error (.stateNotFound service))
  | standIn (hkept : m.keptState? service file = .ok none) (hstand : m.rollback.standIn = true)
      (stamp : Identifier × Moment) {behind : List Exchange} {result : Except OperationError Unit}
      (hbehind : Unregistering service (.synthetic stamp.1 stamp.2 service) behind result) :
    Uninstalling m service file (m.consulted service file ++ .stamp stamp :: behind) result
  | kept (state : Rollback.State) (hkept : m.keptState? service file = .ok (some state))
      {behind : List Exchange} {result : Except OperationError Unit}
      (hbehind : Unregistering service state behind result) :
    Uninstalling m service file (m.consulted service file ++ behind) result

/-- Every course behind the reading of the file is one of these. -/
theorem uninstalling_of_loaded
    (h : (m.loadedScript service (m.keptState? service file)).Course exchanges result) :
    m.Uninstalling service file (m.consulted service file ++ exchanges) result := by
  rcases hkept : m.keptState? service file with e | - | state
  · rw [hkept] at h
    obtain ⟨rfl, rfl⟩ := ServiceScript.course_done_iff.1 h
    rw [List.append_nil]
    exact .unloaded e hkept
  · rw [hkept, loadedScript, standInScript] at h
    rcases hstand : m.rollback.standIn with - | -
    · rw [hstand] at h
      obtain ⟨rfl, rfl⟩ := ServiceScript.course_done_iff.1 h
      rw [List.append_nil]
      exact .stateNotFound hkept hstand
    · rw [hstand] at h
      obtain ⟨stamp, rest, rfl, hrest⟩ := ServiceScript.course_ask_iff.1 h
      exact .standIn hkept hstand stamp (unregistering_of_course hrest)
  · rw [hkept] at h
    exact .kept state hkept (unregistering_of_course h)

/-- Every course of the script for an unregistration is one of these. -/
theorem uninstalling_of_course (h : (m.uninstallScript service).Course exchanges result) :
    ∃ file, m.Uninstalling service file exchanges result := by
  rw [uninstallScript] at h
  rcases hread : m.rollback.readStates with - | -
  · rw [hread] at h
    refine ⟨.error .notFound, ?_⟩
    have hkept : m.keptState? service (.error .notFound) = .ok none := by
      rw [keptState?, hread]
      rfl
    have hloaded : m.Uninstalling service (.error .notFound)
        (m.consulted service (.error .notFound) ++ exchanges) result :=
      uninstalling_of_loaded (by rw [hkept]; exact h)
    rw [consulted, hread] at hloaded
    exact hloaded
  · rw [hread] at h
    obtain ⟨file, rest, rfl, hrest⟩ := ServiceScript.course_ask_iff.1 h
    have hkept : m.keptState? service file = m.store.stateIn service file := by
      rw [keptState?, hread]
      rfl
    have hloaded : m.Uninstalling service file (m.consulted service file ++ rest) result :=
      uninstalling_of_loaded (by rwa [hkept])
    rw [consulted, hread] at hloaded
    exact ⟨file, hloaded⟩

/-- An unregistration finds the file as it is on the disk. -/
theorem uninstalling_perform (w : World η) :
    m.Uninstalling service (w.disk.read (m.store.path service))
      ((m.uninstallScript service).perform m w).exchanges
      ((m.uninstallScript service).perform m w).result := by
  have h := uninstalling_of_loaded (ServiceScript.course_perform (m := m)
    (m.loadedScript service (m.keptState? service (w.disk.read (m.store.path service)))) w)
  rw [uninstallScript]
  rcases hread : m.rollback.readStates with - | -
  · rw [consulted, keptState?, hread] at h
    exact h
  · rw [consulted, keptState?, hread] at h
    exact h

/-- What an unregistration has asked for, by its result. -/
structure UninstallReport (m : ServiceManager η) (service : String) (file : FileReading)
    (exchanges : List Exchange) (result : Except OperationError Unit) : Prop where
  /-- There was no kept state, and no default may stand in for it. -/
  stateNotFound : result = .error (.stateNotFound service) ↔
    m.NoKeptState file ∧ m.rollback.standIn = false
  /-- The file of the service could not be read. -/
  io : ∀ kind, result = .error (.io (m.store.path service) kind) ↔
    m.rollback.readStates = true ∧ file = .error kind ∧ kind ≠ .notFound
  /-- The file of the service does not hold a state. -/
  unreadable : result = .error (.malformedRecord (.unreadableState (m.store.path service))) ↔
    m.rollback.readStates = true ∧ ∃ bytes, file = .ok bytes ∧
      Rollback.State.ofBytes? bytes = none
  /-- The file of the service was written in a later format. -/
  later : ∀ version,
    result = .error (.malformedRecord (.laterFormat (m.store.path service) version)) ↔
      m.rollback.readStates = true ∧ ∃ bytes state, file = .ok bytes ∧
        Rollback.State.ofBytes? bytes = some state ∧
        Rollback.State.currentVersion < state.schemaVersion ∧
        version = state.schemaVersion.toNat
  /-- The installer failed. -/
  transaction : ∀ why, result = .error (.transaction service why) ↔
    ∃ state, .unregister service state (.error why) ∈ exchanges
  /-- The installer has unregistered the service. -/
  ok : result = .ok () ↔ ∃ state, .unregister service state (.ok ()) ∈ exchanges
  /-- There are no other errors. -/
  errors : ∀ e, result = .error e → e = .stateNotFound service ∨
    (∃ kind, e = .io (m.store.path service) kind) ∨
    e = .malformedRecord (.unreadableState (m.store.path service)) ∨
    (∃ version, e = .malformedRecord (.laterFormat (m.store.path service) version)) ∨
    ∃ why, e = .transaction service why
  /-- The installer is handed the kept state, and the default only where there is none. -/
  handed : ∀ name state answer, .unregister name state answer ∈ exchanges → name = service ∧
    (m.KeptState file state ∨ m.NoKeptState file ∧
      m.rollback.standIn = true ∧ ∃ stamp, .stamp stamp ∈ exchanges ∧
        state = .synthetic stamp.1 stamp.2 service)
  /-- Unless the installer failed, a failure has asked for nothing but the file. -/
  refused : ∀ e, result = .error e → (∀ why, e ≠ .transaction service why) →
    exchanges = m.consulted service file
  /-- The file is removed after a success only, and what comes of that has no influence. -/
  forgets : ∀ name, (∃ answer, .forget name answer ∈ exchanges) ↔ name = service ∧ result = .ok ()

/-- The report where the kept state could not be had. -/
theorem report_unloaded {e : OperationError} (hkept : m.keptState? service file = .error e) :
    m.UninstallReport service file (m.consulted service file) (.error e) where
  stateNotFound := by
    rw [← keptState?_eq_ok_none_iff, hkept]
    rcases keptState?_error_cases hkept with ⟨kind, rfl⟩ | rfl | ⟨version, rfl⟩ <;> simp
  io kind := by
    rw [← keptState?_eq_io_iff, hkept, Except.error.injEq, Except.error.injEq]
  unreadable := by
    rw [← keptState?_eq_unreadable_iff, hkept, Except.error.injEq, Except.error.injEq]
  later version := by
    rw [← keptState?_eq_later_iff, hkept, Except.error.injEq, Except.error.injEq]
  transaction why := by
    rcases keptState?_error_cases hkept with ⟨kind, rfl⟩ | rfl | ⟨version, rfl⟩ <;> simp
  ok := by simp
  errors := by
    rintro _ ⟨⟩
    rcases keptState?_error_cases hkept with h | h | h
    · exact Or.inr (Or.inl h)
    · exact Or.inr (Or.inr (Or.inl h))
    · exact Or.inr (Or.inr (Or.inr (Or.inl h)))
  handed := by simp
  refused _ _ _ := rfl
  forgets := by simp

/-- The report where there was no kept state and no default. -/
theorem report_stateNotFound (hkept : m.keptState? service file = .ok none)
    (hstand : m.rollback.standIn = false) :
    m.UninstallReport service file (m.consulted service file)
      (.error (.stateNotFound service)) where
  stateNotFound := by
    rw [← keptState?_eq_ok_none_iff, hkept, hstand]
    simp
  io kind := by
    rw [← keptState?_eq_io_iff, hkept]
    simp
  unreadable := by
    rw [← keptState?_eq_unreadable_iff, hkept]
    simp
  later version := by
    rw [← keptState?_eq_later_iff, hkept]
    simp
  transaction why := by simp
  ok := by simp
  errors := by simp
  handed := by simp
  refused _ _ _ := rfl
  forgets := by simp

/-- The installer was handed a state: the kept one, or the default where there is none. -/
theorem report_handed {before behind : List Exchange} {state : Rollback.State}
    (hbefore : ∀ x ∈ before, x.prepares = true)
    (horigin : m.keptState? service file = .ok (some state) ∨
      m.keptState? service file = .ok none ∧ m.rollback.standIn = true ∧
        ∃ stamp, .stamp stamp ∈ before ∧ state = .synthetic stamp.1 stamp.2 service)
    (hbehind : Unregistering service state behind result) :
    m.UninstallReport service file (before ++ behind) result := by
  have hmem {x : Exchange} (hx : x.prepares = false) : x ∈ before ++ behind ↔ x ∈ behind := by
    rw [List.mem_append, or_iff_right]
    intro h
    rw [hbefore x h] at hx
    cases hx
  have hunregister {name : String} {state : Rollback.State} {answer : Except Fault Unit} :
      .unregister name state answer ∈ before ++ behind ↔ .unregister name state answer ∈ behind :=
    hmem rfl
  have hforget {name : String} {answer : Except OperationError Bool} :
      .forget name answer ∈ before ++ behind ↔ .forget name answer ∈ behind :=
    hmem rfl
  obtain ⟨kept?, hkept⟩ : ∃ kept?, m.keptState? service file = .ok kept? := by
    rcases horigin with h | ⟨h, -⟩
    · exact ⟨_, h⟩
    · exact ⟨_, h⟩
  -- There is a state to go by, so nothing that is said about missing or unreadable states
  -- applies.
  exact {
    stateNotFound := by
      have hnot : ¬ (m.NoKeptState file ∧ m.rollback.standIn = false) := by
        rintro ⟨hnone, hstand⟩
        rw [keptState?_eq_ok_none_iff.2 hnone, hstand] at horigin
        simp at horigin
      rcases hbehind with - | - <;> simp [hnot]
    io := fun kind ↦ by
      rw [← keptState?_eq_io_iff, hkept]
      rcases hbehind with - | - <;> simp
    unreadable := by
      rw [← keptState?_eq_unreadable_iff, hkept]
      rcases hbehind with - | - <;> simp
    later := fun version ↦ by
      rw [← keptState?_eq_later_iff, hkept]
      rcases hbehind with - | - <;> simp
    transaction := by
      simp only [hunregister]
      rcases hbehind with - | - <;> simp [eq_comm]
    ok := by
      simp only [hunregister]
      rcases hbehind with - | - <;> simp
    errors := by
      rcases hbehind with - | - <;> simp
    handed := fun name state' answer h ↦ by
      have hhanded := hunregister.1 h
      obtain ⟨rfl, rfl⟩ : name = service ∧ state' = state := by
        rcases hbehind with why | forgotten
        · simp only [List.mem_singleton, Exchange.unregister.injEq] at hhanded
          exact ⟨hhanded.1, hhanded.2.1⟩
        · simp only [List.mem_cons, Exchange.unregister.injEq, reduceCtorEq, List.not_mem_nil,
            or_false] at hhanded
          exact ⟨hhanded.1, hhanded.2.1⟩
      -- The state that was handed over is the kept one, or the one that stands in for it.
      rw [← keptState?_eq_ok_some_iff, ← keptState?_eq_ok_none_iff]
      obtain hkept | ⟨hnone, hstand, stamp, hstamp, hstate⟩ := horigin
      · exact ⟨rfl, Or.inl hkept⟩
      · exact ⟨rfl, Or.inr ⟨hnone, hstand, stamp, List.mem_append_left _ hstamp, hstate⟩⟩
    refused := fun e he hne ↦ by
      rcases hbehind with why | -
      · cases he
        exact absurd rfl (hne why)
      · cases he
    forgets := by
      simp only [hforget]
      rcases hbehind with - | - <;> simp [eq_comm] }

/-- **The result of an unregistration tells what was asked for and what came of it.** -/
theorem Uninstalling.report (h : m.Uninstalling service file exchanges result) :
    m.UninstallReport service file exchanges result := by
  have hprepares : ∀ x ∈ m.consulted service file, x.prepares = true := by
    rw [consulted]
    split <;> simp [Exchange.prepares]
  rcases h with ⟨e, hkept⟩ | ⟨hkept, hstand⟩ | ⟨hkept, hstand, stamp, hbehind⟩ |
    ⟨state, hkept, hbehind⟩
  · exact report_unloaded hkept
  · exact report_stateNotFound hkept hstand
  · rw [List.append_cons]
    refine report_handed ?_ (Or.inr ⟨hkept, hstand, stamp, ?_, rfl⟩) hbehind
    · intro x hx
      rcases List.mem_append.1 hx with h | h
      · exact hprepares x h
      · rw [List.mem_singleton.1 h]
        rfl
    · exact List.mem_append_right _ (List.mem_singleton_self _)
  · exact report_handed hprepares (Or.inl hkept) hbehind

/-! ### The reports -/

/-- Only a query for the file of a service is answered by reading it. -/
theorem exists_eq_load {query : ServiceQuery} {answer : query.Answer}
    (h : (query.exchange answer).loads = true) : ∃ name, query = .load name := by
  cases query with
  | load name => exact ⟨name, rfl⟩
  | _ => cases h

/-- A performance that asks for nothing but files changes nothing. -/
theorem world_perform_of_loads {script : ServiceScript} {w : World η}
    (h : ∀ x ∈ (script.perform m w).exchanges, x.loads = true) :
    (script.perform m w).world = w := by
  induction script generalizing w with
  | done result => rfl
  | ask query next ih =>
    rw [ServiceScript.perform, List.forall_mem_cons] at h
    rw [ServiceScript.perform, ih _ h.2]
    obtain ⟨name, rfl⟩ := exists_eq_load h.1
    rfl

end ServiceManager

namespace ServiceOperation

variable {η : Type} {m : ServiceManager η} {o : ServiceOperation} {w : World η}

/-- An operation on a busy service asks for nothing. -/
theorem perform_of_busy {phase : Transition} (h : w.phases.of? o.service = some phase) :
    o.perform m w = ⟨[], .error (.busy o.service phase), w⟩ := by
  rw [perform, h]

/-- An operation on a free service performs its script. -/
theorem perform_of_free (h : w.phases.of? o.service = none) : o.perform m w =
    { (o.script m).perform m (w.entering o.service o.phase) with
      world :=
        ((o.script m).perform m (w.entering o.service o.phase)).world.leaving o.service } := by
  rw [perform, h]

/-- An operation leaves no phase behind. -/
theorem phases_perform (hports : m.KeepsPhases) (o : ServiceOperation) (w : World η) :
    (o.perform m w).world.phases = w.phases := by
  rcases h : w.phases.of? o.service with - | phase
  · rw [perform_of_free h]
    show ((o.script m).perform m _).world.phases.leave o.service = _
    rw [ServiceScript.phases_perform hports]
    exact congrArg World.phases (World.leaving_entering h)
  · rw [perform_of_busy h]

/-- An operation that asks for nothing but files changes nothing. -/
theorem world_perform_of_loads (h : w.phases.of? o.service = none)
    (hloads : ∀ x ∈ (o.perform m w).exchanges, x.loads = true) : (o.perform m w).world = w := by
  rw [perform_of_free h] at hloads ⊢
  rw [ServiceManager.world_perform_of_loads hloads, World.leaving_entering h]

end ServiceOperation

/-- **The result of an operation tells exactly what was changed.** An operation on a service that is
in a phase asks for nothing and changes nothing. Any other one has asked for what the report to its
result says. -/
theorem ServiceManager.run_reports {η : Type} (m : ServiceManager η) (w : World η) :
    (∀ o : ServiceOperation,
      o.run m w = ((o.perform m w).result.mapError .failed, (o.perform m w).world) ∧
      (∀ phase, w.phases.of? o.service = some phase →
        o.perform m w = ⟨[], .error (.busy o.service phase), w⟩)) ∧
    (∀ (d : ServiceProfile) (isNew : Bool), w.phases.of? d.name = none →
      let p := (ServiceOperation.install d isNew).perform m w
      m.InstallReport d isNew p.exchanges p.result ∧
      ∀ exchanges result, (m.installScript d isNew).Course exchanges result →
        exchanges.filter (! ·.isSave) = p.exchanges.filter (! ·.isSave) → result = p.result) ∧
    ∀ service, w.phases.of? service = none →
      let p := (ServiceOperation.uninstall service).perform m w
      m.UninstallReport service (w.disk.read (m.store.path service)) p.exchanges p.result ∧
      ∀ e, p.result = .error e → (∀ why, e ≠ .transaction service why) → p.world = w := by
  refine ⟨fun o ↦ ⟨o.run_eq_perform w, fun phase h ↦ ServiceOperation.perform_of_busy h⟩,
    fun d isNew h ↦ ?_, fun service h ↦ ?_⟩
  · have hcourse := (m.installScript d isNew).course_perform (m := m)
      (w.entering d.name .installing)
    rw [ServiceOperation.perform_of_free h]
    exact ⟨report_of_course hcourse,
      fun exchanges result hcourse' hfilter ↦ unique_of_filter hcourse' hcourse hfilter⟩
  · have hreport : m.UninstallReport service (w.disk.read (m.store.path service))
        ((ServiceOperation.uninstall service).perform m w).exchanges
        ((ServiceOperation.uninstall service).perform m w).result := by
      rw [ServiceOperation.perform_of_free h]
      exact (uninstalling_perform (w.entering service .uninstalling)).report
    refine ⟨hreport, fun e he hne ↦ ServiceOperation.world_perform_of_loads h ?_⟩
    -- A refusal without a transaction has only read.
    rw [hreport.refused e he hne]
    exact loads_consulted

end ServerSetup
