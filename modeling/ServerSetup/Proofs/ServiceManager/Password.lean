import ServerSetup.Diagnostic
import ServerSetup.Proofs.Rehearsal
import ServerSetup.Proofs.ServiceManager.TwoRuns

/-!
# Where a password goes

The password of a profile is for the installer alone. Two profiles that differ in it are written,
shown and recorded in the same way, and lead to requests that differ in the password of the account
at most; where no user is named, to the same request. So if the ports take no notice of passwords,
neither do the operations: whatever a manager does with such profiles, it does with either of them.

This is a comparison of two runs with different passwords. `Heedless` is what is asked of the ports:
from states of the host that are alike they answer alike and leave such states, also if they are to
register a service with different passwords. What two alike states may differ in is a parameter,
since an installer has to keep the password somewhere. The rest of the world is the same in both
runs, and so are all exchanges apart from the requests to register (`Exchange.Alike`).

The rehearsed machine notes the requests that it got, password and all. Two of its states are alike
if they differ in these notes only (`SameButActions`), and the second half of the module goes
through its calls.
-/

namespace ServerSetup

/-! ### Values that differ in a password -/

/-- Two profiles differ at most in the password. -/
def ServiceProfile.SameButPassword (d d' : ServiceProfile) : Prop :=
  d' = { d with password := d'.password }

/-- Two accounts differ at most in the password. -/
inductive Account.SameButPassword : Account → Account → Prop
  | localSystem : SameButPassword .localSystem .localSystem
  | user (name password password' : String) :
    SameButPassword (.user name password) (.user name password')

/-- Two requests differ at most in the password of the account. -/
structure RegistrationRequest.SameButPassword (r r' : RegistrationRequest) : Prop where
  account : r.account.SameButPassword r'.account
  rest : r' = { r with account := r'.account }

namespace Account.SameButPassword

variable {a a' : Account}

protected theorem refl (a : Account) : a.SameButPassword a := by
  cases a with
  | localSystem => exact .localSystem
  | user name password => exact .user name password password

/-- A diagnosis does not show the password of an account. -/
theorem diagnostic_eq (h : a.SameButPassword a') : a'.diagnostic = a.diagnostic := by
  cases h <;> rfl

/-- The state for a rollback does not hold the password. -/
theorem state_eq (h : a.SameButPassword a') (id : Identifier) (now : Moment) (service : String) :
    Rollback.State.new id now service a' = .new id now service a := by
  cases h <;> rfl

end Account.SameButPassword

protected theorem RegistrationRequest.SameButPassword.refl (r : RegistrationRequest) :
    r.SameButPassword r :=
  ⟨.refl _, rfl⟩

namespace ServiceProfile.SameButPassword

variable {d d' : ServiceProfile}

/-- The profiles are of one service. -/
theorem name_eq (h : d.SameButPassword d') : d'.name = d.name := by
  rw [h]

/-- They are written alike. -/
theorem argumentLine_eq (h : d.SameButPassword d') : d'.argumentLine = d.argumentLine := by
  rw [h]
  rfl

/-- They are shown alike. -/
theorem shown_eq (h : d.SameButPassword d') : d'.shown = d.shown := by
  rw [h]
  rfl

/-- Their diagnoses are alike, if there is a password in both or in neither. -/
theorem diagnosticFields_eq (h : d.SameButPassword d')
    (hset : d'.password.isSome = d.password.isSome) :
    d'.diagnosticFields = d.diagnosticFields := by
  have hshown : Diagnostic.optional Password.shown d'.password =
      Diagnostic.optional Password.shown d.password := by
    rcases hp : d.password with - | p <;> rcases hp' : d'.password with - | p'
    · rfl
    · simp [hp, hp'] at hset
    · simp [hp, hp'] at hset
    · rfl
  rw [h, diagnosticFields, diagnosticFields]
  simp only [hshown]

/-- A diagnosis tells whether there is a password, and nothing else of it. -/
theorem diagnostic_eq (h : d.SameButPassword d')
    (hset : d'.password.isSome = d.password.isSome) : d'.diagnostic = d.diagnostic := by
  unfold ServiceProfile.diagnostic
  rw [h.diagnosticFields_eq hset]

/-- Their requests differ in the password of the account at most. -/
theorem request (h : d.SameButPassword d') (launcher : String) :
    (d.registrationRequest launcher).SameButPassword (d'.registrationRequest launcher) := by
  rw [h]
  refine ⟨?_, rfl⟩
  simp only [registrationRequest]
  rcases ServiceProfile.ifNonEmpty d.runAsUser with - | user
  · exact .localSystem
  · exact .user ..

/-- **Without a user there is no account whose password could be asked for.** -/
theorem request_eq (h : d.SameButPassword d') (launcher : String)
    (huser : ServiceProfile.ifNonEmpty d.runAsUser = none) :
    d'.registrationRequest launcher = d.registrationRequest launcher := by
  rw [h]
  simp only [registrationRequest, huser]

end ServiceProfile.SameButPassword

/-! ### Operations that differ in a password -/

namespace ManagerOperation

/-- Two operations are the same, but for the password of a profile. -/
inductive SameButPassword : ManagerOperation → ManagerOperation → Prop
  | install {d d' : ServiceProfile} (isNew : Bool) (h : d.SameButPassword d') :
    SameButPassword (.change (.install d isNew)) (.change (.install d' isNew))
  | same (o : ManagerOperation) : SameButPassword o o

/-- The user under which an operation is to have a service run. -/
def user? : ManagerOperation → Option String
  | change (.install d _) => ServiceProfile.ifNonEmpty d.runAsUser
  | _ => none

variable {η : Type} {m : ServiceManager η}
  {Q : RegistrationRequest → RegistrationRequest → Prop} {o o' : ManagerOperation}

/-- Operations that differ in a password differ in what the installer is asked. -/
theorem SameButPassword.alike (h : o.SameButPassword o') (hQ : ∀ r, Q r r)
    (hrequest : ∀ d d' : ServiceProfile, d.SameButPassword d' →
      ServiceProfile.ifNonEmpty d.runAsUser = o.user? →
      Q (d.registrationRequest m.launcher) (d'.registrationRequest m.launcher)) :
    o.Alike m Q (fun _ ↦ True) o' := by
  cases h with
  | @install d d' isNew h =>
    exact .change (.install isNew trivial h.name_eq h.argumentLine_eq (hrequest d d' h rfl))
  | same => exact alike_refl (fun r _ ↦ hQ r) o trivial

end ManagerOperation

/-! ### Ports that take no notice of passwords -/

/-- Two worlds differ at most in their hosts, which are alike. -/
def World.AlikeBy {η : Type} (alike : η → η → Prop) (w w' : World η) : Prop :=
  ∃ host, alike w.host host ∧ w' = { w with host := host }

/-- Hosts that are alike answer alike and leave such hosts and the same world around them, even if
they are asked to register a service with different passwords. -/
structure ServiceManager.Heedless {η : Type} (m : ServiceManager η) (alike : η → η → Prop) :
    Prop where
  install : ∀ {r r'}, r.SameButPassword r' →
    Respects (World.AlikeBy alike) (m.registrar.install r) (m.registrar.install r')
  uninstall : ∀ service state, Respects (World.AlikeBy alike)
    (m.registrar.uninstall service state) (m.registrar.uninstall service state)
  list : Respects (World.AlikeBy alike) m.records.list m.records.list
  record : ∀ service,
    Respects (World.AlikeBy alike) (m.records.record service) (m.records.record service)
  setRecord : ∀ service record, Respects (World.AlikeBy alike)
    (m.records.setRecord service record) (m.records.setRecord service record)
  status : ∀ service,
    Respects (World.AlikeBy alike) (m.control.status service) (m.control.status service)
  start : ∀ service,
    Respects (World.AlikeBy alike) (m.control.start service) (m.control.start service)
  stop : ∀ service,
    Respects (World.AlikeBy alike) (m.control.stop service) (m.control.stop service)

namespace ServiceManager

variable {η : Type} {m : ServiceManager η} {alike : η → η → Prop}

/-- The ports of such a manager take no notice of passwords, whatever they are asked. -/
theorem Heedless.answer (hports : m.Heedless alike) (query : ServiceQuery) :
    Respects (World.AlikeBy alike) (m.answer query) (m.answer query) := by
  cases query with
  | register request => exact hports.install (.refl request)
  | unregister service state => exact hports.uninstall service state
  | readRecord service => exact hports.record service
  | writeRecord service record => exact hports.setRecord service record
  | save state | load service | forget service | stamp =>
    rintro w _ ⟨host, halike, rfl⟩
    exact ⟨rfl, host, halike, rfl⟩

/-- Such a manager compares worlds with hosts that are alike. -/
theorem Heedless.compares (hports : m.Heedless alike)
    {Q : RegistrationRequest → RegistrationRequest → Prop}
    (hQ : ∀ r r', Q r r' → r.SameButPassword r') :
    m.Compares (World.AlikeBy alike) Q fun _ ↦ True where
  phase := by
    rintro w _ service ⟨host, -, rfl⟩ -
    rfl
  entering := by
    rintro w _ service phase ⟨host, halike, rfl⟩ -
    exact ⟨host, halike, rfl⟩
  leaving := by
    rintro w _ service ⟨host, halike, rfl⟩ -
    exact ⟨host, halike, rfl⟩
  clock := by
    rintro w _ ⟨host, -, rfl⟩
    rfl
  later := by
    rintro w _ time ⟨host, halike, rfl⟩
    exact ⟨host, halike, rfl⟩
  cancelled := by
    rintro w _ ⟨host, -, rfl⟩
    rfl
  answer query _ := hports.answer query
  install h := hports.install (hQ _ _ h)
  named _ _ := trivial
  status _ := hports.status _
  start _ := hports.start _
  stop _ := hports.stop _

end ServiceManager

namespace ServiceManager

variable {η : Type} {m : ServiceManager η} {alike : η → η → Prop}

/-- **A password reaches nothing but the request to the installer.** Profiles that differ in it have
the same texts and the same state for a rollback. Operations on such profiles have the same results,
errors included, and leave the same files and records; what they ask for differs in the password of
the requested accounts at most, and in nothing where no user is named. -/
theorem Heedless.password_reaches_requests_only (hports : m.Heedless alike) :
    (∀ d d' : ServiceProfile, d.SameButPassword d' →
      d'.argumentLine = d.argumentLine ∧ d'.shown = d.shown ∧
      (d'.password.isSome = d.password.isSome → d'.diagnostic = d.diagnostic) ∧
      ∀ launcher, let r := d.registrationRequest launcher
        let r' := d'.registrationRequest launcher
        r.SameButPassword r' ∧ r'.account.diagnostic = r.account.diagnostic ∧
        (∀ id now service, Rollback.State.new id now service r'.account =
          .new id now service r.account) ∧
        (ServiceProfile.ifNonEmpty d.runAsUser = none → r' = r)) ∧
    ∀ os os', List.Forall₂ ManagerOperation.SameButPassword os os' →
      ∀ w w', World.AlikeBy alike w w' →
        let done := m.performAll os w
        let done' := m.performAll os' w'
        List.Forall₂ (ManagerOutcome.Alike RegistrationRequest.SameButPassword) done.1 done'.1 ∧
        World.AlikeBy alike done.2 done'.2 ∧ done'.2.disk = done.2.disk ∧
        (m.records.list done'.2).1 = (m.records.list done.2).1 ∧
        (∀ service, (m.records.record service done'.2).1 = (m.records.record service done.2).1) ∧
        ((∀ o ∈ os, o.user? = none) → done'.1 = done.1) := by
  constructor
  · intro d d' h
    refine ⟨h.argumentLine_eq, h.shown_eq, h.diagnostic_eq, fun launcher ↦ ?_⟩
    have hrequest := h.request launcher
    exact ⟨hrequest, hrequest.account.diagnostic_eq, hrequest.account.state_eq,
      h.request_eq launcher⟩
  · intro os os' hos w w' hw
    have hruns : List.Forall₂ (ManagerOutcome.Alike RegistrationRequest.SameButPassword)
        (m.performAll os w).1 (m.performAll os' w').1 ∧
          World.AlikeBy alike (m.performAll os w).2 (m.performAll os' w').2 := by
      refine (hports.compares fun _ _ h ↦ h).performAll (hos.imp fun o o' ho ↦ ?_) hw
      exact ho.alike .refl fun d d' h _ ↦ h.request m.launcher
    obtain ⟨houtcomes, hworlds⟩ := hruns
    refine ⟨houtcomes, hworlds, ?_, (hports.list _ _ hworlds).1.symm,
      fun service ↦ (hports.record service _ _ hworlds).1.symm, fun hnone ↦ ?_⟩
    · obtain ⟨host, -, hsame⟩ := hworlds
      rw [hsame]
    -- Without users the requests are the same, so that the runs can be compared by equality.
    · have hboth := (List.forall₂_and_left os os').2 ⟨hnone, hos⟩
      have hequal : List.Forall₂ (ManagerOperation.Alike m Eq fun _ ↦ True) os os' := by
        refine hboth.imp fun o o' ⟨huser, ho⟩ ↦ ho.alike (fun _ ↦ rfl) fun d d' h hd ↦ ?_
        exact (h.request_eq m.launcher (hd.trans huser)).symm
      have hcompares : m.Compares (World.AlikeBy alike) Eq fun _ ↦ True :=
        hports.compares fun r _ h ↦ h ▸ .refl r
      have hsame := (hcompares.performAll hequal hw).1.imp fun _ _ h ↦ h.eq fun _ _ ↦ id
      rw [List.forall₂_eq_eq_eq] at hsame
      exact hsame.symm

end ServiceManager

/-! ### A rehearsal -/

namespace Rehearsal

/-- Two machines differ at most in the calls that they have noted. -/
def SameButActions {ν : Type} (h h' : Machine ν) : Prop :=
  ∃ actions, h' = { h with actions := actions }

section Respects

variable {ν α : Type}

/-- The worlds of two machines that differ at most in the calls that they have noted. -/
abbrev SameWorlds : World (Machine ν) → World (Machine ν) → Prop := World.AlikeBy SameButActions

/-- What reads the machine takes no notice of its notes if what follows does not. -/
theorem respects_machine {f f' : Machine ν → HostM (Machine ν) α}
    (hf : ∀ h actions, Respects SameWorlds (f h) (f' { h with actions := actions })) :
    Respects SameWorlds (machine >>= f) (machine >>= f') := by
  rintro w _ ⟨_, ⟨actions, rfl⟩, rfl⟩
  exact hf w.host actions w _ ⟨_, ⟨actions, rfl⟩, rfl⟩

/-- A change of the machine takes no notice of its notes if the changed machines differ in these
alone. -/
theorem respects_change {f f' : Machine ν → Machine ν}
    (hf : ∀ h actions, SameButActions (f h) (f' { h with actions := actions })) :
    Respects SameWorlds (change f) (change f') := by
  rintro w _ ⟨_, ⟨actions, rfl⟩, rfl⟩
  exact ⟨rfl, _, hf w.host actions, rfl⟩

/-- A call may be noted in any way. -/
theorem respects_note (action action' : Action) :
    Respects SameWorlds (note action : HostM (Machine ν) Unit) (note action') :=
  respects_change fun _ _ ↦ ⟨_, rfl⟩

/-- A point at which a call may fail takes no notice of them. -/
theorem respects_point (name : String) :
    Respects SameWorlds (point name : HostM (Machine ν) Unit) (point name) := by
  refine respects_machine fun h actions ↦ ?_
  split
  · exact .throw _
  · exact .pure ()

theorem respects_interrupted : Respects SameWorlds
    (monadLift (pure () : StateM (World (Machine ν)) Unit) : HostM (Machine ν) Unit)
    (monadLift (pure () : StateM (World (Machine ν)) Unit) : HostM (Machine ν) Unit) :=
  fun _ _ hw ↦ ⟨rfl, hw⟩

/-- A rehearsed registration takes no notice of the password but for its notes. -/
theorem respects_install {r r' : RegistrationRequest} (h : r.SameButPassword r') :
    Respects SameWorlds (install (pure ()) r : HostM (Machine ν) Rollback.State)
      (install (pure ()) r') := by
  have hservice : r'.serviceName = r.serviceName := by rw [h.rest]
  have hexecutable : r'.executable = r.executable := by rw [h.rest]
  rw [install, install, hservice, hexecutable]
  refine (respects_note _ _).bind fun _ ↦ respects_interrupted.bind fun _ ↦
    (respects_point _).bind fun _ ↦ respects_machine fun host actions ↦ ?_
  have hlast : Respects SameWorlds
      (machine >>= fun m ↦ pure (.new (.ofNat m.registered) .epoch r.serviceName r.account) :
        HostM (Machine ν) Rollback.State)
      (machine >>= fun m ↦ pure (.new (.ofNat m.registered) .epoch r.serviceName r'.account)) := by
    refine respects_machine fun m _ ↦ ?_
    rw [h.account.state_eq]
    exact .pure _
  have hregistered (next : Machine ν → Machine ν)
      (hnext : ∀ m actions, next { m with actions := actions } =
        { next m with actions := actions }) :
      Respects SameWorlds (change next) (change next) :=
    respects_change fun m actions ↦ ⟨actions, hnext m actions⟩
  dsimp only
  split
  · exact (hregistered _ fun _ _ ↦ rfl).bind fun _ ↦ (hregistered _ fun _ _ ↦ rfl).bind fun _ ↦
      hlast
  · exact (hregistered _ fun _ _ ↦ rfl).bind fun _ ↦ hlast

/-- The next prepared answer does not depend on them. -/
theorem respects_nextAnswer (service : String) :
    Respects SameWorlds (nextAnswer service : HostM (Machine ν) (Option Answer))
      (nextAnswer service) := by
  refine respects_machine fun h actions ↦ ?_
  dsimp only
  split
  · exact (respects_change fun _ _ ↦ ⟨_, rfl⟩).bind fun _ ↦ .pure _
  · exact .pure _

/-- The state of a service that is seen does not depend on them. -/
theorem respects_observe (service : String) :
    Respects SameWorlds (observe service : HostM (Machine ν) (Option RunState))
      (observe service) := by
  refine respects_machine fun h actions ↦ ?_
  dsimp only
  split
  · exact .pure _
  · split
    · exact (respects_change fun _ _ ↦ ⟨_, rfl⟩).bind fun _ ↦ .pure _
    · exact .pure _

/-- Nor does the answer to a query. -/
theorem respects_status (service : String) :
    Respects SameWorlds (status service : HostM (Machine ν) (Option RunState))
      (status service) := by
  refine (respects_point _).bind fun _ ↦ (respects_nextAnswer service).bind fun answer ↦ ?_
  rcases answer with - | ⟨state⟩ | - | -
  · exact respects_observe service
  · exact .pure _
  · exact .pure _
  · exact .throw _

/-- Nor does what a request does. -/
theorem respects_request (which : Request) (service : String) (state : RunState) :
    Respects SameWorlds (request which service state : HostM (Machine ν) Unit)
      (request which service state) := by
  have hcancel : Respects SameWorlds
      (machine >>= fun m ↦ if m.cancelOn = some which then
        modify fun w ↦ { w with cancelled := true } else pure () : HostM (Machine ν) Unit)
      (machine >>= fun m ↦ if m.cancelOn = some which then
        modify fun w ↦ { w with cancelled := true } else pure ()) := by
    refine respects_machine fun h actions ↦ ?_
    dsimp only
    split
    · rintro w _ ⟨host, halike, rfl⟩
      exact ⟨rfl, host, halike, rfl⟩
    · exact .pure ()
  refine respects_machine fun h actions ↦ ?_
  dsimp only
  split
  · exact (respects_change fun _ _ ↦ ⟨_, rfl⟩).bind fun _ ↦ hcancel
  · exact hcancel

end Respects

/-- The calls of the machine take no notice of what was noted. -/
theorem heedless_manager : manager.Heedless SameButActions where
  install h := respects_install h
  uninstall _ _ :=
    (respects_note _ _).bind fun _ ↦ respects_interrupted.bind fun _ ↦
      (respects_point _).bind fun _ ↦ respects_change fun _ _ ↦ ⟨_, rfl⟩
  list := (respects_point _).bind fun _ ↦ respects_machine fun _ _ ↦ .pure _
  record _ := (respects_point _).bind fun _ ↦ (respects_point _).bind fun _ ↦
    respects_machine fun _ _ ↦ .pure _
  setRecord _ _ := (respects_note _ _).bind fun _ ↦ (respects_point _).bind fun _ ↦
    respects_change fun _ _ ↦ ⟨_, rfl⟩
  status service := respects_status service
  start service := (respects_note _ _).bind fun _ ↦ (respects_point _).bind fun _ ↦
    respects_request _ service _
  stop service := (respects_note _ _).bind fun _ ↦ (respects_point _).bind fun _ ↦
    respects_request _ service _

/-- A service under an account with a password. -/
def accountProfile (password : String) : ServiceProfile where
  name := "svc"
  home := "C:\\r"
  runAsUser := some "app"
  password := some ⟨password⟩

/-- The service is registered, started and unregistered. -/
def accountOperations (password : String) : List ManagerOperation :=
  [.change (.install (accountProfile password) true), .control (.turn .start) "svc",
    .change (.uninstall "svc")]

/-- Two passwords of one account are asked for, and that is all that comes of the difference. -/
theorem two_passwords :
    (accountProfile "old").registrationRequest "resin.exe" ≠
      (accountProfile "new").registrationRequest "resin.exe" ∧
    let done := manager.performAll (accountOperations "old") (worldWith [])
    let done' := manager.performAll (accountOperations "new") (worldWith [])
    List.Forall₂ (ManagerOutcome.Alike RegistrationRequest.SameButPassword) done.1 done'.1 ∧
      done'.2.disk = done.2.disk := by
  have hops : List.Forall₂ ManagerOperation.SameButPassword (accountOperations "old")
      (accountOperations "new") :=
    .cons (.install true rfl) (.cons (.same _) (.cons (.same _) .nil))
  obtain ⟨houtcomes, -, hdisk, -⟩ :=
    heedless_manager.password_reaches_requests_only.2 _ _ hops (worldWith []) (worldWith [])
      ⟨_, ⟨_, rfl⟩, rfl⟩
  exact ⟨by decide, houtcomes, hdisk⟩

end Rehearsal

end ServerSetup
