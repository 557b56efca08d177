import Mathlib
import ServerSetup.Proofs.Disk.Copies
import ServerSetup.Proofs.Rehearsal.States
import ServerSetup.Proofs.ServiceManager.Report

/-!
# The history of registrations

A manager registers and unregisters services, one operation after the other. If it keeps the states
of its registrations, each unregistration hands the installer the state of the latest registration
of the service (`uninstall_hands`): however many operations on however many services came before,
and whatever ports failed.

What happened is told by the exchanges of the operations with their ports and with the store.
`IsLatest` says that a state was given by a registration of the service with no later registration
or unregistration of it; `registrations` computes this from the exchanges (`isLatest_iff`). The
exchanges are the only link between what was asked of the installer and what is in the store, so
that a port which fails needs no case of its own: it settles nothing.

The invariant is that the store keeps the states of the latest registrations (`Settled`). It is
shown for scripts first, query by query (`Tracks`), then for one operation
(`Keeping.settled_perform`) and for a whole history by induction (`Keeping.settled_history`). Two
things are assumed: the operations on files succeed, and the installer answers a registration with a
state of the service that can be read back (`Exchange.Sound`).
-/

namespace ServerSetup

/-! ### Registrations and unregistrations -/

namespace Exchange

/-- The service and the state that the installer is handed for its unregistration. -/
def handed? : Exchange → Option (String × Rollback.State)
  | unregister service state _ => some (service, state)
  | _ => none

/-- Whether a service was registered or unregistered. -/
def settles (service : String) : Exchange → Bool
  | register request (.ok _) => request.serviceName == service
  | unregister name _ (.ok _) => name == service
  | _ => false

/-- The state that a registration has given. -/
def given? : Exchange → Option Rollback.State
  | register _ (.ok state) => some state
  | _ => none

/-- The state of the latest registration of a service, where `known` is the one before the
exchange. -/
def registration (service : String) (known : Option Rollback.State) (x : Exchange) :
    Option Rollback.State :=
  if x.settles service then x.given? else known

/-- Whether the exchange settles nothing, whatever the service, and changes no file. -/
def isQuiet : Exchange → Bool
  | register _ (.ok _) => false
  | unregister _ _ (.ok _) => false
  | save _ _ => false
  | forget _ _ => false
  | _ => true

theorem settles_of_isQuiet {x : Exchange} (h : x.isQuiet = true) (service : String) :
    x.settles service = false := by
  rcases x with ⟨_, _ | _⟩ | ⟨_, _, _ | _⟩ | _ | _ | _ | _ | _ | _
  all_goals first | rfl | cases h

end Exchange

/-- The latest registration of the service, which has not been unregistered since, has given this
state. -/
def IsLatest (service : String) (exchanges : List Exchange) (state : Rollback.State) : Prop :=
  ∃ before request behind, exchanges = before ++ .register request (.ok state) :: behind ∧
    request.serviceName = service ∧ ∀ x ∈ behind, x.settles service = false

/-- The states of the latest registrations after some exchanges. -/
def registrations (known : String → Option Rollback.State) (exchanges : List Exchange)
    (service : String) : Option Rollback.State :=
  exchanges.foldl (Exchange.registration service) (known service)

section registrations

variable {known : String → Option Rollback.State} {exchanges exchanges' : List Exchange}
  {service : String} {state : Rollback.State} {x : Exchange}

theorem registrations_append : registrations known (exchanges ++ exchanges') =
    registrations (registrations known exchanges) exchanges' :=
  funext fun _ ↦ List.foldl_append ..

/-- An exchange that settles nothing changes no registration. -/
theorem registrations_cons_of_settles (h : ∀ service, x.settles service = false) :
    registrations known (x :: exchanges) = registrations known exchanges := by
  funext service
  have hx : x.registration service (known service) = known service :=
    if_neg (by rw [h]; exact Bool.false_ne_true)
  exact congrArg (exchanges.foldl (Exchange.registration service)) hx

/-- A registration replaces what is known of its service. -/
theorem registrations_cons_register {request : RegistrationRequest} :
    registrations known (.register request (.ok state) :: exchanges) =
      registrations (Function.update known request.serviceName (some state)) exchanges := by
  funext service
  refine congrArg (exchanges.foldl (Exchange.registration service)) ?_
  by_cases h : service = request.serviceName
  · rw [h, Function.update_self]
    exact if_pos (beq_self_eq_true request.serviceName)
  · rw [Function.update_of_ne h]
    exact if_neg fun heq ↦ h (beq_iff_eq.1 heq).symm

/-- An unregistration leaves nothing to be known of its service. -/
theorem registrations_cons_unregister :
    registrations known (.unregister service state (.ok ()) :: exchanges) =
      registrations (Function.update known service none) exchanges := by
  funext other
  refine congrArg (exchanges.foldl (Exchange.registration other)) ?_
  by_cases h : other = service
  · rw [h, Function.update_self]
    exact if_pos (beq_self_eq_true service)
  · rw [Function.update_of_ne h]
    exact if_neg fun heq ↦ h (beq_iff_eq.1 heq).symm

/-- A state is the latest if the last exchange gave it, or if it was so before and the last exchange
settles nothing. -/
theorem isLatest_concat_iff : IsLatest service (exchanges ++ [x]) state ↔
    (∃ request, x = .register request (.ok state) ∧ request.serviceName = service) ∨
      x.settles service = false ∧ IsLatest service exchanges state := by
  constructor
  · rintro ⟨before, request, behind, hexchanges, hname, hbehind⟩
    rcases List.eq_nil_or_concat behind with rfl | ⟨behind, last, rfl⟩
    · obtain ⟨rfl, hx⟩ := List.append_inj' hexchanges rfl
      exact .inl ⟨request, List.singleton_inj.1 hx, hname⟩
    · rw [List.concat_eq_append, ← List.cons_append, ← List.append_assoc] at hexchanges
      obtain ⟨rfl, hx⟩ := List.append_inj' hexchanges rfl
      rw [List.concat_eq_append, List.forall_mem_append] at hbehind
      rw [List.singleton_inj.1 hx]
      exact .inr ⟨hbehind.2 last (List.mem_singleton_self last),
        before, request, behind, rfl, hname, hbehind.1⟩
  · rintro (⟨request, rfl, hname⟩ | ⟨hx, before, request, behind, rfl, hname, hbehind⟩)
    · exact ⟨exchanges, request, [], rfl, hname, by simp⟩
    · refine ⟨before, request, behind ++ [x], by simp, hname, ?_⟩
      rw [List.forall_mem_append]
      exact ⟨hbehind, by simpa using hx⟩

/-- The latest registration is found by going through the exchanges. -/
theorem isLatest_iff : IsLatest service exchanges state ↔
    registrations (fun _ ↦ none) exchanges service = some state := by
  induction exchanges using List.reverseRecOn with
  | nil =>
    constructor
    · rintro ⟨before, request, behind, hexchanges, -⟩
      simp at hexchanges
    · intro h
      cases h
  | append_singleton exchanges x ih =>
    rw [isLatest_concat_iff, registrations_append]
    show _ ↔ x.registration service _ = _
    rw [Exchange.registration]
    rcases hx : x.settles service with - | -
    · rw [if_neg Bool.false_ne_true]
      constructor
      · rintro (⟨request, rfl, hname⟩ | ⟨-, hlatest⟩)
        · simp [Exchange.settles, hname] at hx
        · exact ih.1 hlatest
      · exact fun h ↦ .inr ⟨rfl, ih.2 h⟩
    · rw [if_pos rfl]
      rcases x with ⟨request, _ | found⟩ | ⟨_, _, _ | ⟨⟩⟩ | _ | _ | _ | _ | _ | _
      all_goals try cases hx
      · simp only [Exchange.settles, beq_iff_eq] at hx
        simp [hx, Exchange.given?, eq_comm]
      · simp [Exchange.given?]

theorem not_isLatest (h : registrations (fun _ ↦ none) exchanges service = none)
    (state : Rollback.State) : ¬ IsLatest service exchanges state := by
  rw [isLatest_iff, h]
  exact Option.some_ne_none state ∘ Eq.symm

end registrations

/-! ### Histories -/

/-- What is asked and answered in performing operations one after the other, and the world in the
end. -/
def ServiceManager.history {η : Type} (m : ServiceManager η) :
    List ServiceOperation → World η → List Exchange × World η
  | [], w => ([], w)
  | o :: operations, w =>
    let p := o.perform m w
    let rest := m.history operations p.world
    (p.exchanges ++ rest.1, rest.2)

/-- An operation on files has succeeded, where a file that is missing is no failure; and the
installer has answered a registration with a state of the service that can be read back. -/
def Exchange.Sound : Exchange → Prop
  | register request (.ok state) => state.serviceName = request.serviceName ∧ state.Readable
  | save _ answer => answer.isOk = true
  | load _ (.error kind) => kind = .notFound
  | forget _ answer => answer.isOk = true
  | _ => True

instance : DecidablePred Exchange.Sound
  | .register _ (.ok _) => inferInstanceAs (Decidable (_ ∧ _))
  | .register _ (.error _) => inferInstanceAs (Decidable True)
  | .unregister .. => inferInstanceAs (Decidable True)
  | .readRecord .. => inferInstanceAs (Decidable True)
  | .writeRecord .. => inferInstanceAs (Decidable True)
  | .save .. => inferInstanceAs (Decidable (_ = true))
  | .load _ (.ok _) => inferInstanceAs (Decidable True)
  | .load _ (.error _) => inferInstanceAs (Decidable (_ = _))
  | .forget .. => inferInstanceAs (Decidable (_ = true))
  | .stamp _ => inferInstanceAs (Decidable True)

theorem exists_of_isOk {α ε : Type} {answer : Except ε α} (h : answer.isOk = true) :
    ∃ a, answer = .ok a := by
  rcases answer with e | a
  · cases h
  · exact ⟨a, rfl⟩

/-- All exchanges are sound. -/
abbrev Sound (exchanges : List Exchange) : Prop := ∀ x ∈ exchanges, x.Sound

theorem Sound.of_subset {exchanges exchanges' : List Exchange} (h : Sound exchanges')
    (hsub : exchanges ⊆ exchanges') : Sound exchanges := fun x hx ↦ h x (hsub hx)

/-- Whether a query is one to a port. -/
def ServiceQuery.isPort : ServiceQuery → Bool
  | register _ => true
  | unregister _ _ => true
  | readRecord _ => true
  | writeRecord _ _ => true
  | _ => false

namespace ServiceManager

variable {η : Type} {m : ServiceManager η} {d : ServiceProfile} {isNew : Bool} {service : String}
  {state : Rollback.State} {query : ServiceQuery} {script : ServiceScript}
  {known : String → Option Rollback.State} {w : World η}

/-- The manager keeps states and reads them, and its ports leave the phases and the files of the
store as they are. -/
structure Keeping (m : ServiceManager η) : Prop where
  keepStates : m.rollback.keepStates = true
  readStates : m.rollback.readStates = true
  phases : m.KeepsPhases
  files : ∀ query w known, query.isPort = true → m.store.Keeps w.disk known →
    m.store.Keeps (m.answer query w).2.disk known

/-- After each performance of the script, the store keeps the states of the latest registrations,
if it did before. -/
def Tracks (m : ServiceManager η) (script : ServiceScript) : Prop :=
  ∀ w known, m.store.Keeps w.disk known → Sound (script.perform m w).exchanges →
    m.store.Keeps (script.perform m w).world.disk
      (registrations known (script.perform m w).exchanges)

/-- A quiet answer leaves in the store what it keeps. -/
theorem Keeping.keeps_answer (hm : m.Keeping) {answer : query.Answer}
    (h : (query.exchange answer).isQuiet = true) (hkeeps : m.store.Keeps w.disk known) :
    m.store.Keeps (m.answer query w).2.disk known := by
  cases query with
  | save => cases h
  | forget => cases h
  | load => exact hkeeps
  | stamp => exact hkeeps
  | _ => exact hm.files _ w known rfl hkeeps

theorem tracks_done {result : Except OperationError Unit} : m.Tracks (.done result) :=
  fun _ _ hkeeps _ ↦ hkeeps

/-- A query whose answers settle nothing. -/
theorem Keeping.tracks_ask (hm : m.Keeping) {next : query.Answer → ServiceScript}
    (hquiet : ∀ answer, (query.exchange answer).isQuiet = true)
    (hnext : ∀ answer, m.Tracks (next answer)) : m.Tracks (.ask query next) := by
  intro w known hkeeps hsound
  have hquiet := hquiet (m.answer query w).1
  have hrest := hnext _ _ _ (hm.keeps_answer hquiet hkeeps)
    (hsound.of_subset (List.subset_cons_self _ _))
  rwa [← registrations_cons_of_settles (Exchange.settles_of_isQuiet hquiet)] at hrest

/-- Writing a record settles nothing. -/
theorem Keeping.tracks_recordScript (hm : m.Keeping) : m.Tracks (recordScript d) := by
  refine hm.tracks_ask (fun _ ↦ rfl) fun answer ↦ ?_
  rcases answer with why | - | current
  · exact tracks_done
  · exact tracks_done
  · dsimp only
    split
    · exact tracks_done
    · refine hm.tracks_ask (fun _ ↦ rfl) fun answer ↦ ?_
      rcases answer with why | ⟨⟩ <;> exact tracks_done

/-- Unregistering a service takes its state out of the store. -/
theorem Keeping.tracks_unregisterScript (hm : m.Keeping) (hname : '/' ∉ service.toList) :
    m.Tracks (unregisterScript service state) := by
  intro w known hkeeps hsound
  have hkept := hm.files (.unregister service state) w known rfl hkeeps
  simp only [unregisterScript, ServiceScript.perform, answer] at hkept hsound ⊢
  rcases hanswer : m.registrar.uninstall service state w with ⟨why | ⟨⟩, w₁⟩
  · simp only [hanswer, ServiceScript.perform] at hkept ⊢
    rw [registrations_cons_of_settles fun _ ↦ rfl]
    exact hkept
  · simp only [hanswer, ServiceScript.perform, answer, ServiceQuery.exchange] at hkept hsound ⊢
    have hforgotten := hsound _ (List.mem_cons_of_mem _ (List.mem_singleton_self _))
    obtain ⟨removed, hremoved⟩ := exists_of_isOk hforgotten
    rw [registrations_cons_unregister, registrations_cons_of_settles fun _ ↦ rfl]
    exact hkept.remove hname (Prod.ext hremoved rfl)

theorem Keeping.tracks_standInScript (hm : m.Keeping) (hname : '/' ∉ service.toList) :
    m.Tracks (m.standInScript service) := by
  rw [standInScript]
  split
  · exact hm.tracks_ask (fun _ ↦ rfl) fun _ ↦ hm.tracks_unregisterScript hname
  · exact tracks_done

/-- An unregistration as a whole tracks the registrations. -/
theorem Keeping.tracks_uninstallScript (hm : m.Keeping) (hname : '/' ∉ service.toList) :
    m.Tracks (m.uninstallScript service) := by
  rw [uninstallScript, if_pos hm.readStates]
  refine hm.tracks_ask (fun _ ↦ rfl) fun answer ↦ ?_
  rw [loadedScript.eq_def]
  split
  · exact tracks_done
  · exact hm.tracks_standInScript hname
  · exact hm.tracks_unregisterScript hname

/-- A registration puts its state in the store. -/
theorem Keeping.tracks_installScript (hm : m.Keeping) (hname : '/' ∉ d.name.toList) :
    m.Tracks (m.installScript d isNew) := by
  rcases isNew with - | -
  · exact hm.tracks_recordScript
  · intro w known hkeeps hsound
    have hregistered := hm.files (.register (d.registrationRequest m.launcher)) w known rfl hkeeps
    simp only [installScript, if_true, ServiceScript.perform, answer] at hregistered hsound ⊢
    rcases hanswer : m.registrar.install (d.registrationRequest m.launcher) w with ⟨why | state, w₁⟩
    · simp only [hanswer, ServiceScript.perform] at hregistered ⊢
      rw [registrations_cons_of_settles fun _ ↦ rfl]
      exact hregistered
    · simp only [hanswer, hm.keepStates, if_true, ServiceScript.perform, answer,
        ServiceQuery.exchange] at hregistered hsound ⊢
      obtain ⟨hservice, hreadable⟩ := hsound _ (List.mem_cons_self ..)
      have hsaved := hsound _ (List.mem_cons_of_mem _ (List.mem_cons_self ..))
      obtain ⟨path, hpath⟩ := exists_of_isOk hsaved
      have hstate : state.serviceName = d.name := hservice
      have hkept := hregistered.save (hstate ▸ hname) hreadable (Prod.ext hpath rfl)
      have hrest := hm.tracks_recordScript (d := d) _ _ hkept (hsound.of_subset fun x hx ↦
        List.mem_cons_of_mem _ (List.mem_cons_of_mem _ hx))
      rw [registrations_cons_register, registrations_cons_of_settles fun _ ↦ rfl, ← hservice]
      exact hrest

/-- Every operation tracks the registrations. -/
theorem Keeping.tracks_script (hm : m.Keeping) {o : ServiceOperation}
    (hname : '/' ∉ o.service.toList) : m.Tracks (o.script m) := by
  rcases o with ⟨d, isNew⟩ | service
  · exact hm.tracks_installScript hname
  · exact hm.tracks_uninstallScript hname

/-- No operation is under way, and the store keeps the states of the latest registrations. -/
structure Settled (m : ServiceManager η) (w : World η) (known : String → Option Rollback.State) :
    Prop where
  phases : w.phases = []
  keeps : m.store.Keeps w.disk known

theorem Settled.free {o : ServiceOperation} (h : m.Settled w known) :
    w.phases.of? o.service = none := by
  rw [h.phases]
  rfl

/-- What one operation preserves. -/
theorem Keeping.settled_perform (hm : m.Keeping) {o : ServiceOperation} (h : m.Settled w known)
    (hname : '/' ∉ o.service.toList) (hsound : Sound (o.perform m w).exchanges) :
    m.Settled (o.perform m w).world (registrations known (o.perform m w).exchanges) := by
  refine ⟨(o.phases_perform hm.phases w).trans h.phases, ?_⟩
  rw [ServiceOperation.perform_of_free h.free] at hsound ⊢
  exact hm.tracks_script hname (w.entering o.service o.phase) known h.keeps hsound

/-- What a whole history preserves. -/
theorem Keeping.settled_history (hm : m.Keeping) {operations : List ServiceOperation}
    (h : m.Settled w known) (hnames : ∀ o ∈ operations, '/' ∉ o.service.toList)
    (hsound : Sound (m.history operations w).1) :
    m.Settled (m.history operations w).2 (registrations known (m.history operations w).1) := by
  induction operations generalizing w known with
  | nil => exact h
  | cons o operations ih =>
    rw [List.forall_mem_cons] at hnames
    have hstep := hm.settled_perform h hnames.1
      (hsound.of_subset (List.subset_append_left _ _))
    have hrest := ih hstep hnames.2 (hsound.of_subset (List.subset_append_right _ _))
    rwa [← registrations_append] at hrest

/-- A history runs the operations of the manager. -/
theorem world_history (operations : List ServiceOperation) (w : World η) :
    (m.history operations w).2 = operations.foldl (fun w o ↦ (o.run m w).2) w := by
  induction operations generalizing w with
  | nil => rfl
  | cons o operations ih =>
    rw [List.foldl_cons, o.run_eq_perform]
    exact ih _

/-- What is asked in operations that follow on others is asked behind what these asked. -/
theorem history_append (operations operations' : List ServiceOperation) (w : World η) :
    (m.history (operations ++ operations') w).1 =
      (m.history operations w).1 ++ (m.history operations' (m.history operations w).2).1 := by
  induction operations generalizing w with
  | nil => rfl
  | cons o operations ih => exact (congrArg _ (ih _)).trans (List.append_assoc ..).symm

/-! ### Unregistrations -/

/-- What an unregistration hands the installer, after some exchanges. -/
structure Handing (m : ServiceManager η) (service : String) (before : List Exchange)
    (p : Performance η) : Prop where
  /-- The state of the latest registration. -/
  latest : ∀ state, IsLatest service before state →
    p.exchanges.filterMap Exchange.handed? = [(service, state)]
  /-- Where there is none, the default, if there is to be one. -/
  standIn : (∀ state, ¬ IsLatest service before state) → m.rollback.standIn = true →
    ∃ id now, p.exchanges.filterMap Exchange.handed? = [(service, .synthetic id now service)]
  /-- Otherwise nothing: the installer is not called. -/
  refused : (∀ state, ¬ IsLatest service before state) → m.rollback.standIn = false →
    p.exchanges.filterMap Exchange.handed? = [] ∧ p.result = .error (.stateNotFound service)

theorem filterMap_handed?_consulted {file : FileReading} :
    (m.consulted service file).filterMap Exchange.handed? = [] := by
  rw [consulted]
  split <;> rfl

theorem filterMap_handed?_unregistering {exchanges : List Exchange}
    {result : Except OperationError Unit} (h : Unregistering service state exchanges result) :
    exchanges.filterMap Exchange.handed? = [(service, state)] := by
  rcases h with why | answer <;> rfl

/-- What is handed is what is kept, and the default where there is nothing. -/
theorem Uninstalling.handing {before : List Exchange} {file : FileReading} {p : Performance η}
    (h : m.Uninstalling service file p.exchanges p.result)
    (hkept : m.keptState? service file = .ok (registrations (fun _ ↦ none) before service)) :
    m.Handing service before p := by
  obtain ⟨exchanges, result, w⟩ := p
  dsimp only at h
  -- The kept state cannot be read; there is none, and it is demanded, or one stands in for it; or
  -- there is one.
  rcases h with ⟨e, he⟩ | ⟨hnone, hstand⟩ | ⟨hnone, hstand, stamp, hbehind⟩ |
    ⟨state, hsome, hbehind⟩
  · rw [hkept] at he
    cases he
  · rw [hkept, Except.ok.injEq] at hnone
    have hlatest := not_isLatest hnone
    exact ⟨fun state h ↦ absurd h (hlatest state),
      fun _ h ↦ absurd (hstand.symm.trans h) (by decide),
      fun _ _ ↦ ⟨filterMap_handed?_consulted, rfl⟩⟩
  · rw [hkept, Except.ok.injEq] at hnone
    have hlatest := not_isLatest hnone
    refine ⟨fun state h ↦ absurd h (hlatest state), fun _ _ ↦ ⟨stamp.1, stamp.2, ?_⟩,
      fun _ h ↦ absurd (hstand.symm.trans h) (by decide)⟩
    rw [List.filterMap_append, filterMap_handed?_consulted, List.nil_append]
    exact (List.filterMap_cons_none rfl).trans (filterMap_handed?_unregistering hbehind)
  · rw [hkept, Except.ok.injEq] at hsome
    have hlatest : IsLatest service before state := isLatest_iff.2 hsome
    refine ⟨fun found h ↦ ?_, fun h ↦ absurd hlatest (h state), fun h ↦ absurd hlatest (h state)⟩
    have hfound := isLatest_iff.1 h
    rw [hsome, Option.some.injEq] at hfound
    rw [List.filterMap_append, filterMap_handed?_consulted, List.nil_append, ← hfound]
    exact filterMap_handed?_unregistering hbehind

/-- **Each unregistration hands the installer the state of the latest registration of its
service.** This holds after any operations on any services, whichever ports have failed, as long as
the file operations succeed. -/
theorem uninstall_hands {operations : List ServiceOperation} (hm : m.Keeping)
    (hphases : w.phases = []) (hempty : m.store.Empty w.disk)
    (hnames : ∀ o ∈ operations ++ [.uninstall service], '/' ∉ o.service.toList)
    (hsound : Sound (m.history (operations ++ [.uninstall service]) w).1) :
    let before := m.history operations w
    let p := (ServiceOperation.uninstall service).perform m before.2
    before.2 = operations.foldl (fun w o ↦ (o.run m w).2) w ∧
    m.uninstall service before.2 = (p.result.mapError .failed, p.world) ∧
    m.Handing service before.1 p := by
  rw [history_append] at hsound
  rw [List.forall_mem_append, List.forall_mem_singleton] at hnames
  have hsettled := hm.settled_history ⟨hphases, hempty.keeps⟩ hnames.1
    (hsound.of_subset (List.subset_append_left _ _))
  refine ⟨world_history operations w, (ServiceOperation.uninstall service).run_eq_perform _, ?_⟩
  have hperform := ServiceOperation.perform_of_free (m := m) (o := .uninstall service) hsettled.free
  have hload : .load service ((m.history operations w).2.disk.read (m.store.path service)) ∈
      ((ServiceOperation.uninstall service).perform m (m.history operations w).2).exchanges := by
    rw [hperform]
    show _ ∈ ((m.uninstallScript service).perform m _).exchanges
    rw [uninstallScript, if_pos hm.readStates]
    exact List.mem_cons_self ..
  have hread := hsound _ (List.mem_append_right _ (List.mem_append_left _ hload))
  -- The history was sound, so the file was read, and what it gives is what the registrations say.
  have hkept : m.keptState? service
      ((m.history operations w).2.disk.read (m.store.path service)) =
        .ok (registrations (fun _ ↦ none) (m.history operations w).1 service) := by
    rw [keptState?, if_pos hm.readStates, ← Rollback.Store.load_eq]
    exact hsettled.keeps.load hnames.2 fun kind hkind ↦ by rwa [hkind] at hread
  refine Uninstalling.handing ?_ hkept
  rw [hperform]
  exact uninstalling_perform ((m.history operations w).2.entering service .uninstalling)

end ServiceManager

/-! ### A rehearsal -/

namespace Rehearsal

open Rollback (Store)

/-- The ports of a machine act on nothing but the machine. -/
theorem answer_manager {query : ServiceQuery} (hport : query.isPort = true)
    (w : World (Machine Unit)) : ∃ h, (manager.answer query w).2 = { w with host := h } := by
  cases query with
  | register request => exact ActsOnHost.install request w
  | unregister service state => exact ActsOnHost.uninstall service state w
  | readRecord service => exact ActsOnHost.record service w
  | writeRecord service line => exact ActsOnHost.setRecord service line w
  | _ => cases hport

/-- The rehearsed manager keeps states and reads them. -/
theorem keeping_manager : manager.Keeping where
  keepStates := rfl
  readStates := rfl
  phases query w := by
    rcases hport : query.isPort with - | -
    · cases query <;> first | rfl | cases hport
    · obtain ⟨h, hw⟩ := answer_manager hport w
      rw [hw]
  files query w known hport hkeeps := by
    obtain ⟨h, hw⟩ := answer_manager hport w
    rwa [hw]

/-- A service to register. -/
def web : ServiceProfile := { name := "web", home := "C:\\resin" }

/-- An empty world, in which the record of a new service is missing. -/
def bareWorld : World (Machine Unit) :=
  { worldWith [] with host := { notes := (), failing := ["no_record"] } }

/-- The machine that has registered the service. -/
def webMachine : Machine Unit where
  actions := [.install (web.registrationRequest "resin.exe")]
  states := [("web", .stopped)]
  registered := 1
  failing := ["no_record"]
  notes := ()

/-- The world that has. -/
def webWorld : World (Machine Unit) where
  disk := diskWith [("web.srv", Text.bytesOf webState.document)]
  environment := ⟨[]⟩
  host := webMachine

/-- The registration keeps the state, although the record of the service is missing. -/
theorem perform_install_web : (ServiceOperation.install web true).perform manager bareWorld =
    ⟨[.register (web.registrationRequest manager.launcher) (.ok webState),
      .save webState (.ok "/state/web.srv"), .readRecord "web" (.ok none)],
      .error (.serviceNotFound "web"), webWorld⟩ := by
  have hregister : manager.answer (.register (web.registrationRequest manager.launcher))
      (bareWorld.entering web.name .installing) = (.ok webState,
        { bareWorld.entering web.name .installing with host := webMachine }) := rfl
  have hsave : manager.answer (.save webState)
      { bareWorld.entering web.name .installing with host := webMachine } =
      (.ok "/state/web.srv", webWorld.entering web.name .installing) := by
    have hdisk := save_web (show webState.serviceName = "web" from rfl)
    show ((manager.store.save webState { tree := .empty, workDirectory := [] }).1,
      { bareWorld.entering web.name .installing with
        host := webMachine
        disk := (manager.store.save webState { tree := .empty, workDirectory := [] }).2 }) = _
    rw [hdisk]
    rfl
  have hkeep : manager.rollback.keepStates = true := rfl
  rw [ServiceOperation.perform_of_free rfl]
  simp only [ServiceOperation.script, ServiceManager.installScript, ServiceScript.perform,
    ServiceOperation.service, ServiceOperation.phase, if_true, hregister, hkeep, hsave]
  rfl

/-- The unregistration finds the state and hands it to the installer. -/
theorem exchanges_uninstall_web :
    ((ServiceOperation.uninstall "web").perform manager webWorld).exchanges =
    [.load "web" (.ok (Text.bytesOf webState.document)), .unregister "web" webState (.ok ()),
      .forget "web" (.ok true)] := by
  have hload : manager.answer (.load "web") (webWorld.entering "web" .uninstalling) =
      (.ok (Text.bytesOf webState.document), webWorld.entering "web" .uninstalling) :=
    Prod.ext read_web rfl
  have hstate : manager.store.stateIn "web" (.ok (Text.bytesOf webState.document)) =
      .ok (some webState) := by
    simp only [Store.stateIn, Rollback.State.ofBytes?_document (s := webState) (by decide)]
    rfl
  have hread : manager.rollback.readStates = true := rfl
  rw [ServiceOperation.perform_of_free rfl]
  simp only [ServiceOperation.script, ServiceManager.uninstallScript, ServiceScript.perform,
    ServiceOperation.service, ServiceOperation.phase, if_true, hread, hload]
  rw [hstate]
  show [Exchange.load "web" _, Exchange.unregister "web" webState (.ok ()),
    Exchange.forget "web" (manager.store.remove "web" (diskWith _)).1] = _
  rw [remove_web]

theorem history_web : manager.history [.install web true] bareWorld =
    ([.register (web.registrationRequest manager.launcher) (.ok webState),
      .save webState (.ok "/state/web.srv"), .readRecord "web" (.ok none)], webWorld) := by
  simp only [ServiceManager.history, perform_install_web]
  rfl

/-- A state that was kept is handed back, although the registration failed behind it. -/
theorem sample_handed :
    ((ServiceOperation.uninstall "web").perform manager webWorld).exchanges.filterMap
      Exchange.handed? = [("web", webState)] := by
  have hsound :
      Sound (manager.history ([.install web true] ++ [.uninstall "web"]) bareWorld).1 := by
    rw [ServiceManager.history_append, history_web]
    show Sound (_ ++
      (((ServiceOperation.uninstall "web").perform manager webWorld).exchanges ++ []))
    rw [exchanges_uninstall_web]
    decide
  have hnames : ∀ o ∈ [.install web true] ++ [ServiceOperation.uninstall "web"],
      '/' ∉ o.service.toList := by
    decide
  have hhanding := (ServiceManager.uninstall_hands (w := bareWorld) keeping_manager rfl
    (empty_worldWith []) hnames hsound).2.2
  rw [history_web] at hhanding
  exact hhanding.latest webState ⟨[], _, _, rfl, rfl, by decide⟩

end Rehearsal

end ServerSetup
