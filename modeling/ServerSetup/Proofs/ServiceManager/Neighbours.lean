import ServerSetup.Proofs.Rollback.FailedSave
import ServerSetup.Proofs.Rollback.Neighbours
import ServerSetup.Proofs.ServiceManager.Confinement
import ServerSetup.Proofs.ServiceManager.Exclusion
import ServerSetup.Proofs.ServiceManager.TwoRuns

/-!
# One service beside another

Ports act on a service if they change nothing but what the host has of this service, and take notice
of nothing else (`ActsOn`). If all ports do so, the operations on one service are nothing to
another: they leave what there is of it (`Separate.spares`), and the operations on the other one do
the same wherever they find that (`Separate.compares`). So a registration or unregistration of one
service and one of another can change places (`Separate.perform_swap`).

What no service has to itself is shared by all: the clock, the identifiers, the moment and the wish
to cancel. Two runs are compared on the same such occasion.

Both halves are instances of the comparison of two runs. For the first half, the second world is the
first one, and what is carried along is that it spares the other services of a world in the past
(`World.SparesOthers`). For the second half, two worlds are alike for a service if the host has the
same of it, it is in the same phase, and the store gives the same for it (`World.AlikeFor`). What a
host has of a service is given by a function into any type, so that nothing is said about how a host
is made.

The files of the services stand in one directory, which an operation on one of them may make. That
this makes no difference to the others is a matter of the store, and is used here through
`Rollback.Store.Settled`.
-/

namespace ServerSetup

/-! ### What an operation asks for -/

namespace Exchange

/-- The service that an exchange is about. -/
def service? : Exchange → Option String
  | register request _ => some request.serviceName
  | unregister service _ _ => some service
  | readRecord service _ => some service
  | writeRecord service _ _ => some service
  | save state _ => some state.serviceName
  | load service _ => some service
  | forget service _ => some service
  | stamp _ => none

/-- The call of the store in an exchange. -/
def storeCall? : Exchange → Option Rollback.StoreCall
  | save state _ => some (.save state)
  | load service _ => some (.load service)
  | forget service _ => some (.remove service)
  | _ => none

theorem service?_of_storeCall? {e : Exchange} {call : Rollback.StoreCall}
    (h : e.storeCall? = some call) : e.service? = some call.service := by
  cases e <;> cases h <;> rfl

end Exchange

theorem ServiceQuery.service?_exchange (query : ServiceQuery) (answer : query.Answer) :
    (query.exchange answer).service? = query.service? := by
  cases query <;> rfl

section

variable {η : Type} {m : ServiceManager η} {R : World η → World η → Prop}
  {Q : RegistrationRequest → RegistrationRequest → Prop} {about : String → Prop}

/-- A script that is compared asks for nothing about other services. -/
theorem ServiceScript.Alike.about_exchanges {script script' : ServiceScript}
    (h : script.Alike m Q about script') (hQ : ∀ r r', Q r r' → about r.serviceName)
    (w : World η) :
    ∀ e ∈ (script.perform m w).exchanges, ∀ service ∈ e.service?, about service := by
  induction h generalizing w with
  | done result => exact fun _ he ↦ absurd he List.not_mem_nil
  | @ask query next next' habout hnext ih =>
    rw [ServiceScript.perform]
    refine List.forall_mem_cons.2 ⟨?_, ih _ _⟩
    rw [ServiceQuery.service?_exchange]
    exact habout
  | @register r r' next next' hr hnext ih =>
    rw [ServiceScript.perform]
    refine List.forall_mem_cons.2 ⟨?_, ih _ _⟩
    rintro service ⟨⟩
    exact hQ r r' hr

/-- Neither does an operation on services. -/
theorem ServiceOperation.Alike.about_exchanges {o o' : ServiceOperation} (h : o.Alike m Q about o')
    (hm : m.Compares R Q about) (hQ : ∀ r r', Q r r' → about r.serviceName) (w : World η) :
    ∀ e ∈ (o.perform m w).exchanges, ∀ service ∈ e.service?, about service := by
  rw [ServiceOperation.perform]
  split
  · exact fun _ he ↦ absurd he List.not_mem_nil
  · exact (h.script hm).about_exchanges hQ _

/-- Neither does any operation of a manager. -/
theorem ManagerOperation.Alike.about_exchanges {o o' : ManagerOperation} (h : o.Alike m Q about o')
    (hm : m.Compares R Q about) (hQ : ∀ r r', Q r r' → about r.serviceName) (w : World η) :
    ∀ e ∈ (o.perform m w).1.exchanges, ∀ service ∈ e.service?, about service := by
  cases h with
  | change h => exact h.about_exchanges hm hQ w
  | _ => exact fun _ he ↦ absurd he List.not_mem_nil

/-- Starting, stopping and restarting call the control for their own service alone. -/
theorem ControlOperation.watches_own {service : String} (o : ControlOperation) :
    Watches (o.run m.noted service) (o.run m service)
      fun calls _ ↦ ∀ call ∈ calls, call.service = service := by
  have hturn (t : Turn) : Watches (t.run m.noted service) (t.run m service)
      fun calls _ ↦ ∀ call ∈ calls, call.service = service :=
    Turn.watches_run.mono fun _ _ hcourse ↦ hcourse.orderly.service_eq
  have hcheck : Watches (ServiceManager.checkCancelled service : SetupM (Noted η) Unit)
      (ServiceManager.checkCancelled service : SetupM η Unit)
      fun calls _ ↦ ∀ call ∈ calls, call.service = service := by
    refine .read fun w past ↦ ?_
    rw [show (w.noting past).cancelled = w.cancelled from rfl]
    split
    · exact .throw _ (by simp)
    · exact .pure () (by simp)
  have happend {α : Type} (calls : List ControlCall) (_ : α) (rest : List ControlCall)
      (_ : Except Halt Unit) (hcalls : ∀ call ∈ calls, call.service = service)
      (hrest : ∀ call ∈ rest, call.service = service) :
      ∀ call ∈ calls ++ rest, call.service = service :=
    List.forall_mem_append.2 ⟨hcalls, hrest⟩
  have hkept (calls : List ControlCall) (_ : Halt)
      (hcalls : ∀ call ∈ calls, call.service = service) : ∀ call ∈ calls, call.service = service :=
    hcalls
  cases o with
  | turn t => exact hturn t
  | restart => exact (hturn .stop).bind (fun _ ↦ hturn .start) hkept happend
  | restartUnlessCancelled =>
    exact hcheck.bind (fun _ ↦ (hturn .stop).bind (fun _ ↦ hcheck.bind (fun _ ↦ hturn .start)
      hkept happend) hkept happend) hkept happend

end

/-! ### Occasions -/

/-- What of the world no service has to itself: the clock, how many identifiers have been drawn, the
moment with which new records are stamped, and whether the restart under way was asked to stop. -/
structure Occasion where
  clock : Nat
  drawn : Nat
  now : Moment
  cancelled : Bool

namespace World

variable {η : Type}

/-- The occasion that there is in a world. -/
def occasion (w : World η) : Occasion := ⟨w.clock, w.drawn, w.now, w.cancelled⟩

/-- A world on another occasion. -/
def upon (w : World η) (t : Occasion) : World η :=
  { w with clock := t.clock, drawn := t.drawn, now := t.now, cancelled := t.cancelled }

end World

/-- Does operations one after the other, each on an occasion of its own. -/
def ServiceManager.performUpon {η : Type} (m : ServiceManager η) :
    List (Occasion × ManagerOperation) → World η → List ManagerOutcome × World η
  | [], w => ([], w)
  | (t, o) :: rest, w =>
    let done := o.perform m (w.upon t)
    let later := m.performUpon rest done.2
    (done.1 :: later.1, later.2)

/-! ### Ports that act on one service -/

section

variable {η π α : Type} {m : ServiceManager η} {part : η → String → π}
  {service other : String} {services : String → Prop} {w w' w'' : World η}

/-- Two worlds look the same to the ports that act on a service: the occasion is the same, and so is
what the host has of the service. -/
structure World.SameTo (part : η → String → π) (service : String) (w w' : World η) : Prop where
  occasion : w'.occasion = w.occasion
  environment : w'.environment = w.environment
  catalog : w'.catalog = w.catalog
  part : part w'.host service = part w.host service

/-- A port acts on a service: what it does depends on what the host has of this service, and on the
occasion, and it changes nothing else. -/
structure ActsOn (part : η → String → π) (service : String) (op : World η → α × World η) :
    Prop where
  disk : ∀ w, (op w).2.disk = w.disk
  phases : ∀ w, (op w).2.phases = w.phases
  environment : ∀ w, (op w).2.environment = w.environment
  catalog : ∀ w, (op w).2.catalog = w.catalog
  others : ∀ w other, other ≠ service → part (op w).2.host other = part w.host other
  own : Respects (World.SameTo part service) op op

/-- Each port acts on the service that it is called for. -/
structure ServiceManager.Separate (m : ServiceManager η) (part : η → String → π) : Prop where
  install : ∀ request, ActsOn part request.serviceName (m.registrar.install request)
  uninstall : ∀ service state, ActsOn part service (m.registrar.uninstall service state)
  record : ∀ service, ActsOn part service (m.records.record service)
  setRecord : ∀ service record, ActsOn part service (m.records.setRecord service record)
  status : ∀ service, ActsOn part service (m.control.status service)
  start : ∀ service, ActsOn part service (m.control.start service)
  stop : ∀ service, ActsOn part service (m.control.stop service)
  named : m.NamesStates

/-- So does the answer to a query to a port. -/
theorem ServiceManager.Separate.exists_actsOn (hports : m.Separate part) {query : ServiceQuery}
    (hport : query.isPort = true) :
    ∃ service, query.service? = some service ∧ ActsOn part service (m.answer query) := by
  cases query with
  | register request => exact ⟨_, rfl, hports.install request⟩
  | unregister service state => exact ⟨_, rfl, hports.uninstall service state⟩
  | readRecord service => exact ⟨_, rfl, hports.record service⟩
  | writeRecord service record => exact ⟨_, rfl, hports.setRecord service record⟩
  | _ => cases hport

/-- Two requests are the same, about one of the services in question. -/
def RegistrationRequest.SameAbout (about : String → Prop) (r r' : RegistrationRequest) : Prop :=
  r' = r ∧ about r.serviceName

theorem ManagerOperation.alike_own (o : ManagerOperation) :
    o.Alike m (RegistrationRequest.SameAbout (· = o.service)) (· = o.service) o :=
  o.alike_refl (fun _ h ↦ ⟨rfl, h⟩) rfl

/-! ### Worlds that are alike for a service -/

/-- Two worlds are alike for a service: what there is of it is the same, on the same occasion. -/
structure World.AlikeFor (m : ServiceManager η) (part : η → String → π) (service : String)
    (w w' : World η) : Prop where
  view : w.SameTo part service w'
  phase : w'.phases.of? service = w.phases.of? service
  file : m.store.AlikeFor service w.disk w'.disk

theorem World.AlikeFor.upon (h : w.AlikeFor m part service w') (t : Occasion) :
    (w.upon t).AlikeFor m part service (w'.upon t) :=
  ⟨⟨rfl, h.view.environment, h.view.catalog, h.view.part⟩, h.phase, h.file⟩

/-- A call of the store about the service is answered alike. -/
theorem World.AlikeFor.store {call : Rollback.StoreCall}
    (h : w.AlikeFor m part call.service w') :
    (m.store.perform call w'.disk).1 = (m.store.perform call w.disk).1 ∧
      (w.onDisk (m.store.perform call w.disk).2).AlikeFor m part call.service
        (w'.onDisk (m.store.perform call w'.disk).2) :=
  ⟨h.file.perform.1, ⟨h.view.occasion, h.view.environment, h.view.catalog, h.view.part⟩, h.phase,
    h.file.perform.2⟩

/-- A port that acts on a service does the same in worlds that are alike for it. -/
theorem ActsOn.respects {op : World η → α × World η} (h : ActsOn part service op) :
    Respects (World.AlikeFor m part service) op op := by
  intro w w' hw
  obtain ⟨hanswer, hview⟩ := h.own w w' hw.view
  refine ⟨hanswer, hview, ?_, ?_⟩
  · rw [h.phases, h.phases]
    exact hw.phase
  · rw [h.disk, h.disk]
    exact hw.file

/-- **Operations on a service do the same in worlds that are alike for it.** -/
theorem ServiceManager.Separate.compares (hports : m.Separate part) (service : String) :
    m.Compares (World.AlikeFor m part service) (RegistrationRequest.SameAbout (· = service))
      (· = service) where
  phase := by
    rintro w w' _ hw rfl
    exact hw.phase
  entering := by
    rintro w w' _ phase hw rfl
    refine ⟨⟨hw.view.occasion, hw.view.environment, hw.view.catalog, hw.view.part⟩, ?_, hw.file⟩
    show Phases.of? (Phases.enter _ _ _) _ = Phases.of? (Phases.enter _ _ _) _
    rw [Phases.of?_enter_self, Phases.of?_enter_self]
  leaving := by
    rintro w w' _ hw rfl
    refine ⟨⟨hw.view.occasion, hw.view.environment, hw.view.catalog, hw.view.part⟩, ?_, hw.file⟩
    show Phases.of? (Phases.leave _ _) _ = Phases.of? (Phases.leave _ _) _
    rw [Phases.of?_leave_self, Phases.of?_leave_self]
  clock hw := congrArg Occasion.clock hw.view.occasion
  later {w w'} time hw := by
    obtain ⟨-, hdrawn, hnow, hcancelled⟩ := Occasion.mk.inj hw.view.occasion
    refine ⟨⟨?_, hw.view.environment, hw.view.catalog, hw.view.part⟩, hw.phase, hw.file⟩
    show Occasion.mk time w'.drawn w'.now w'.cancelled = ⟨time, w.drawn, w.now, w.cancelled⟩
    rw [hdrawn, hnow, hcancelled]
  cancelled hw := congrArg Occasion.cancelled hw.view.occasion
  answer := by
    intro query hquery
    rcases hport : query.isPort with - | -
    · cases query with
      | save state =>
        obtain rfl : state.serviceName = service := hquery _ rfl
        intro w w' hw
        obtain ⟨hanswer, hworld⟩ := @World.AlikeFor.store _ _ m part w w' (.save state) hw
        exact ⟨(Rollback.StoreAnswer.saved.inj hanswer).symm, hworld⟩
      | load other =>
        obtain rfl : other = service := hquery _ rfl
        exact fun w w' hw ↦ ⟨hw.file.read_eq.symm, hw⟩
      | forget other =>
        obtain rfl : other = service := hquery _ rfl
        intro w w' hw
        obtain ⟨hanswer, hworld⟩ := @World.AlikeFor.store _ _ m part w w' (.remove other) hw
        exact ⟨(Rollback.StoreAnswer.removed.inj hanswer).symm, hworld⟩
      | stamp =>
        -- The identifier and the moment are the occasion's, and one more is drawn in both worlds.
        intro w w' hw
        obtain ⟨hclock, hdrawn, hnow, hcancelled⟩ := Occasion.mk.inj hw.view.occasion
        refine ⟨?_, ⟨?_, hw.view.environment, hw.view.catalog, hw.view.part⟩, hw.phase, hw.file⟩
        · show (Identifier.fresh w.drawn, w.now) = (.fresh w'.drawn, w'.now)
          rw [hdrawn, hnow]
        · show Occasion.mk w'.clock (w'.drawn + 1) w'.now w'.cancelled =
            ⟨w.clock, w.drawn + 1, w.now, w.cancelled⟩
          rw [hclock, hdrawn, hnow, hcancelled]
      | _ => cases hport
    · obtain ⟨other, hother, hacts⟩ := hports.exists_actsOn hport
      obtain rfl : other = service := hquery other hother
      exact hacts.respects
  install := by
    rintro _ r ⟨rfl, rfl⟩
    exact (hports.install r).respects
  named := by
    rintro _ r w state ⟨rfl, rfl⟩ hstate
    exact hports.named r w state hstate
  status := by
    rintro _ rfl
    exact (hports.status _).respects
  start := by
    rintro _ rfl
    exact (hports.start _).respects
  stop := by
    rintro _ rfl
    exact (hports.stop _).respects

/-- One operation on a service in worlds that are alike for it. -/
theorem ServiceManager.Separate.perform (hports : m.Separate part) (o : ManagerOperation)
    (h : w.AlikeFor m part o.service w') : (o.perform m w').1 = (o.perform m w).1 ∧
      (o.perform m w).2.AlikeFor m part o.service (o.perform m w').2 := by
  obtain ⟨houtcome, hworld⟩ := (hports.compares o.service).perform o.alike_own h
  exact ⟨(houtcome.eq fun _ _ hsame ↦ hsame.1.symm).symm, hworld⟩

/-- **All operations on a service, now and later.** -/
theorem ServiceManager.Separate.performUpon (hports : m.Separate part)
    {later : List (Occasion × ManagerOperation)} (hlater : ∀ x ∈ later, x.2.service = service)
    (h : ∀ t, (w.upon t).AlikeFor m part service (w'.upon t)) :
    (m.performUpon later w').1 = (m.performUpon later w).1 := by
  induction later generalizing w w' with
  | nil => rfl
  | cons x later ih =>
    obtain ⟨rfl, hrest⟩ := List.forall_mem_cons.1 hlater
    obtain ⟨houtcome, hworld⟩ := hports.perform x.2 (h x.1)
    exact congrArg₂ List.cons houtcome (ih hrest hworld.upon)

/-! ### Worlds in which one service has changed -/

/-- A world is as another was, but for a service: what the others have is the same, and so is what
the store gives for those in question, whose files are settled. -/
structure World.SparesOthers (m : ServiceManager η) (part : η → String → π)
    (services : String → Prop) (service : String) (w w' : World η) : Prop where
  environment : w'.environment = w.environment
  catalog : w'.catalog = w.catalog
  part : ∀ other, other ≠ service → part w'.host other = part w.host other
  phase : ∀ other, other ≠ service → w'.phases.of? other = w.phases.of? other
  settled : m.store.Settled services w'.disk
  file : ∀ other, services other → other ≠ service → m.store.AlikeFor other w.disk w'.disk

namespace World.SparesOthers

theorem refl (h : m.store.Settled services w.disk) : w.SparesOthers m part services service w :=
  ⟨rfl, rfl, fun _ _ ↦ rfl, fun _ _ ↦ rfl, h, fun other _ _ ↦ .refl m.store other w.disk⟩

/-- For another service, such a world is the same on every occasion. -/
theorem alikeFor (h : w.SparesOthers m part services service w') (hother : services other)
    (hne : other ≠ service) (t : Occasion) : (w.upon t).AlikeFor m part other (w'.upon t) :=
  ⟨⟨rfl, h.environment, h.catalog, h.part other hne⟩, h.phase other hne, h.file other hother hne⟩

/-- A port that acts on the service. -/
theorem port (h : w.SparesOthers m part services service w') {op : World η → α × World η}
    (hop : ActsOn part service op) : w.SparesOthers m part services service (op w').2 where
  environment := (hop.environment w').trans h.environment
  catalog := (hop.catalog w').trans h.catalog
  part other hne := (hop.others w' other hne).trans (h.part other hne)
  phase other hne := by
    rw [hop.phases]
    exact h.phase other hne
  settled := by
    rw [hop.disk]
    exact h.settled
  file other hother hne := by
    rw [hop.disk]
    exact h.file other hother hne

/-- A call of the store about the service. -/
theorem store {call : Rollback.StoreCall}
    (h : w.SparesOthers m part services call.service w')
    (haccepts : ∀ service, services service → m.store.Accepts service)
    (hcall : services call.service) : w.SparesOthers m part services call.service
      (w'.onDisk (m.store.perform call w'.disk).2) := by
  obtain ⟨hsettled, hfiles⟩ := h.settled.perform haccepts hcall
  exact ⟨h.environment, h.catalog, h.part, h.phase, hsettled, fun other hother hne ↦
    (h.file other hother hne).trans (hfiles other hother hne)⟩

end World.SparesOthers

section

variable (hports : m.Separate part)
  (haccepts : ∀ service, services service → m.store.Accepts service)

include hports haccepts

/-- **What operations on a service spare.** -/
theorem ServiceManager.Separate.spares (hservice : services service) (w₀ : World η) :
    m.Compares (fun w w' ↦ w' = w ∧ w₀.SparesOthers m part services service w)
      (RegistrationRequest.SameAbout (· = service)) (· = service) where
  phase := by
    rintro w _ _ ⟨rfl, -⟩ -
    rfl
  entering := by
    rintro w _ _ phase ⟨rfl, hw⟩ rfl
    exact ⟨rfl, hw.environment, hw.catalog, hw.part, fun other hne ↦
      (Phases.of?_enter_of_ne hne).trans (hw.phase other hne), hw.settled, hw.file⟩
  leaving := by
    rintro w _ _ ⟨rfl, hw⟩ rfl
    exact ⟨rfl, hw.environment, hw.catalog, hw.part, fun other hne ↦
      (Phases.of?_leave_of_ne hne).trans (hw.phase other hne), hw.settled, hw.file⟩
  clock := by
    rintro w _ ⟨rfl, -⟩
    rfl
  later := by
    rintro w _ time ⟨rfl, hw⟩
    exact ⟨rfl, hw.environment, hw.catalog, hw.part, hw.phase, hw.settled, hw.file⟩
  cancelled := by
    rintro w _ ⟨rfl, -⟩
    rfl
  answer := by
    rintro query hquery w _ ⟨rfl, hw⟩
    refine ⟨rfl, rfl, ?_⟩
    rcases hport : query.isPort with - | -
    · cases query with
      | save state =>
        obtain rfl : state.serviceName = service := hquery _ rfl
        exact @World.SparesOthers.store _ _ m part services _ _ (.save state) hw haccepts hservice
      | load other => exact hw
      | forget other =>
        obtain rfl : other = service := hquery _ rfl
        exact @World.SparesOthers.store _ _ m part services _ _ (.remove other) hw haccepts hservice
      | stamp => exact ⟨hw.environment, hw.catalog, hw.part, hw.phase, hw.settled, hw.file⟩
      | _ => cases hport
    · obtain ⟨other, hother, hacts⟩ := hports.exists_actsOn hport
      obtain rfl : other = service := hquery other hother
      exact hw.port hacts
  install := by
    rintro _ r ⟨rfl, rfl⟩ w _ ⟨rfl, hw⟩
    exact ⟨rfl, rfl, hw.port (hports.install r)⟩
  named := by
    rintro _ r w state ⟨rfl, rfl⟩ hstate
    exact hports.named r w state hstate
  status := by
    rintro _ rfl w _ ⟨rfl, hw⟩
    exact ⟨rfl, rfl, hw.port (hports.status _)⟩
  start := by
    rintro _ rfl w _ ⟨rfl, hw⟩
    exact ⟨rfl, rfl, hw.port (hports.start _)⟩
  stop := by
    rintro _ rfl w _ ⟨rfl, hw⟩
    exact ⟨rfl, rfl, hw.port (hports.stop _)⟩

/-- One operation spares the other services, and asks for nothing about them. -/
theorem ServiceManager.Separate.sparesOthers (o : ManagerOperation) (hservice : services o.service)
    (w : World η) (hsettled : m.store.Settled services w.disk) :
    w.SparesOthers m part services o.service (o.perform m w).2 ∧
      ∀ e ∈ (o.perform m w).1.exchanges, ∀ service ∈ e.service?, service = o.service := by
  have hspares := hports.spares haccepts hservice w
  exact ⟨(hspares.perform o.alike_own ⟨rfl, .refl hsettled⟩).2.2,
    o.alike_own.about_exchanges hspares (fun _ _ hsame ↦ hsame.2) w⟩

end

/-! ### The disk behind an operation -/

namespace ServiceManager.Separate

variable (hports : m.Separate part)

include hports

/-- Ports that act on services leave the phases as they are. -/
theorem keepsPhases : m.KeepsPhases := by
  intro query w
  rcases hport : query.isPort with - | -
  · cases query with
    | save | load | forget | stamp => rfl
    | _ => cases hport
  · obtain ⟨service, -, hacts⟩ := hports.exists_actsOn hport
    exact hacts.phases w

/-- The disk after an answer is what the call of the store has left, if it was one. -/
theorem disk_answer (query : ServiceQuery) (w : World η) : (m.answer query w).2.disk =
    m.store.after (query.exchange (m.answer query w).1).storeCall?.toList w.disk := by
  rcases hport : query.isPort with - | -
  · cases query with
    | save | load | forget | stamp => rfl
    | _ => cases hport
  · obtain ⟨service, -, hacts⟩ := hports.exists_actsOn hport
    have hcall : (query.exchange (m.answer query w).1).storeCall? = none := by
      cases query with
      | save | load | forget | stamp => cases hport
      | _ => rfl
    rw [hacts.disk, hcall]
    rfl

/-- Of the disk, an operation leaves what the calls of the store leave. -/
theorem disk_script (script : ServiceScript) (w : World η) : (script.perform m w).world.disk =
    m.store.after ((script.perform m w).exchanges.filterMap Exchange.storeCall?) w.disk := by
  induction script generalizing w with
  | done result => rfl
  | ask query next ih =>
    rw [ServiceScript.perform]
    dsimp only
    rw [ih, hports.disk_answer, ← Rollback.Store.after_append, List.filterMap_cons]
    rcases (query.exchange (m.answer query w).1).storeCall? with - | call
    · rfl
    · rfl

/-- The disk after an operation is what its calls of the store have left. -/
theorem disk_perform (o : ServiceOperation) (w : World η) : (o.perform m w).world.disk =
    m.store.after ((o.perform m w).exchanges.filterMap Exchange.storeCall?) w.disk := by
  rw [ServiceOperation.perform]
  split
  · rfl
  · exact hports.disk_script _ _

/-- The record of a service is written without the store. -/
theorem disk_recordScript (d : ServiceProfile) (w : World η) :
    ((recordScript d).perform m w).world.disk = w.disk := by
  have hread := (hports.record d.name).disk w
  simp only [recordScript, ServiceScript.perform, answer]
  rcases hanswer : m.records.record d.name w with ⟨why | - | current, w₁⟩ <;> rw [hanswer] at hread
  · exact hread
  · exact hread
  · dsimp only
    rcases executablePart current with e | front
    · exact hread
    · have hwritten := (hports.setRecord d.name (front ++ " " ++ d.argumentLine)).disk w₁
      simp only [ServiceScript.perform, answer]
      rcases hanswer' : m.records.setRecord d.name (front ++ " " ++ d.argumentLine) w₁ with
        ⟨why | ⟨⟩, w₂⟩ <;> rw [hanswer'] at hwritten
      · exact hwritten.trans hread
      · exact hwritten.trans hread

/-- Of the disk, a registration leaves what saving its state leaves. -/
theorem disk_install {d : ServiceProfile} {state : Rollback.State}
    (hkeep : m.rollback.keepStates = true) (hfree : w.phases.of? d.name = none)
    (hinstall : (m.registrar.install (d.registrationRequest m.launcher)
      (w.entering d.name .installing)).1 = .ok state) :
    ((ServiceOperation.install d true).perform m w).world.disk = (m.store.save state w.disk).2 := by
  have hdisk := (hports.install (d.registrationRequest m.launcher)).disk
    (w.entering d.name .installing)
  rw [ServiceOperation.perform_of_free hfree]
  show ((m.installScript d true).perform m (w.entering d.name .installing)).world.disk = _
  rw [installScript, if_pos rfl, ServiceScript.perform]
  rcases hanswer : m.registrar.install (d.registrationRequest m.launcher)
    (w.entering d.name .installing) with ⟨answer, w₁⟩
  rw [hanswer] at hdisk hinstall
  obtain rfl : answer = .ok state := hinstall
  simp only [answer, hanswer, hkeep, if_true, ServiceScript.perform]
  rw [hports.disk_recordScript]
  exact congrArg (fun disk ↦ (m.store.save state disk).2) hdisk

end ServiceManager.Separate

theorem Exchange.service_eq_of_mem_storeCalls {exchanges : List Exchange}
    (h : ∀ e ∈ exchanges, ∀ other ∈ e.service?, other = service) :
    ∀ call ∈ exchanges.filterMap Exchange.storeCall?, call.service = service := by
  intro call hcall
  obtain ⟨e, he, hstore⟩ := List.mem_filterMap.1 hcall
  exact h e he _ (Exchange.service?_of_storeCall? hstore)

/-! ### Two services -/

namespace ServiceManager.Separate

section

variable (hports : m.Separate part)
  (haccepts : ∀ service, services service → m.store.Accepts service)
  (hsettled : m.store.Settled services w.disk) {o o' : ServiceOperation}

include hports haccepts hsettled

/-- An operation that comes before one on another service makes no difference to this one. -/
theorem perform_after (hne : o.service ≠ o'.service) (hservice : services o.service)
    (hservice' : services o'.service) (t t' : Occasion) :
    let first := o.perform m (w.upon t)
    let second := o'.perform m (first.world.upon t')
    let alone := o'.perform m (w.upon t')
    second.exchanges = alone.exchanges ∧ second.result = alone.result ∧
      (w.upon t).SparesOthers m part services o.service first.world ∧
      first.world.SparesOthers m part services o'.service second.world ∧
      alone.world.AlikeFor m part o'.service second.world := by
  intro first second alone
  have hspares : (w.upon t).SparesOthers m part services o.service first.world :=
    (hports.sparesOthers haccepts (.change o) hservice (w.upon t) hsettled).1
  have hspares' := (hports.sparesOthers haccepts (.change o') hservice' (first.world.upon t')
    hspares.settled).1
  have halike : (w.upon t').AlikeFor m part o'.service (first.world.upon t') :=
    hspares.alikeFor hservice' hne.symm t'
  obtain ⟨houtcome, hworld⟩ := hports.perform (.change o') halike
  obtain ⟨hexchanges, hresult⟩ := ManagerOutcome.mk.inj houtcome
  exact ⟨hexchanges, ManagerResult.change.inj hresult, hspares,
    ⟨hspares'.environment, hspares'.catalog, hspares'.part, hspares'.phase, hspares'.settled,
      hspares'.file⟩, hworld⟩

end

/-- **Changes of two services change places.** -/
theorem perform_swap (hports : m.Separate part) {o o' : ServiceOperation}
    (hne : o.service ≠ o'.service) (haccepts : m.store.Accepts o.service)
    (haccepts' : m.store.Accepts o'.service)
    (hsettled : m.store.Settled (fun s ↦ s = o.service ∨ s = o'.service) w.disk)
    (t t' : Occasion) :
    let first := o.perform m (w.upon t)
    let second := o'.perform m (first.world.upon t')
    let first' := o'.perform m (w.upon t')
    let second' := o.perform m (first'.world.upon t)
    second'.exchanges = first.exchanges ∧ second'.result = first.result ∧
    second.exchanges = first'.exchanges ∧ second.result = first'.result ∧
    (∀ s, part second'.world.host s = part second.world.host s) ∧
    second'.world.phases = second.world.phases ∧
    second.world.disk.SameBut (fun _ ↦ False) second'.world.disk := by
  intro first second first' second'
  have hall : ∀ s, s = o.service ∨ s = o'.service → m.store.Accepts s := by
    rintro s (rfl | rfl)
    · exact haccepts
    · exact haccepts'
  obtain ⟨hexchanges, hresult, hspares, hspares₂, halike⟩ :=
    hports.perform_after hall hsettled hne (.inl rfl) (.inr rfl) t t'
  obtain ⟨hexchanges', hresult', hspares', hspares₂', halike'⟩ :=
    hports.perform_after hall hsettled hne.symm (.inr rfl) (.inl rfl) t' t
  refine ⟨hexchanges', hresult', hexchanges, hresult, fun s ↦ ?_, ?_, ?_⟩
  -- What a service has comes from its own operation, or else from the beginning.
  · by_cases hs : s = o.service
    · rw [hs]
      exact halike'.view.part.trans (hspares₂.part _ hne).symm
    by_cases hs' : s = o'.service
    · rw [hs']
      exact (hspares₂'.part _ hne.symm).trans halike.view.part.symm
    · exact ((hspares₂'.part s hs).trans (hspares'.part s hs')).trans
        ((hspares₂.part s hs').trans (hspares.part s hs)).symm
  · show second'.world.phases = second.world.phases
    rw [o.phases_perform hports.keepsPhases, o'.phases_perform hports.keepsPhases]
    exact (o'.phases_perform hports.keepsPhases (w.upon t')).trans
      (o.phases_perform hports.keepsPhases (w.upon t)).symm
  -- The calls of the store are the same in both orders, and each is about its own service.
  · have hcalls := Exchange.service_eq_of_mem_storeCalls
      (hports.sparesOthers hall (.change o) (.inl rfl) (w.upon t) hsettled).2
    have hcalls' := Exchange.service_eq_of_mem_storeCalls
      (hports.sparesOthers hall (.change o') (.inr rfl) (w.upon t') hsettled).2
    have hsecond : second.world.disk = m.store.after
        (first'.exchanges.filterMap Exchange.storeCall?) (m.store.after
          (first.exchanges.filterMap Exchange.storeCall?) w.disk) := by
      rw [hports.disk_perform, hexchanges]
      exact congrArg _ (hports.disk_perform o (w.upon t))
    have hsecond' : second'.world.disk = m.store.after
        (first.exchanges.filterMap Exchange.storeCall?) (m.store.after
          (first'.exchanges.filterMap Exchange.storeCall?) w.disk) := by
      rw [hports.disk_perform, hexchanges']
      exact congrArg _ (hports.disk_perform o' (w.upon t'))
    rw [hsecond, hsecond']
    exact Rollback.Store.Settled.sameBut_swap haccepts haccepts' hne hcalls hcalls' hsettled

/-- **Operations on one service are nothing to another.** They ask for nothing about it, and what
there is of it stays as it is: what the host has of it, its record, its phase and its file. Whatever
is done with it later, and on whatever occasion, it has the results that it would have had before.
So a registration or unregistration of one service and one of another have the same results in
either order, and leave the same. -/
theorem undisturbed (hports : m.Separate part) {a b : String} (hne : a ≠ b)
    (ha : m.store.Accepts a) (hb : m.store.Accepts b) (w : World η)
    (hsettled : m.store.Settled (fun s ↦ s = a ∨ s = b) w.disk) :
    (∀ o : ManagerOperation, o.service = a →
      let done := o.perform m w
      (∀ e ∈ done.1.exchanges, ∀ s ∈ e.service?, s = a) ∧
      m.store.Settled (fun s ↦ s = a ∨ s = b) done.2.disk ∧
      (∀ s, s ≠ a → part done.2.host s = part w.host s) ∧
      (∀ s, s ≠ a → done.2.phases.of? s = w.phases.of? s) ∧
      done.2.disk.read (m.store.path b) = w.disk.read (m.store.path b) ∧
      (∀ t, (m.records.record b (done.2.upon t)).1 = (m.records.record b (w.upon t)).1) ∧
      ∀ later : List (Occasion × ManagerOperation), (∀ x ∈ later, x.2.service = b) →
        (m.performUpon later done.2).1 = (m.performUpon later w).1) ∧
    (∀ o : ControlOperation, let r := o.watch m a w
      o.run m a w = (r.result, r.world) ∧ ∀ call ∈ r.calls, call.service = a) ∧
    ∀ o o' : ServiceOperation, o.service = a → o'.service = b → ∀ t t',
      let first := o.perform m (w.upon t)
      let second := o'.perform m (first.world.upon t')
      let first' := o'.perform m (w.upon t')
      let second' := o.perform m (first'.world.upon t)
      second'.exchanges = first.exchanges ∧ second'.result = first.result ∧
      second.exchanges = first'.exchanges ∧ second.result = first'.result ∧
      (∀ s, part second'.world.host s = part second.world.host s) ∧
      second'.world.phases = second.world.phases ∧
      second.world.disk.SameBut (fun _ ↦ False) second'.world.disk := by
  have haccepts : ∀ s, s = a ∨ s = b → m.store.Accepts s := by
    rintro s (rfl | rfl)
    · exact ha
    · exact hb
  refine ⟨?_, fun o ↦ ?_, ?_⟩
  · rintro o rfl
    obtain ⟨hspares, hown⟩ := hports.sparesOthers haccepts o (.inl rfl) w hsettled
    have halike := hspares.alikeFor (.inr rfl) hne.symm
    refine ⟨hown, hspares.settled, hspares.part, hspares.phase,
      (hspares.file b (.inr rfl) hne.symm).read_eq, fun t ↦ ?_,
      fun later hlater ↦ hports.performUpon hlater halike⟩
    exact ((hports.record b).own _ _ (halike t).view).1.symm
  · obtain ⟨hrun, -, hcalls⟩ := Watches.watch o.watches_own w
    exact ⟨hrun, hcalls⟩
  · rintro o o' rfl rfl t t'
    exact hports.perform_swap hne ha hb hsettled t t'

end ServiceManager.Separate

end

/-! ### A rehearsal -/

namespace Rehearsal

open Rollback (Store)

/-- What is kept of a service in a locker of its own. -/
structure Locker where
  record : Option String := none
  state : Option RunState := none

/-- A host with a locker for each service. -/
abbrev Lockers := String → Locker

/-- A port that opens the locker of a service. -/
def opening {α : Type} (service : String)
    (f : Locker → Occasion → Except Fault α × Locker × Occasion) : HostM Lockers α := fun w ↦
  let opened := f (w.host service) w.occasion
  (opened.1, { w.upon opened.2.2 with host := Function.update w.host service opened.2.1 })

/-- A port that opens a locker acts on the service that the locker belongs to. -/
theorem actsOn_opening {α : Type} {service : String}
    {f : Locker → Occasion → Except Fault α × Locker × Occasion} :
    ActsOn (fun (h : Lockers) s ↦ h s) service (opening service f) where
  disk _ := rfl
  phases _ := rfl
  environment _ := rfl
  catalog _ := rfl
  others _ _ hne := Function.update_of_ne hne _ _
  own w w' h := by
    have hpart : w'.host service = w.host service := h.part
    have hopened : f (w'.host service) w'.occasion = f (w.host service) w.occasion := by
      rw [hpart, h.occasion]
    have hlocker : ∀ v : World Lockers, (opening service f v).2.host service =
        (f (v.host service) v.occasion).2.1 := fun v ↦ Function.update_self ..
    refine ⟨congrArg (fun opened ↦ opened.1) hopened.symm, ?_, h.environment, h.catalog, ?_⟩
    · exact congrArg (fun opened ↦ opened.2.2) hopened
    · show (opening service f w').2.host service = (opening service f w).2.host service
      rw [hlocker, hlocker, hopened]

/-- A manager of the services in the lockers. -/
def lockerManager (rollback : RollbackSettings) : ServiceManager Lockers where
  records :=
    { list := pure []
      record := fun service ↦ opening service fun l t ↦ (.ok l.record, l, t)
      setRecord := fun service record ↦ opening service fun l t ↦
        (.ok (), { l with record := some record }, t) }
  control :=
    { status := fun service ↦ opening service fun l t ↦ (.ok l.state, l, t)
      start := fun service ↦ opening service fun l t ↦
        (.ok (), { l with state := l.state.map fun _ ↦ .running }, t)
      stop := fun service ↦ opening service fun l t ↦
        (.ok (), { l with state := l.state.map fun _ ↦ .stopped }, t) }
  registrar :=
    { install := fun r ↦ opening r.serviceName fun _ t ↦
        (.ok (.new (.fresh t.drawn) t.now r.serviceName r.account),
          { record := some (executableRecord r.executable), state := some .stopped },
          { t with drawn := t.drawn + 1 })
      uninstall := fun service _ ↦ opening service fun _ t ↦ (.ok (), {}, t) }
  store := manager.store
  rollback := rollback
  waiting := {}
  launcher := "resin.exe"
  patience := 1

/-- In a manager of lockers each port acts on its service. -/
theorem separate_lockerManager (rollback : RollbackSettings) :
    (lockerManager rollback).Separate fun h s ↦ h s := by
  constructor
  case named =>
    rintro request w state ⟨⟩
    rfl
  all_goals
    intros
    dsimp only [lockerManager]
    exact actsOn_opening

/-- Empty lockers, on a disk. -/
def lockerWorld (disk : Disk) : World Lockers where
  disk := disk
  environment := (worldWith []).environment
  host _ := {}

theorem accepts_web : manager.store.Accepts "web" := ⟨by decide, by decide⟩

/-- The directory of the states is there, and there is no link in it. -/
theorem settled_diskWith (services : String → Prop) :
    manager.store.Settled services (diskWith []) := by
  refine .there ["state"] ⟨(leadsTo_state rfl), ?_⟩
  rintro l ⟨name, -, rfl⟩ target hlink
  rw [get?_diskWith] at hlink
  cases hlink

/-- Lockers on a disk where the directory of the states is empty. -/
def emptyLockers : World Lockers := lockerWorld (diskWith [])

/-- The registration of a service with a home. -/
def registering (name : String) : ManagerOperation :=
  .change (.install { name := name, home := "C:\\resin" } true)

/-- The registration of a service is nothing to one that is named like its file. -/
theorem web_beside_its_file :
    let done := (registering "web").perform (lockerManager {}) emptyLockers
    let later := [(emptyLockers.occasion, registering "web.srv"),
      (emptyLockers.occasion, .change (.uninstall "web.srv"))]
    "web" ≠ "web.srv" ∧ manager.store.Accepts "web" ∧ manager.store.Accepts "web.srv" ∧
      manager.store.Settled (fun s ↦ s = "web" ∨ s = "web.srv") emptyLockers.disk ∧
      done.2.disk.read (manager.store.path "web.srv") = .error .notFound ∧
      ((lockerManager {}).performUpon later done.2).1 =
        ((lockerManager {}).performUpon later emptyLockers).1 := by
  have haccepts : manager.store.Accepts "web.srv" := ⟨by decide, by decide⟩
  have hsettled : manager.store.Settled (fun s ↦ s = "web" ∨ s = "web.srv") emptyLockers.disk :=
    settled_diskWith _
  obtain ⟨hbeside, -⟩ := (separate_lockerManager {}).undisturbed (by decide) accepts_web haccepts
    emptyLockers hsettled
  obtain ⟨-, -, -, -, hread, -, hlater⟩ := hbeside (registering "web") rfl
  have hmissing : (diskWith []).read (manager.store.path "web.srv") = .error .notFound := by
    have hlocate : (diskWith []).locate (manager.store.path "web.srv") =
        .ok (["state"] ++ [Store.fileName "web.srv"]) :=
      (holds_diskWith []).locate_of_fits haccepts.fits_file
    rw [Disk.read, hlocate]
    dsimp only
    rw [get?_diskWith]
    rfl
  exact ⟨by decide, accepts_web, haccepts, hsettled, hread.trans hmissing, hlater _ (by
    rintro x (- | ⟨-, - | ⟨-, ⟨⟩⟩⟩)
    · rfl
    · rfl)⟩

/-- A disk on which the file of a service is a link to that of another. -/
def linkedDisk : Disk where
  tree := ⟨[(["state"], .directory), (["state", "web.srv"], .file []),
    (["state", "api.srv"], .link "web.srv")]⟩
  workDirectory := []

/-- What is left of it without the file. -/
def bereftDisk : Disk where
  tree := ⟨[(["state"], .directory), (["state", "api.srv"], .link "web.srv")]⟩
  workDirectory := []

/-- A link ties services together: the file of the one is gone with that of the other. -/
theorem uninstall_linked :
    let m := lockerManager { readStates := false }
    let done := (ManagerOperation.change (.uninstall "web")).perform m (lockerWorld linkedDisk)
    linkedDisk.read (m.store.path "api") = .ok [] ∧
      done.2.disk.read (m.store.path "api") = .error .notFound := by
  intro m done
  have hlocate : linkedDisk.locate (manager.store.path "api") = .ok ["state", "web.srv"] :=
    locate_api rfl rfl (by decide)
      (.through ⟨rfl, by decide, by decide, by decide⟩ rfl (fun _ ↦ Entry.noConfusion) (.here ..))
  have hfits : Path.Fits "/state" (Store.fileName "web") := by decide
  have hself : linkedDisk.locateSelf (manager.store.path "web") = .ok ["state", "web.srv"] :=
    (leadsTo_state rfl).locateSelf_of_fits hfits
  have hremove : Disk.remove (manager.store.path "web") linkedDisk = (.ok (), bereftDisk) := by
    rw [Disk.remove_eq, hself, show Path.endsWithSlash (manager.store.path "web") = false from
      Path.endsWithSlash_join hfits.isFileName]
    rfl
  -- Removing the file leaves the link, which leads to nothing then.
  have hdone : done.2.disk = bereftDisk := by
    show (manager.store.remove "web" linkedDisk).2 = _
    rw [Store.remove_eq]
    exact congrArg Prod.snd hremove
  have hlocate' : bereftDisk.locate (manager.store.path "api") = .ok ["state", "web.srv"] :=
    locate_api rfl rfl (by decide) (.missing ⟨rfl, by decide, by decide, by decide⟩ rfl)
  constructor
  · show linkedDisk.read (manager.store.path "api") = _
    rw [Disk.read, hlocate]
    rfl
  · show done.2.disk.read (manager.store.path "api") = _
    rw [hdone, Disk.read, hlocate']
    rfl

/-- A registration saves its state in a directory that was missing. -/
theorem install_saves :
    ∃ content, ((registering "web").perform (lockerManager {})
      (lockerWorld { tree := .empty, workDirectory := [] })).2.disk =
        diskWith [("web.srv", content)] := by
  have hdisk := (separate_lockerManager {}).disk_install
    (w := lockerWorld { tree := .empty, workDirectory := [] })
    (d := { name := "web", home := "C:\\resin" }) rfl rfl rfl
  exact ⟨_, hdisk.trans (congrArg Prod.snd (save_web rfl))⟩

/-- **What ties services together**: a link from the file of the one to that of the other, and the
directory that is made for the one and in which the name of the other is too long. -/
theorem tied_by_directory :
    (∀ rollback, (lockerManager rollback).Separate fun h s ↦ h s) ∧
    (let m := lockerManager { readStates := false }
      let done := (ManagerOperation.change (.uninstall "web")).perform m (lockerWorld linkedDisk)
      linkedDisk.read (m.store.path "api") = .ok [] ∧
        done.2.disk.read (m.store.path "api") = .error .notFound) ∧
    let w := lockerWorld { tree := .empty, workDirectory := [] }
    let done := (registering "web").perform (lockerManager {}) w
    Path.IsFileName (nameOfLength 252) ∧
      manager.store.load (nameOfLength 252) w.disk = .ok none ∧
      manager.store.load (nameOfLength 252) done.2.disk ≠ .ok none := by
  have hplain : '/' ∉ (nameOfLength 252).toList := not_mem_nameOfLength (by decide)
  have hlong : FileTree.maxNameBytes < (Store.fileName (nameOfLength 252)).utf8ByteSize := by
    rw [Store.fileName, String.utf8ByteSize_append, utf8ByteSize_nameOfLength]
    decide
  obtain ⟨content, hdone⟩ := install_saves
  refine ⟨separate_lockerManager, uninstall_linked, ?_,
    load_of_bare hplain (walkable_nameOfLength (by decide)), ?_⟩
  · have hdot : '.' ∉ (nameOfLength 252).toList := not_mem_nameOfLength (by decide)
    refine ⟨fun hnil ↦ ?_, hplain, fun h ↦ hdot (h ▸ by decide), fun h ↦ hdot (h ▸ by decide)⟩
    rw [nameOfLength, String.toList_ofList, List.replicate_succ] at hnil
    cases hnil
  · rw [hdone]
    exact load_of_long hplain hlong _

end Rehearsal

end ServerSetup
