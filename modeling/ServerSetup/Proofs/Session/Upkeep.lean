import ServerSetup.Proofs.Catalog.Operations
import ServerSetup.Proofs.Filter.Calls
import ServerSetup.Proofs.Rehearsal
import ServerSetup.Proofs.ServiceManager.Courses
import ServerSetup.Proofs.ServiceManager.Script
import ServerSetup.Proofs.ServiceManager.Update
import ServerSetup.Proofs.Session.Refresh

/-!
# What sessions do to the catalog

Whatever a session is asked to do, and whatever comes of it, it changes the catalog by operations on
it and in no other way (`TendsCatalog.perform`). Calls of the host may run operations of the same
session before they return, so this is asked of them, too. So the catalog of a session is sound at
any time, and what is known or selected stays so (`sound_after`); and a refresh at any time leaves a
coherent catalog (`coherent_after`).

`Catalog.Evolves` is the relation between a catalog and what operations make of it, and
`World.Tends` says of an operation on worlds that it relates the catalog before it to the catalog
after it in this way. The relation holds of doing nothing and of one thing after the other, and this
is all that the proofs about the parts of a session use: they follow the definitions of these parts,
with one lemma for each. What a catalog keeps under operations is known from the theory of catalogs
and enters once, at the end.

A call that fails half way has done some of its operations, so nothing is said about results. And a
host whose calls run operations of the session itself, as happens when a port is interrupted, meets
what is asked of it because these operations do (`tendsCatalog_interrupted`).
-/

namespace ServerSetup

namespace Catalog

variable {c c' c'' : Catalog}

/-- Operations may make one catalog of another. -/
def Evolves (c c' : Catalog) : Prop :=
  ∃ ops : List CatalogOperation, c' = ops.foldl (fun c o ↦ o.perform c) c

namespace Evolves

theorem refl (c : Catalog) : c.Evolves c := ⟨[], rfl⟩

theorem perform (c : Catalog) (o : CatalogOperation) : c.Evolves (o.perform c) := ⟨[o], rfl⟩

theorem trans (h : c.Evolves c') (h' : c'.Evolves c'') : c.Evolves c'' := by
  obtain ⟨ops, rfl⟩ := h
  obtain ⟨more, rfl⟩ := h'
  exact ⟨ops ++ more, List.foldl_append.symm⟩

/-- A sound catalog stays sound, and keeps what is in it. -/
theorem sound (h : c.Evolves c') (hsound : c.Sound) : c'.Sound ∧ c.Keeps c' := by
  obtain ⟨ops, rfl⟩ := h
  exact hsound.run ops

theorem addInstallations (homes : List HomePath) (c : Catalog) :
    c.Evolves (homes.foldl (fun c home ↦ (c.addInstallation ⟨home, []⟩).2) c) := by
  induction homes generalizing c with
  | nil => exact refl c
  | cons home homes ih => exact (perform c (.addInstallation ⟨home, []⟩)).trans (ih _)

theorem noteServers (disk : Disk) (is : List Installation) (c : Catalog) :
    c.Evolves (Session.noteServers disk c is) := by
  induction is generalizing c with
  | nil => exact refl c
  | cons i is ih => exact (perform c (.noteServers i.home _)).trans (ih _)

end Evolves

end Catalog

namespace World

variable {η ε α β : Type}

/-- Whatever comes of an operation, it changes the catalog by operations on it alone. -/
def Tends (op : World η → α × World η) : Prop :=
  ∀ w : World η, w.catalog.Evolves (op w).2.catalog

namespace Tends

theorem of_catalog {op : World η → α × World η} (h : ∀ w, (op w).2.catalog = w.catalog) :
    Tends op := by
  intro w
  rw [h w]
  exact .refl w.catalog

theorem answer (a : α) : Tends fun w : World η ↦ (a, w) := of_catalog fun _ ↦ rfl

/-- What is done by operations, step after step, is done by operations as a whole. -/
theorem andThen {op : World η → α × World η} {next : α → World η → β × World η} (hop : Tends op)
    (hnext : ∀ a, Tends (next a)) : Tends fun w ↦ next (op w).1 (op w).2 := by
  intro w
  exact (hop w).trans (hnext _ _)

/-- A sequence of steps that cannot fail. -/
theorem seq {op : StateM (World η) α} {f : α → StateM (World η) β} (hop : Tends op)
    (hf : ∀ a, Tends (f a)) : Tends (op >>= f) := andThen hop hf

/-- A sequence of steps that may fail. -/
theorem bind {op : ExceptT ε (StateM (World η)) α} {f : α → ExceptT ε (StateM (World η)) β}
    (hop : Tends op) (hf : ∀ a, Tends (f a)) : Tends (op >>= f) := by
  rw [StateExcept.bind_eq_bindCont]
  refine andThen hop fun r ↦ ?_
  rcases r with e | a
  · exact answer _
  · exact hf a

theorem lift {op : StateM (World η) α} (hop : Tends op) :
    Tends (monadLift op : ExceptT ε (StateM (World η)) α) := by
  intro w
  exact hop w

/-- Reporting the failure of a call does nothing to the catalog. -/
theorem call {wrap : Fault → OperationError} {op : HostM η α} (hop : Tends op) :
    Tends (SetupM.call wrap op) := by
  intro w
  have hcall := hop w
  rw [SetupM.call]
  rcases hrun : op w with ⟨why | a, w₁⟩
  · rwa [hrun] at hcall
  · rwa [hrun] at hcall

/-- Entering a phase and leaving it does nothing to the catalog. -/
theorem inPhase {service : String} {phase : Transition} {op : SetupM η α} (hop : Tends op) :
    Tends (SetupM.inPhase service phase op) := by
  intro w
  rw [SetupM.inPhase]
  rcases w.phases.of? service with - | current
  · exact hop (w.entering service phase)
  · exact .refl w.catalog

end Tends

end World

open World (Tends)

/-! ### Searches and scans -/

section Scans

variable {η : Type}

namespace Search

variable {s : Search η}

/-- Adding homes is done by operations. -/
theorem tends_insertHomes (homes : List HomePath) :
    Tends (insertHomes homes : StateM (World η) Unit) := by
  intro w
  exact .addInstallations homes w.catalog

/-- So is selecting a home. -/
theorem tends_selectHome (home : HomePath) : Tends (selectHome home : StateM (World η) Unit) := by
  intro w
  have hselect := Catalog.Evolves.perform w.catalog (.makeCurrent ⟨home, []⟩)
  rw [CatalogOperation.perform] at hselect
  rw [selectHome, World.onCatalog]
  rcases hcurrent : w.catalog.makeCurrent ⟨home, []⟩ with why | ⟨i, c⟩
  · exact .refl w.catalog
  · rwa [hcurrent] at hselect

/-- So is what the volumes add. -/
theorem tends_searchVolumes (hvolumes : Tends s.host.volumes) : Tends s.searchVolumes := by
  refine .seq hvolumes fun volumes ↦ ?_
  rcases volumes with why | volumes
  · exact .answer ()
  · exact .seq (.of_catalog fun _ ↦ rfl) fun _ ↦ tends_insertHomes _

/-- So is taking the recorded home up. -/
theorem tends_takeRecordedHome (hrecorded : Tends s.host.recordedHome) :
    Tends s.takeRecordedHome := by
  refine .seq hrecorded fun home ↦ ?_
  rcases home with why | - | home
  · exact .answer ()
  · exact .answer ()
  · dsimp only
    split
    · exact .answer ()
    · exact .seq (.of_catalog fun _ ↦ rfl) fun _ ↦ tends_selectHome _

/-- So is what the records of services add. -/
theorem tends_searchRecords (hrecord : ∀ service, Tends (s.host.records.record service))
    (names : List String) : Tends (s.searchRecords names) := by
  induction names with
  | nil => exact .answer ()
  | cons name names ih =>
    refine .seq (hrecord name) fun record ↦ ?_
    rcases record with why | - | record
    · exact ih
    · exact ih
    · refine .seq (.of_catalog fun _ ↦ rfl) fun w ↦ ?_
      dsimp only
      split
      · exact .seq (tends_insertHomes _) fun _ ↦ ih
      · exact ih

/-- So is what is found above the program. -/
theorem tends_searchUpwards : Tends s.searchUpwards := by
  rw [searchUpwards]
  split
  · exact .answer ()
  · refine .seq (.of_catalog fun _ ↦ rfl) fun w ↦ ?_
    dsimp only
    split
    · exact .seq (tends_insertHomes _) fun _ ↦ tends_selectHome _
    · exact .answer ()

/-- A search changes the catalog by operations, if the calls of its host do. -/
theorem tends_run (hvolumes : Tends s.host.volumes) (hrecorded : Tends s.host.recordedHome)
    (hlist : Tends s.host.records.list)
    (hrecord : ∀ service, Tends (s.host.records.record service)) : Tends s.run :=
  .bind (.lift (tends_searchVolumes hvolumes)) fun _ ↦
    .bind (.lift (tends_takeRecordedHome hrecorded)) fun _ ↦
    .bind (.bind (.call hlist) fun names ↦ .lift (tends_searchRecords hrecord names)) fun _ ↦
    .bind (.lift tends_searchUpwards) fun _ ↦ .of_catalog fun _ ↦ rfl

end Search

/-- Reading the records of services changes it by nothing else than these calls. -/
theorem tends_readRecords {α : Type} {records : ServiceRecords η}
    (hrecord : ∀ service, Tends (records.record service)) (f : Disk → String → String → Option α)
    (names : List String) : Tends (readRecords records f names) := by
  induction names with
  | nil => exact .answer []
  | cons name names ih =>
    refine .seq (hrecord name) fun record ↦ ?_
    have hrest (found : Option α) :
        Tends (readRecords records f names >>= fun rest ↦ (pure (found.toList ++ rest) :
          StateM (World η) (List α))) := .seq ih fun _ ↦ .answer _
    rcases record with why | - | record
    · exact hrest none
    · exact hrest none
    · exact .seq (.of_catalog fun _ ↦ rfl) fun w ↦ hrest (f w.disk name record)

end Scans

/-! ### Services -/

namespace ServiceManager

variable {η : Type} {m : ServiceManager η} {service : String}

/-- The calls of the installer, of the records and of the control of services change the catalog by
operations on it alone. -/
structure TendsCatalog (m : ServiceManager η) : Prop where
  answer : ∀ query, Tends (m.answer query)
  status : ∀ service, Tends (m.control.status service)
  start : ∀ service, Tends (m.control.start service)
  stop : ∀ service, Tends (m.control.stop service)

namespace TendsCatalog

theorem pause (m : ServiceManager η) : Tends m.pause := by
  refine .of_catalog fun w ↦ ?_
  obtain ⟨time, hpause, -⟩ := m.pause_eq w
  rw [hpause]

variable (h : m.TendsCatalog)

include h

/-- A script does to the catalog what the answers to its queries do. -/
theorem script (script : ServiceScript) : Tends (script.run m) := by
  intro w
  induction script generalizing w with
  | done result => exact .refl w.catalog
  | ask query next ih => exact (h.answer query w).trans (ih _ _)

/-- Registering and unregistering a service changes the catalog by operations. -/
theorem operation (o : ServiceOperation) : Tends (o.run m) := by
  rw [o.run_eq_inPhase]
  exact .inPhase (h.script (o.script m))

/-- So does asking for the state of a service. -/
theorem stateOf : Tends (m.stateOf service) := by
  refine .bind (.call (h.status service)) fun state ↦ ?_
  rcases state with - | state
  · exact .answer _
  · exact .answer _

/-- So does polling. -/
theorem poll (target : RunState) (deadline : Option Nat) (queries : Nat) :
    Tends (m.poll service target deadline queries) := by
  induction queries with
  | zero => exact .answer _
  | succ queries ih =>
    refine .bind h.stateOf fun state ↦ ?_
    split
    · exact .answer _
    · refine .bind (.of_catalog fun _ ↦ rfl) fun w ↦ ?_
      have hrest : Tends (m.pause >>= fun _ ↦ m.poll service target deadline queries) :=
        .bind (pause m) fun _ ↦ ih
      split
      · exact .bind (.answer _) fun _ ↦ hrest
      · exact hrest

theorem awaitState (target : RunState) : Tends (m.awaitState service target) := by
  refine .bind (.of_catalog fun w ↦ ?_) fun deadline ↦ h.poll target deadline m.patience
  rw [deadline_eq]

theorem requestStart_awaitState (target : RunState) :
    Tends (m.requestStart service >>= fun _ ↦ m.awaitState service target) :=
  .bind (.call (h.start service)) fun _ ↦ h.awaitState target

theorem requestStop_awaitState (target : RunState) :
    Tends (m.requestStop service >>= fun _ ↦ m.awaitState service target) :=
  .bind (.call (h.stop service)) fun _ ↦ h.awaitState target

/-- A turn changes the catalog by operations, whatever the control of services answers. -/
theorem turn (t : Turn) : Tends (t.run m service) := by
  cases t with
  | start =>
    refine .bind h.stateOf fun state ↦ ?_
    cases state with
    | running => exact .answer _
    | startPending => exact h.awaitState .running
    | stopPending => exact .bind (h.awaitState .stopped) fun _ ↦ h.requestStart_awaitState .running
    | _ => exact h.requestStart_awaitState .running
  | stop =>
    refine .bind h.stateOf fun state ↦ ?_
    cases state with
    | stopped => exact .answer _
    | stopPending => exact h.awaitState .stopped
    | startPending => exact .bind (h.awaitState .running) fun _ ↦ h.requestStop_awaitState .stopped
    | _ => exact h.requestStop_awaitState .stopped

/-- So does starting, stopping or restarting a service. -/
theorem control (o : ControlOperation) : Tends (o.run m service) := by
  have hcheck : Tends (checkCancelled service : SetupM η Unit) := by
    refine .bind (.of_catalog fun _ ↦ rfl) fun w ↦ ?_
    split
    · exact .answer _
    · exact .answer _
  cases o with
  | turn t => exact h.turn t
  | restart => exact .bind (h.turn .stop) fun _ ↦ h.turn .start
  | restartUnlessCancelled =>
    exact .bind hcheck fun _ ↦ .bind (h.turn .stop) fun _ ↦ .bind hcheck fun _ ↦ h.turn .start

theorem standing : Tends (m.standing service) := by
  refine .bind (.of_catalog fun _ ↦ rfl) fun w ↦ ?_
  split
  · exact .answer _
  · refine .bind (.call (h.status service)) fun state ↦ ?_
    rcases state with - | state
    · exact .answer _
    · exact .answer _

end TendsCatalog

end ServiceManager

/-! ### The web filter -/

namespace FilterStore

variable {η : Type} {store : FilterStore η}

/-- The calls of a store of filters change the catalog by operations on it alone. -/
structure TendsCatalog (store : FilterStore η) : Prop where
  filters : Tends store.filters
  make : ∀ change, Tends (store.make change)
  loadOrder : Tends store.loadOrder
  scriptsDirectory : Tends store.scriptsDirectory

namespace TendsCatalog

variable (h : store.TendsCatalog)

include h

theorem makeAll (changes : List FilterChange) : Tends (store.makeAll changes) := by
  induction changes with
  | nil => exact .answer _
  | cons change changes ih => exact .bind (h.make change) fun _ ↦ ih

theorem carryOut (plan : FilterPlan) : Tends (store.carryOut plan) :=
  .bind h.filters fun _ ↦ .bind (h.makeAll _) fun _ ↦ .bind h.loadOrder fun _ ↦
    .bind (h.makeAll _) fun _ ↦ .answer _

theorem perform {f : FilterSetup η} (hstore : f.store = store) (call : FilterCall) :
    Tends (f.perform call) := by
  subst hstore
  intro w
  have hplan := h.carryOut (f.plan call) w
  rw [f.perform_eq]
  rcases hrun : f.store.carryOut (f.plan call) w with ⟨fault | changed, w'⟩
  · rwa [hrun] at hplan
  · rwa [hrun] at hplan

end TendsCatalog

end FilterStore

/-! ### Sessions -/

/-- What a session may be asked to do. -/
inductive SessionOperation
  | search
  | rescan
  | refresh
  | installationAt (home : String)
  | scriptsDirectory
  | service (o : ServiceOperation)
  | control (service : String) (o : ControlOperation)
  | standing (service : String)
  | filter (call : FilterCall)

namespace Session

variable {η : Type} (s : Session η)

/-- The world after an operation, whatever comes of it. -/
def perform : SessionOperation → World η → World η
  | .search, w => (s.search w).2
  | .rescan, w => (s.rescan w).2
  | .refresh, w => (s.refresh w).2
  | .installationAt home, w => (installationAt home w).2
  | .scriptsDirectory, w => (s.scriptsDirectory w).2
  | .service o, w => (o.run s.services w).2
  | .control service o, w => (o.run s.services service w).2
  | .standing service, w => (s.services.standing service w).2
  | .filter call, w => (s.filter.perform call w).2

/-- The world after some operations, one after the other. -/
def after (ops : List SessionOperation) (w : World η) : World η :=
  ops.foldl (fun w o ↦ s.perform o w) w

/-- The calls that a session makes change the catalog by operations on it alone. -/
structure TendsCatalog : Prop where
  volumes : Tends s.host.volumes
  recordedHome : Tends s.host.recordedHome
  list : Tends s.host.records.list
  record : ∀ service, Tends (s.host.records.record service)
  services : s.services.TendsCatalog
  filterStore : s.host.filterStore.TendsCatalog

variable {s}

namespace TendsCatalog

variable (h : s.TendsCatalog)

include h

/-- A search of a session changes the catalog by operations. -/
theorem search : Tends s.search :=
  Search.tends_run h.volumes h.recordedHome h.list h.record

/-- So does a scan. -/
theorem rescan : Tends s.rescan := by
  refine .bind (fun w ↦ .perform w.catalog .forgetServices) fun _ ↦ .bind ?_ fun found ↦
    .bind (fun w ↦ .perform w.catalog (.setServices found)) fun _ ↦ .of_catalog fun _ ↦ rfl
  exact .bind (.call h.list) fun names ↦ tends_readRecords h.record _ names

/-- So does a refresh. -/
theorem refresh : Tends s.refresh :=
  .bind h.search fun _ ↦ .bind h.rescan fun _ ↦ .bind (.of_catalog fun _ ↦ rfl) fun w ↦
    .bind (fun w' ↦ .noteServers w.disk w'.catalog.installations w'.catalog) fun _ ↦
      .of_catalog fun _ ↦ rfl

/-- **Whatever a session does, and whatever comes of it, it changes the catalog by operations on it
alone.** -/
theorem perform (o : SessionOperation) (w : World η) :
    w.catalog.Evolves (s.perform o w).catalog := by
  cases o with
  | search => exact h.search w
  | rescan => exact h.rescan w
  | refresh => exact h.refresh w
  | installationAt home => exact .perform w.catalog (.ensureInstallation _)
  | scriptsDirectory => exact Tends.call h.filterStore.scriptsDirectory w
  | service o => exact h.services.operation o w
  | control service o => exact h.services.control o w
  | standing service => exact h.services.standing w
  | filter call => exact h.filterStore.perform rfl call w

/-- **So do any operations of a session,** one after the other. -/
theorem after (ops : List SessionOperation) (w : World η) :
    w.catalog.Evolves (s.after ops w).catalog := by
  induction ops generalizing w with
  | nil => exact .refl w.catalog
  | cons o ops ih => exact (h.perform o w).trans (ih _)

end TendsCatalog

/-- **The catalog of a session is sound at any time.** A session that starts with nothing in the
catalog has no installation and no service there twice, and its selection is a place in the list,
after any operations and whatever came of them. What it does later keeps each home in its place and
the selection. -/
theorem sound_after (h : s.TendsCatalog) {w : World η} (hempty : w.catalog = .empty)
    (ops more : List SessionOperation) :
    (s.after ops w).catalog.Sound ∧
      (s.after ops w).catalog.Keeps (s.after (ops ++ more) w).catalog := by
  have hsound : (s.after ops w).catalog.Sound := by
    have hevolves := h.after ops w
    rw [hempty] at hevolves
    exact (hevolves.sound Catalog.sound_empty).1
  have hmore : s.after (ops ++ more) w = s.after more (s.after ops w) := List.foldl_append
  rw [hmore]
  exact ⟨hsound, ((h.after more _).sound hsound).2⟩

end Session

/-! ### Rehearsed sessions -/

namespace Rehearsal

variable {ν α : Type} {interrupt : StateM (World (Machine ν)) Unit}

/-- What acts on the host alone leaves the catalog alone. -/
theorem ActsOnHost.tends {op : HostM (Machine ν) α} (h : ActsOnHost op) : Tends op := by
  refine .of_catalog fun w ↦ ?_
  obtain ⟨host, hw⟩ := h w
  rw [hw]

/-- A machine is read, unless it is to fail at a point. -/
theorem actsOnHost_read (name : String) (f : Machine ν → α) :
    ActsOnHost (do point name; return f (← machine)) :=
  (ActsOnHost.point name).bind fun _ ↦ ActsOnHost.machine.bind fun _ ↦ .pure _

/-- A change is noted and made, unless the machine is to fail at a point. -/
theorem actsOnHost_noted (action : Action) (name : String) (f : Machine ν → Machine ν) :
    ActsOnHost (do note action; point name; change f) :=
  (ActsOnHost.note action).bind fun _ ↦ (ActsOnHost.point name).bind fun _ ↦ .change f

/-- A rehearsed registration does to the catalog what an interruption does. -/
theorem tends_install (hinterrupt : Tends interrupt) (r : RegistrationRequest) :
    Tends (install interrupt r) := by
  refine .bind (ActsOnHost.note _).tends fun _ ↦ .bind (.lift hinterrupt) fun _ ↦
    .bind (ActsOnHost.point _).tends fun _ ↦ ActsOnHost.tends (ActsOnHost.machine.bind fun h ↦ ?_)
  dsimp only
  split
  · exact (ActsOnHost.change _).bind fun _ ↦ (ActsOnHost.change _).bind fun _ ↦
      ActsOnHost.machine.bind fun _ ↦ .pure _
  · exact (ActsOnHost.change _).bind fun _ ↦ ActsOnHost.machine.bind fun _ ↦ .pure _

theorem tends_uninstall (hinterrupt : Tends interrupt) (service : String)
    (state : Rollback.State) : Tends (uninstall interrupt service state) :=
  .bind (ActsOnHost.note _).tends fun _ ↦ .bind (.lift hinterrupt) fun _ ↦
    .bind (ActsOnHost.point _).tends fun _ ↦ (ActsOnHost.change _).tends

/-- A rehearsed query acts on the host alone. -/
theorem actsOnHost_status (service : String) :
    ActsOnHost (status service : HostM (Machine ν) (Option RunState)) := by
  have hnext : ActsOnHost (nextAnswer service : HostM (Machine ν) (Option Answer)) := by
    refine ActsOnHost.machine.bind fun h ↦ ?_
    split
    · exact (ActsOnHost.change _).bind fun _ ↦ .pure _
    · exact .pure _
  have hobserve : ActsOnHost (observe service : HostM (Machine ν) (Option RunState)) := by
    refine ActsOnHost.machine.bind fun h ↦ ?_
    split
    · exact .pure _
    · dsimp only
      split
      · exact (ActsOnHost.change _).bind fun _ ↦ .pure _
      · exact .pure _
  refine (ActsOnHost.point _).bind fun _ ↦ hnext.bind fun answer ↦ ?_
  split
  · exact .pure _
  · exact .pure _
  · exact fun w ↦ ⟨w.host, rfl⟩
  · exact hobserve

/-- A rehearsed request leaves the catalog alone. -/
theorem tends_request (which : Request) (service : String) (state : RunState) :
    Tends (request which service state : HostM (Machine ν) Unit) := by
  have hcancel : Tends (do
      if (← machine).cancelOn = some which then modify fun w ↦ { w with cancelled := true } :
      HostM (Machine ν) Unit) := by
    refine .bind ActsOnHost.machine.tends fun h ↦ ?_
    split
    · exact .of_catalog fun _ ↦ rfl
    · exact .answer _
  refine .bind ActsOnHost.machine.tends fun h ↦ ?_
  split
  · exact .bind (ActsOnHost.change _).tends fun _ ↦ hcancel
  · exact hcancel

/-- A rehearsed store of filters leaves it alone. -/
theorem tendsCatalog_filterStore : (filterStore (ν := ν)).TendsCatalog where
  filters := (actsOnHost_read _ _).tends
  make change := by
    cases change with
    | put entry => exact (actsOnHost_noted _ _ _).tends
    | remove name => exact (actsOnHost_noted _ _ _).tends
    | putLoadOrder order => exact (actsOnHost_noted _ _ _).tends
    | commit => exact (actsOnHost_noted _ _ _).tends
  loadOrder := (actsOnHost_read _ _).tends
  scriptsDirectory := (actsOnHost_read _ _).tends

/-- A session on a machine, if nothing else is done to the catalog in an interruption. -/
theorem tendsCatalog_onHost (hinterrupt : Tends interrupt) (s : Session (Machine ν))
    (ownLocation : Option String) : (s.onHost (host ownLocation interrupt)).TendsCatalog where
  volumes := (actsOnHost_read _ _).tends
  recordedHome := (actsOnHost_read _ _).tends
  list := (actsOnHost_read _ _).tends
  record service := (ActsOnHost.record service).tends
  services := {
    answer query := by
      cases query with
      | register request => exact tends_install hinterrupt request
      | unregister service state => exact tends_uninstall hinterrupt service state
      | readRecord service => exact (ActsOnHost.record service).tends
      | writeRecord service record => exact (ActsOnHost.setRecord service record).tends
      | _ => exact .of_catalog fun _ ↦ rfl
    status service := (actsOnHost_status service).tends
    start service := .bind (ActsOnHost.note _).tends fun _ ↦
      .bind (ActsOnHost.point _).tends fun _ ↦ tends_request .start service .startPending
    stop service := .bind (ActsOnHost.note _).tends fun _ ↦
      .bind (ActsOnHost.point _).tends fun _ ↦ tends_request .stop service .stopPending }
  filterStore := tendsCatalog_filterStore

/-- The interruption may be operations of the session itself. -/
theorem tendsCatalog_interrupted (s : Session (Machine ν)) (ownLocation : Option String)
    (ops : List SessionOperation) :
    (s.onHost (host ownLocation fun w ↦
      ((), (s.onHost (host ownLocation (pure ()))).after ops w))).TendsCatalog :=
  tendsCatalog_onHost (fun w ↦ (tendsCatalog_onHost (.answer ()) s ownLocation).after ops w) s
    ownLocation

end Rehearsal

/-! ### Refreshing at any time -/

namespace Session

section Coherent

variable {η : Type} {s : Session η} {a : Search.Outlook} {calm : η → Prop}

/-- **A refresh leaves a coherent catalog at any time of a session**, whatever was done before it
and whatever came of that. Let the session have started with nothing in the catalog, and let the
host answer in the same way throughout the refresh. Then it succeeds exactly if the services can be
listed. Of what it leaves, the services are those that the listed names stand for, each service
belongs to exactly one installation, and each installation has the servers of its services. A scan
on any host that cannot list the services forgets them and leaves the rest of the catalog alone. -/
theorem coherent_after (h : s.TendsCatalog) {w : World η} (hempty : w.catalog = .empty)
    (ops : List SessionOperation) (hhost : a.Steady s.host calm)
    (hcalm : calm (s.after ops w).host) :
    ((∃ found w', s.refresh (s.after ops w) = (.ok found, w')) ↔
        ∃ names, a.services = .ok names) ∧
      (∀ found w', s.refresh (s.after ops w) = (.ok found, w') →
        found = w'.catalog.installations ∧
          ∃ names, a.services = .ok names ∧ s.Refreshed a names (s.after ops w) w') ∧
      ∀ (s' : Session η) (w₁ : World η) why h,
        s'.host.records.list { w₁ with catalog := w₁.catalog.forgetServices } =
            (.error why, { w₁ with host := h, catalog := w₁.catalog.forgetServices }) →
          s'.rescan w₁ = (.error (.failed (.accessDenied .serviceList why)),
            { w₁ with host := h, catalog := { w₁.catalog with services := [] } }) :=
  -- What a session has done to the catalog has not made two installations of one home.
  refresh_coherent hhost hcalm (sound_after h hempty ops []).1.keys

end Coherent

/-- A session on a machine in memory. -/
def sample : Session (Rehearsal.Machine Unit) where
  settings := {}
  host := Rehearsal.host none (pure ())
  homeTest := HomeTest.byMarkers ["lib"]
  services := Rehearsal.manager

/-- A service of this product, as the session changes it. -/
def sampleService : ServiceProfile where
  name := "web"
  home := "C:\\resin"
  executable := some "C:\\resin.exe"
  server := .fixed "a"

/-- The record of the service before the change, and another that does not start the launcher. -/
def sampleRecords : List (String × Option String) :=
  [("other", some "C:\\other.exe -service -resin-home C:\\resin -server b"),
    ("web", some "C:\\resin.exe -service -resin-home C:\\resin -server gone")]

/-- A refresh, then another server for the service: after the next refresh the service is known
once, and its installation has the new server alone. -/
theorem coherent_after_change :
    let ops := [.refresh, .service (.install sampleService false)]
    ∃ found w', sample.refresh (sample.after ops (Rehearsal.worldWith sampleRecords)) =
        (.ok found, w') ∧
      w'.catalog.names = ["web"] ∧ ∃ i ∈ found, i.servers = ["a"] := by
  intro ops
  let w := Rehearsal.worldWith sampleRecords
  have htends : sample.TendsCatalog := Rehearsal.tendsCatalog_onHost (.answer ()) sample none
  -- what the first refresh and the change leave on the machine
  have hsteady := Search.steady_rehearsed none (pure ()) (m := w.host) rfl
  obtain ⟨_, rfl, hfirst⟩ := refresh_eq_ok_iff (s := sample) hsteady (w := w) rfl List.nodup_nil
  have hrefresh := (hfirst _ _).2 ⟨_, rfl, rfl, rfl⟩
  let updated := "C:\\resin.exe -service -name web -resin-home C:\\resin -server a"
  have hupdated : sampleService.updatedRecord
      "C:\\resin.exe -service -resin-home C:\\resin -server gone" = some updated := by
    decide +kernel
  let m : Rehearsal.Machine Unit := { w.host with
    actions := [.setRecord "web" updated]
    services := [("other", some "C:\\other.exe -service -resin-home C:\\resin -server b"),
      ("web", some updated)] }
  obtain ⟨w₂, hchange, hhost, hdisk⟩ : ∃ w₂, sample.services.install sampleService false
      (sample.refresh w).2 = (.ok (), w₂) ∧ w₂.host = m ∧ w₂.disk = w.disk := by
    rw [hrefresh]
    exact ⟨_, ServiceManager.install_eq_ok_iff.2
      ⟨rfl, _, _, updated, _, rfl, hupdated, rfl, rfl⟩, rfl, rfl⟩
  have hafter : sample.after ops w = w₂ := congrArg Prod.snd hchange
  -- what the second refresh makes of it
  have hsteady := Search.steady_rehearsed none (pure ()) (m := m) rfl
  obtain ⟨hsucceeds, hcoherent, -⟩ :=
    coherent_after htends (w := w) rfl ops hsteady (hafter ▸ hhost)
  obtain ⟨found, w', hrun⟩ := hsucceeds.2 ⟨_, rfl⟩
  obtain ⟨rfl, names, hnames, hcoherent⟩ := hcoherent found w' hrun
  rw [hafter] at hcoherent
  have hlisted (name : String) : name ∈ names ↔ name = "other" ∨ name = "web" := by
    cases hnames
    simp [m, (List.mergeSort_perm _ _).mem_iff]
  have hother : sample.described? (Search.rehearsed m) w.disk "other" = none := by
    decide +kernel
  have hweb : sample.described? (Search.rehearsed m) w.disk "web" = some sampleService := by
    decide +kernel
  have hservices : w'.catalog.services = [sampleService] := by
    refine List.perm_singleton.1 ((List.perm_ext_iff_of_nodup (hcoherent.once.of_map _)
      (List.nodup_singleton _)).2 fun d ↦ ?_)
    rw [hcoherent.services, List.mem_singleton, hdisk]
    simp only [← described?_eq_some_iff, hlisted, exists_eq_or_imp, exists_eq_left, hother, hweb,
      reduceCtorEq, false_or, Option.some.injEq, eq_comm]
  obtain ⟨i, ⟨hi, hsame⟩, -⟩ :=
    hcoherent.belongs sampleService (hservices ▸ List.mem_singleton_self sampleService)
  refine ⟨_, w', hrun, by rw [Catalog.names, hservices]; rfl, i, hi, ?_⟩
  have hown : w'.catalog.servicesOf w₂.disk i.home = [sampleService] := by
    rw [Catalog.servicesOf, hservices]
    exact List.filter_cons_of_pos hsame
  rw [hcoherent.servers i hi, hown]
  rfl

end Session

end ServerSetup
