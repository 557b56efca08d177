import ServerSetup.Proofs.Rollback.Confinement
import ServerSetup.Proofs.ServiceManager.History

/-!
# The files that a manager keeps to

Of the disk, a manager uses the store of states alone. So registering and unregistering a service
keeps to what is directly in the directory of the store, as the calls of the store do, if the ports
leave the disk alone and the name of the service is no path (`keepsTo_directory`). A name that is a
path may lead out of the directory (`remove_outside`).

`World.KeepsTo` takes over from disks to worlds what it means to keep to some locations: nothing
changes elsewhere, and two worlds that differ in their disks elsewhere are treated alike. An
operation is a script of queries, so the proof goes along its script. A query of a port is no matter
of the disk (`SparesDisk`), a query of the store keeps to the locations, and what a query leaves is
where the rest of the script starts (`keepsTo_ask`).

The store may make its directory on the way. The locations are therefore those of the directory once
it is made, and this does not change while the operation goes on.
-/

namespace ServerSetup

/-- A world with another disk. -/
def World.onDisk {η : Type} (w : World η) (disk : Disk) : World η := { w with disk := disk }

/-- An operation has nothing to do with the disk. -/
def World.SparesDisk {η α : Type} (op : World η → α × World η) : Prop :=
  ∀ w disk, op (w.onDisk disk) = ((op w).1, (op w).2.onDisk disk)

/-- An operation keeps to some locations of the disk: it spares what is elsewhere, and but for the
disk it does the same whatever the files elsewhere are. -/
structure World.KeepsTo {η α : Type} (within : Location → Prop) (op : World η → α × World η)
    (w : World η) : Prop where
  spares : w.disk.Spares within (op w).2.disk
  blind : ∀ disk, w.disk.LooksLike within disk → ∃ disk',
    op (w.onDisk disk) = ((op w).1, (op w).2.onDisk disk') ∧ (op w).2.disk.LooksLike within disk'

namespace World.KeepsTo

variable {η α β : Type} {within : Location → Prop} {op : World η → α × World η} {w : World η}

/-- An operation that has nothing to do with the disk keeps to any locations. -/
theorem of_onDisk (h : ∀ disk, op (w.onDisk disk) = ((op w).1, (op w).2.onDisk disk)) :
    KeepsTo within op w := by
  have hdisk : (op w).2.disk = w.disk := congrArg (fun r ↦ r.2.disk) (h w.disk)
  refine ⟨?_, fun disk hlike ↦ ⟨disk, h disk, ?_⟩⟩
  · rw [hdisk]
    exact .refl within w.disk
  · rwa [hdisk]

/-- An operation on the disk alone. -/
theorem of_disk {change : Disk → α × Disk} (h : Disk.KeepsTo within change w.disk) :
    KeepsTo within (fun w ↦ ((change w.disk).1, w.onDisk (change w.disk).2)) w where
  spares := h.spares
  blind disk hlike := by
    obtain ⟨hanswer, hlike'⟩ := h.blind disk hlike
    refine ⟨(change disk).2, ?_, hlike'⟩
    show ((change disk).1, _) = ((change w.disk).1, _)
    rw [hanswer]
    rfl

/-- What follows on an answer keeps to the locations, too. -/
theorem andThen (hop : KeepsTo within op w) (next : α → World η → β × World η)
    (hnext : KeepsTo within (next (op w).1) (op w).2) :
    KeepsTo within (fun w ↦ next (op w).1 (op w).2) w where
  spares := hop.spares.trans hnext.spares
  blind disk hlike := by
    obtain ⟨disk₁, hrun, hlike₁⟩ := hop.blind disk hlike
    rw [hrun]
    exact hnext.blind disk₁ hlike₁

end World.KeepsTo

namespace ServiceManager

variable {η : Type} {m : ServiceManager η} {d : ServiceProfile} {isNew : Bool} {service : String}
  {state : Rollback.State} {within : Location → Prop} {w : World η}

open World (KeepsTo)

/-- The ports neither read nor change the disk. -/
def SparesDisk (m : ServiceManager η) : Prop :=
  ∀ query, query.isPort = true → World.SparesDisk (m.answer query)

/-- The installer answers a registration with a state of the service. -/
def NamesStates (m : ServiceManager η) : Prop :=
  ∀ request w state, (m.registrar.install request w).1 = .ok state →
    state.serviceName = request.serviceName

theorem SparesDisk.disk_answer (hports : m.SparesDisk) (query : ServiceQuery)
    (hquery : query.isPort = true) : (m.answer query w).2.disk = w.disk :=
  congrArg (fun r ↦ r.2.disk) (hports query hquery w w.disk)

theorem SparesDisk.keepsTo_answer (hports : m.SparesDisk) {query : ServiceQuery}
    (hquery : query.isPort = true) : KeepsTo within (m.answer query) w :=
  .of_onDisk (hports query hquery w)

theorem keepsTo_done {result : Except OperationError Unit} :
    KeepsTo within (ServiceScript.run m (.done result)) w :=
  .of_onDisk fun _ ↦ rfl

/-- A script keeps to what its first query and the rest of it keep to. -/
theorem keepsTo_ask {query : ServiceQuery} {next : query.Answer → ServiceScript}
    (hquery : KeepsTo within (m.answer query) w)
    (hnext : KeepsTo within ((next (m.answer query w).1).run m) (m.answer query w).2) :
    KeepsTo within (ServiceScript.run m (.ask query next)) w :=
  hquery.andThen (fun answer ↦ (next answer).run m) hnext

/-- Writing a record leaves the disk alone. -/
theorem SparesDisk.keepsTo_recordScript (hports : m.SparesDisk) :
    KeepsTo within ((recordScript d).run m) w := by
  refine keepsTo_ask (hports.keepsTo_answer rfl) ?_
  rcases m.answer (.readRecord d.name) w with ⟨why | - | current, w₁⟩
  · exact keepsTo_done
  · exact keepsTo_done
  · dsimp only
    split
    · exact keepsTo_done
    · refine keepsTo_ask (hports.keepsTo_answer rfl) ?_
      split <;> exact keepsTo_done

section

variable {disk : Disk}
  (hlinks : m.store.LinkFree service (Disk.ensureDirectory m.store.directory disk).2)
  (hplain : '/' ∉ service.toList)

include hlinks hplain

/-- Unregistering a service with a state keeps to the directory of the store. -/
theorem SparesDisk.keepsTo_unregisterScript (hports : m.SparesDisk) (hdisk : w.disk = disk) :
    KeepsTo (m.store.Within disk) ((unregisterScript service state).run m) w := by
  refine keepsTo_ask (hports.keepsTo_answer rfl) ?_
  have hdisk₁ := (hports.disk_answer (.unregister service state) rfl).trans hdisk
  rcases hanswer : m.answer (.unregister service state) w with ⟨why | ⟨⟩, w₁⟩
  · exact keepsTo_done
  · rw [hanswer] at hdisk₁
    refine keepsTo_ask (.of_disk ?_) keepsTo_done
    obtain rfl : w₁.disk = disk := hdisk₁
    exact (hlinks.confined.of_grows (Disk.Grows.ensureDirectory _ _)).keepsTo_remove hplain

/-- Unregistering it without one does so, too. -/
theorem SparesDisk.keepsTo_standInScript (hports : m.SparesDisk) (hdisk : w.disk = disk) :
    KeepsTo (m.store.Within disk) ((m.standInScript service).run m) w := by
  rw [standInScript]
  split
  · exact keepsTo_ask (.of_onDisk fun _ ↦ rfl) (hports.keepsTo_unregisterScript hlinks hplain hdisk)
  · exact keepsTo_done

/-- So does unregistering it as a whole. -/
theorem SparesDisk.keepsTo_uninstallScript (hports : m.SparesDisk) (hdisk : w.disk = disk) :
    KeepsTo (m.store.Within disk) ((m.uninstallScript service).run m) w := by
  rw [uninstallScript]
  split
  · refine keepsTo_ask ?_ ?_
    · subst hdisk
      have hnow := hlinks.confined.of_grows (Disk.Grows.ensureDirectory m.store.directory w.disk)
      refine ⟨.refl _ w.disk, fun disk hlike ↦ ⟨disk, ?_, hlike⟩⟩
      exact congrArg (·, w.onDisk disk) (hnow.read_eq hplain hlike)
    · dsimp only [answer]
      rw [loadedScript.eq_def]
      split
      · exact keepsTo_done
      · exact hports.keepsTo_standInScript hlinks hplain hdisk
      · exact hports.keepsTo_unregisterScript hlinks hplain hdisk
  · exact hports.keepsTo_standInScript hlinks hplain hdisk

/-- So does registering it, if the installer answers with a state of the service. -/
theorem SparesDisk.keepsTo_installScript (hports : m.SparesDisk) (hnamed : m.NamesStates)
    (hd : d.name = service) (hdisk : w.disk = disk) :
    KeepsTo (m.store.Within disk) ((m.installScript d isNew).run m) w := by
  rw [installScript]
  split
  · refine keepsTo_ask (hports.keepsTo_answer rfl) ?_
    have hdisk₁ :=
      (hports.disk_answer (.register (d.registrationRequest m.launcher)) rfl).trans hdisk
    rcases hanswer : m.answer (.register (d.registrationRequest m.launcher)) w with
      ⟨why | state, w₁⟩
    · exact keepsTo_done
    · rw [hanswer] at hdisk₁
      have hstate : state.serviceName = service :=
        (hnamed _ w state (congrArg Prod.fst hanswer)).trans hd
      dsimp only
      split
      · refine keepsTo_ask (.of_disk ?_) hports.keepsTo_recordScript
        subst hstate
        obtain rfl : w₁.disk = disk := hdisk₁
        exact hlinks.confined.keepsTo_save hplain
      · exact hports.keepsTo_recordScript
  · exact hports.keepsTo_recordScript

end

/-- The phases are on no disk. -/
theorem keepsTo_inPhase {phase : Transition} {op : SetupM η Unit}
    (hop : KeepsTo within op (w.entering service phase)) :
    KeepsTo within (SetupM.inPhase service phase op) w := by
  rcases hphase : w.phases.of? service with - | current
  · have hrun (disk : Disk) : SetupM.inPhase service phase op (w.onDisk disk) =
        ((op ((w.entering service phase).onDisk disk)).1,
          (op ((w.entering service phase).onDisk disk)).2.leaving service) := by
      have hphase' : (w.onDisk disk).phases.of? service = none := hphase
      rw [SetupM.inPhase, hphase']
      rfl
    have hnow : SetupM.inPhase service phase op w = _ := hrun w.disk
    constructor
    · rw [hnow]
      exact hop.spares
    · intro disk hlike
      obtain ⟨disk', hsame, hlike'⟩ := hop.blind disk hlike
      rw [hnow, hrun disk, hsame]
      exact ⟨disk', rfl, hlike'⟩
  · have hrun (disk : Disk) : SetupM.inPhase service phase op (w.onDisk disk) =
        (.error (.failed (.busy service current)), w.onDisk disk) := by
      have hphase' : (w.onDisk disk).phases.of? service = some current := hphase
      rw [SetupM.inPhase, hphase']
    have hnow : SetupM.inPhase service phase op w = _ := hrun w.disk
    exact .of_onDisk fun disk ↦ by rw [hnow, hrun disk]; rfl

/-- **The store and the manager keep to the directory of the store.** -/
theorem keepsTo_directory (hports : m.SparesDisk) (hnamed : m.NamesStates)
    (hplain : '/' ∉ service.toList)
    (hlinks : m.store.LinkFree service (Disk.ensureDirectory m.store.directory w.disk).2) :
    (∀ call : Rollback.StoreCall, call.service = service →
      Disk.KeepsTo (m.store.Within w.disk) (m.store.perform call) w.disk) ∧
    (∀ o : ServiceOperation, o.service = service →
      KeepsTo (m.store.Within w.disk) (o.run m) w) := by
  constructor
  · rintro call rfl
    exact hlinks.keepsTo_perform hplain
  · rintro o rfl
    rw [o.run_eq_inPhase]
    refine keepsTo_inPhase ?_
    rcases o with ⟨d, isNew⟩ | service
    · exact hports.keepsTo_installScript hlinks hplain hnamed rfl rfl
    · exact hports.keepsTo_uninstallScript hlinks hplain rfl

end ServiceManager

/-! ### A rehearsal -/

namespace Rehearsal

open Rollback (Store)

section SparesDisk

variable {ν α β : Type}

/-- The calls of the machine have nothing to do with the disk. -/
theorem sparesDisk_bind {op : HostM (Machine ν) α} {f : α → HostM (Machine ν) β}
    (hop : World.SparesDisk op) (hf : ∀ a, World.SparesDisk (f a)) :
    World.SparesDisk (op >>= f) := by
  intro w disk
  rw [StateExcept.bind_eq, StateExcept.bind_eq, hop w disk]
  rcases op w with ⟨fault | a, w₁⟩
  · rfl
  · exact hf a w₁ disk

theorem sparesDisk_change (f : Machine ν → Machine ν) : World.SparesDisk (change f) :=
  fun _ _ ↦ rfl

theorem sparesDisk_point (name : String) :
    World.SparesDisk (point name : HostM (Machine ν) Unit) := by
  have hmachine : World.SparesDisk (machine : HostM (Machine ν) (Machine ν)) := fun _ _ ↦ rfl
  refine sparesDisk_bind hmachine fun h ↦ ?_
  split <;> exact fun _ _ ↦ rfl

/-- A rehearsed registration leaves the disk alone. -/
theorem sparesDisk_install (r : RegistrationRequest) :
    World.SparesDisk (install (pure ()) r : HostM (Machine ν) Rollback.State) := by
  have hmachine : World.SparesDisk (machine : HostM (Machine ν) (Machine ν)) := fun _ _ ↦ rfl
  refine sparesDisk_bind (sparesDisk_change _) fun _ ↦ sparesDisk_bind (fun _ _ ↦ rfl) fun _ ↦
    sparesDisk_bind (sparesDisk_point _) fun _ ↦ sparesDisk_bind hmachine fun h ↦ ?_
  dsimp only
  have hrest : World.SparesDisk (do
      change fun m ↦ { m with
        states := assign r.serviceName .stopped m.states
        registered := m.registered + 1 }
      return .new (.ofNat (← machine).registered) .epoch r.serviceName r.account :
      HostM (Machine ν) Rollback.State) := fun _ _ ↦ rfl
  split
  · exact sparesDisk_bind (sparesDisk_change _) fun _ ↦ hrest
  · exact hrest

/-- The ports of the rehearsed manager leave the disk alone. -/
theorem sparesDisk_manager : manager.SparesDisk := by
  intro query hport
  cases query with
  | register request => exact sparesDisk_install request
  | unregister service state =>
    exact sparesDisk_bind (sparesDisk_change _) fun _ ↦ sparesDisk_bind (fun _ _ ↦ rfl) fun _ ↦
      sparesDisk_bind (sparesDisk_point _) fun _ ↦ sparesDisk_change _
  | readRecord service =>
    exact sparesDisk_bind (sparesDisk_point _) fun _ ↦ sparesDisk_bind (sparesDisk_point _)
      fun _ _ _ ↦ rfl
  | writeRecord service record =>
    exact sparesDisk_bind (sparesDisk_change _) fun _ ↦ sparesDisk_bind (sparesDisk_point _)
      fun _ ↦ sparesDisk_change _
  | _ => cases hport

end SparesDisk

/-- They answer a registration with a state of the service. -/
theorem namesStates_manager : manager.NamesStates := by
  intro request w state hstate
  obtain ⟨w', hrun⟩ : ∃ w', install (pure ()) request w = (.ok state, w') :=
    ⟨_, Prod.ext hstate rfl⟩
  obtain ⟨-, w₁, -, hrun⟩ := StateExcept.bind_eq_ok_iff.1 hrun
  obtain ⟨-, w₂, -, hrun⟩ := StateExcept.bind_eq_ok_iff.1 hrun
  obtain ⟨-, w₃, -, hrun⟩ := StateExcept.bind_eq_ok_iff.1 hrun
  obtain ⟨h, w₄, -, hrun⟩ := StateExcept.bind_eq_ok_iff.1 hrun
  dsimp only at hrun
  split at hrun
  · cases hrun
    rfl
  · cases hrun
    rfl

/-- The manager keeps to the directory, in which there is a state already. -/
theorem keepsTo_web :
    let within := manager.store.Within webWorld.disk
    Disk.KeepsTo within (manager.store.perform (.save webState)) webWorld.disk ∧
      World.KeepsTo within (manager.install web true) webWorld ∧
      World.KeepsTo within (manager.uninstall "web") webWorld := by
  have hfits : Path.Fits "/state" (Store.fileName "web") := by decide
  have hlinks : manager.store.LinkFree "web"
      (Disk.ensureDirectory manager.store.directory webWorld.disk).2 := by
    have hmade : Disk.ensureDirectory manager.store.directory webWorld.disk = _ :=
      (holds_diskWith _).ensureDirectory_of_fits hfits
    rw [hmade]
    exact Store.linkFree_of_holds (holds_diskWith _)
  obtain ⟨hstore, hmanager⟩ :=
    ServiceManager.keepsTo_directory sparesDisk_manager namesStates_manager (by decide) hlinks
  exact ⟨hstore (.save webState) rfl, hmanager (.install web true) rfl,
    hmanager (.uninstall "web") rfl⟩

/-- A disk with the directory of the manager's states, and with a file beside it. -/
def strayDisk : Disk where
  tree := ⟨[(["state"], .directory), (["x.srv"], .file [])]⟩
  workDirectory := []

/-- The name of a service may lead out of the directory: then a file beside it is removed. -/
theorem remove_outside :
    manager.store.remove "../x" strayDisk =
        (.ok true, { strayDisk with tree := strayDisk.tree.erase ["x.srv"] }) ∧
      ¬ Disk.KeepsTo (manager.store.Within strayDisk) (manager.store.perform (.remove "../x"))
        strayDisk := by
  have hstate : strayDisk.Holds "/state" ["state"] fun _ ↦ none := {
    leads := (leadsTo_state rfl).leads
    directory := rfl
    content _ := rfl
    honest _ := by simp [strayDisk] }
  have hfits : Path.Fits "/state" (Store.fileName "web") := by decide
  have hmade : Disk.ensureDirectory manager.store.directory strayDisk = (.ok (), strayDisk) :=
    hstate.ensureDirectory_of_fits hfits
  have hlocate : strayDisk.locateSelf (manager.store.path "../x") = .ok ["x.srv"] := by
    have hnames : Path.names (manager.store.path "../x") = ["state", "..", "x.srv"] := by decide
    have hwalkable : Disk.Walkable (manager.store.path "../x") := by decide +kernel
    have hbase : strayDisk.base (manager.store.path "../x") = [] := if_pos (by decide)
    rw [Disk.locateSelf, hnames, hwalkable.locateSteps_eq, hbase, FileTree.walk_eq_ok_iff]
    exact .through ⟨rfl, by decide, by decide, by decide⟩ rfl (fun _ ↦ Entry.noConfusion)
      (.up rfl (.through ⟨rfl, by decide, by decide, by decide⟩ rfl (fun _ ↦ Entry.noConfusion)
        (.here ..)))
  have hremove : manager.store.remove "../x" strayDisk =
      (.ok true, { strayDisk with tree := strayDisk.tree.erase ["x.srv"] }) := by
    rw [Store.remove, Disk.remove_eq, hlocate]
    rfl
  refine ⟨hremove, fun hkeeps ↦ ?_⟩
  -- The directory is the only one that the store leads to, and the file lies above it.
  have houtside : ¬ manager.store.Within strayDisk ["x.srv"] := by
    rintro ⟨directory, name, hleads, hplace⟩
    rw [hmade] at hleads
    rw [hleads.unique ⟨hstate.leads, hstate.directory⟩] at hplace
    exact absurd (List.cons.inj hplace).1 (by decide)
  have hspared := hkeeps.spares ["x.srv"] houtside
  rw [Store.perform, hremove] at hspared
  obtain hsame | ⟨hnone, -⟩ := hspared
  · cases hsame
  · cases hnone

end Rehearsal

end ServerSetup
