import ServerSetup.Proofs.Disk.Copies
import ServerSetup.Proofs.Filter.Calls
import ServerSetup.Proofs.Filter.LoadOrder
import ServerSetup.Proofs.Rehearsal

/-!
# A rehearsal keeps filters faithfully

The host in memory notes every call that changes its filters, also one that it is told to fail. What
is left when those are taken out is a journal of the changes, and the table of filters is as these
changes make it.

A call that fails is noted before it fails, so the notes alone do not tell what was done. The
journal therefore leaves out the notes of changes at whose points the machine fails (`changeOf?`).
With it the machine follows all three views of a store of filters, in every state, and in the states
without failing points every call succeeds (`faithful_filterStore`).

At the end of the module there is a server to rehearse on: a disk with an installation and a
directory of scripts, and the setup of the filter for it. It is used wherever a statement about
registrations is applied to a concrete host.
-/

namespace ServerSetup.Rehearsal

variable {ν : Type} {w w' : World (Machine ν)} {change : FilterChange}

/-! ### Changes as calls of the machine -/

/-- The call by which a change is noted. -/
def actionOf : FilterChange → Action
  | .put entry => .put entry
  | .remove name => .remove name
  | .putLoadOrder order => .putLoadOrder order
  | .commit => .commit

/-- The change that a noted call asks for, if it is one of the filters. -/
def changeOf? : Action → Option FilterChange
  | .put entry => some (.put entry)
  | .remove name => some (.remove name)
  | .putLoadOrder order => some (.putLoadOrder order)
  | .commit => some .commit
  | _ => none

theorem changeOf?_actionOf (change : FilterChange) : changeOf? (actionOf change) = some change := by
  cases change <;> rfl

/-- The point at which a change fails. -/
def pointOf : FilterChange → String
  | .put _ => "put_entry"
  | .remove _ => "remove_entry"
  | .putLoadOrder _ => "set_load_order"
  | .commit => "commit"

/-- The table after a change. -/
def tableAfter : FilterChange → FilterTable → FilterTable
  | .put entry, table => table.put entry
  | .remove name, table => table.remove name
  | .putLoadOrder order, table => { table with loadOrder := order }
  | .commit, table => table.commit

/-- The machine after a change was asked for. -/
def Machine.asked (m : Machine ν) (change : FilterChange) : Machine ν :=
  { m with actions := m.actions ++ [actionOf change] }

/-- The machine after a change. -/
def Machine.changed (m : Machine ν) (change : FilterChange) : Machine ν :=
  { m.asked change with filterTable := tableAfter change m.filterTable }

/-- The changes of the filters that a machine has made. -/
def journal (m : Machine ν) : List FilterChange :=
  (m.actions.filterMap changeOf?).filter fun change ↦ pointOf change ∉ m.failing

/-- A change is made where the machine is not told to fail. -/
theorem make_eq : filterStore.make change w =
    if pointOf change ∈ w.host.failing then
      (.error (.said ("fake failure: " ++ pointOf change)),
        { w with host := w.host.asked change })
    else (.ok (), { w with host := w.host.changed change }) := by
  have hmake : filterStore.make change w = (do
      point (pointOf change)
      Rehearsal.change fun m ↦ { m with filterTable := tableAfter change m.filterTable } :
        HostM (Machine ν) Unit) { w with host := w.host.asked change } := by
    cases change <;> rfl
  have hfailing : (w.host.asked change).failing = w.host.failing := rfl
  rw [hmake, StateExcept.bind_eq, point_eq, hfailing]
  by_cases hpoint : pointOf change ∈ w.host.failing
  · rw [if_pos hpoint, if_pos hpoint]
  · rw [if_neg hpoint, if_neg hpoint]
    rfl

/-- A change is made unless the machine is told to fail at its point. -/
theorem make_eq_ok_iff : filterStore.make change w = (.ok (), w') ↔
    pointOf change ∉ w.host.failing ∧ { w with host := w.host.changed change } = w' := by
  rw [make_eq]
  by_cases hpoint : pointOf change ∈ w.host.failing
  · rw [if_pos hpoint]
    exact ⟨fun h ↦ (nomatch h), fun h ↦ absurd hpoint h.1⟩
  · rw [if_neg hpoint]
    exact ⟨fun h ↦ ⟨hpoint, congrArg Prod.snd h⟩, fun h ↦ congrArg (Prod.mk (Except.ok ())) h.2⟩

/-- A change that is made comes behind the journal. -/
theorem journal_changed {m : Machine ν} (h : pointOf change ∉ m.failing) :
    journal (m.changed change) = journal m ++ [change] := by
  have hchange : [actionOf change].filterMap changeOf? = [change] := by
    rw [List.filterMap_cons_some (changeOf?_actionOf change), List.filterMap_nil]
  show ((m.actions ++ [actionOf change]).filterMap changeOf?).filter
    (fun change ↦ pointOf change ∉ m.failing) = _
  rw [List.filterMap_append, List.filter_append, hchange,
    List.filter_cons_of_pos (by simpa using h), List.filter_nil, ← journal]

/-! ### The laws of a store of filters -/

/-- Reading the filters fails at its point, and changes nothing. -/
theorem filters_eq : filterStore.filters w =
    if "entries" ∈ w.host.failing then (.error (.said ("fake failure: " ++ "entries")), w)
    else (.ok w.host.filterTable.filters, w) := by
  show (point "entries" >>= _ : HostM (Machine ν) (List StoredFilter)) w = _
  rw [StateExcept.bind_eq, point_eq]
  by_cases hpoint : "entries" ∈ w.host.failing
  · rw [if_pos hpoint, if_pos hpoint]
  · rw [if_neg hpoint, if_neg hpoint]
    rfl

/-- Reading the load order fails at its point, and changes nothing. -/
theorem loadOrder_eq : filterStore.loadOrder w =
    if "load_order" ∈ w.host.failing then (.error (.said ("fake failure: " ++ "load_order")), w)
    else (.ok w.host.filterTable.loadOrder, w) := by
  show (point "load_order" >>= _ : HostM (Machine ν) String) w = _
  rw [StateExcept.bind_eq, point_eq]
  by_cases hpoint : "load_order" ∈ w.host.failing
  · rw [if_pos hpoint, if_pos hpoint]
  · rw [if_neg hpoint, if_neg hpoint]
    rfl

/-- Filters that are read are those of the table. -/
theorem filters_eq_ok {entries : List StoredFilter}
    (h : filterStore.filters w = (.ok entries, w')) :
    entries = w.host.filterTable.filters ∧ w' = w := by
  rw [filters_eq] at h
  split at h
  · cases h
  · cases h
    exact ⟨rfl, rfl⟩

/-- A load order that is read is that of the table. -/
theorem loadOrder_eq_ok {order : String} (h : filterStore.loadOrder w = (.ok order, w')) :
    order = w.host.filterTable.loadOrder ∧ w' = w := by
  rw [loadOrder_eq] at h
  split at h
  · cases h
  · cases h
    exact ⟨rfl, rfl⟩

/-- Successful calls act on a view of the machine if changes do that are not told to fail. -/
theorem tracks_filterStore {β : Type} {view : Machine ν → β} {acts : FilterChange → β → β}
    (h : ∀ (m : Machine ν) change, pointOf change ∉ m.failing →
      view (m.changed change) = acts change (view m)) :
    filterStore.Tracks view acts where
  filters hfilters := by rw [(filters_eq_ok hfilters).2]
  loadOrder horder := by rw [(loadOrder_eq_ok horder).2]
  make hmake := by
    obtain ⟨hpoint, rfl⟩ := make_eq_ok_iff.1 hmake
    exact h _ _ hpoint

/-- **A machine keeps a journal of the changes of its filters.** -/
theorem journaled_filterStore : filterStore.Journaled (journal : Machine ν → List FilterChange) :=
  tracks_filterStore fun _ _ ↦ journal_changed

/-- **A machine keeps its load order.** -/
theorem keepsOrder_filterStore :
    filterStore.KeepsOrder fun m : Machine ν ↦ m.filterTable.loadOrder where
  toTracks := tracks_filterStore fun m change _ ↦ by cases change <;> rfl
  read hread := (loadOrder_eq_ok hread).1

theorem coe_others (table : FilterTable) (name : String) :
    (↑(table.others name) : Multiset StoredFilter) = FilterChange.others name ↑table.filters := by
  rw [FilterChange.others, Multiset.filter_coe, FilterTable.others]
  simp

/-- **A machine keeps its filters.** -/
theorem keepsEntries_filterStore :
    filterStore.KeepsEntries fun m : Machine ν ↦ ↑m.filterTable.filters where
  toTracks := tracks_filterStore fun m change _ ↦ by
    cases change with
    | put entry =>
      show (↑(m.filterTable.others entry.name ++ [entry]) : Multiset StoredFilter) = _
      rw [← Multiset.coe_add, coe_others, Multiset.add_comm]
      rfl
    | remove name => exact coe_others m.filterTable name
    | putLoadOrder order => rfl
    | commit => rfl
  read hread := by rw [(filters_eq_ok hread).1]

/-- **No call fails on a machine that is not told to fail.** -/
theorem dependable_filterStore :
    filterStore.Dependable fun m : Machine ν ↦ m.failing = [] where
  filters {w} hcalm := by
    refine ⟨w.host.filterTable.filters, w.host, ?_, hcalm⟩
    rw [filters_eq, if_neg (by simp [hcalm])]
  loadOrder {w} hcalm := by
    refine ⟨w.host.filterTable.loadOrder, w.host, ?_, hcalm⟩
    rw [loadOrder_eq, if_neg (by simp [hcalm])]
  make change w hcalm :=
    ⟨w.host.changed change, make_eq_ok_iff.2 ⟨by simp [hcalm], rfl⟩, hcalm⟩

/-- What can be seen of the filters of a machine. -/
def filterView : FilterStore.View (Machine ν) where
  calm m := m.failing = []
  journal := journal
  order m := m.filterTable.loadOrder
  entries m := ↑m.filterTable.filters

/-- **The machine has a faithful store of filters,** in the states in which it is not told to
fail. -/
theorem faithful_filterStore :
    filterStore.Faithful (filterView : FilterStore.View (Machine ν)) where
  dependable := dependable_filterStore
  journaled := journaled_filterStore
  keepsOrder := keepsOrder_filterStore
  keepsEntries := keepsEntries_filterStore

/-! ### A server to rehearse on -/

/-- A disk with an installation and a directory for scripts. -/
def serverDisk : Disk where
  tree := ⟨[(["home"], .directory), (["home", "win32"], .directory),
    (["home", "win32", "isapi_srun.dll"], .file [1]), (["scripts"], .directory)]⟩
  workDirectory := []

/-- A server with a load order, on which some calls fail. -/
def server (loadOrder : String) (failing : List String) : World (Machine Unit) where
  disk := serverDisk
  environment := ⟨[]⟩
  host := { filterTable := { loadOrder := loadOrder }, failing := failing, notes := () }

/-- The filter with its usual settings. -/
def filterSetup : FilterSetup (Machine Unit) where
  store := filterStore
  settings := {}

/-- The registration of the installation on the disk. -/
def registration : FilterCall := .register "/home" "/scripts"

theorem wellFormed_serverDisk : serverDisk.WellFormed where
  tree := FileTree.wellFormed_of_forall (by decide)
  workDirectory := rfl

/-- The disk can be walked name by name. -/
theorem enters_serverDisk {here : Location} {name : String}
    (hhere : serverDisk.tree.isDirectory here = true)
    (hname : name ∈ ["home", "win32", "scripts", "isapi_srun.dll"]) :
    serverDisk.tree.Enters here name where
  directory := hhere
  dot := by
    revert name
    decide
  dots := by
    revert name
    decide
  length := by
    revert name
    decide

/-- The installation on the disk has the file of the filter. -/
theorem shows_serverDisk : serverDisk.Shows (filterSetup.source "/home")
    ["home", "win32", "isapi_srun.dll"] [1] where
  locate := by
    have hsteps : Path.steps (filterSetup.source "/home") =
        ["home", "win32", "isapi_srun.dll"] := by decide +kernel
    have hwalkable : Disk.Walkable (filterSetup.source "/home") := by decide +kernel
    rw [Disk.locate, hsteps, hwalkable.locateSteps_eq, FileTree.walk_eq_ok_iff]
    have hdll : serverDisk.tree.Leads true FileTree.maxLinks ["home", "win32"]
        ["isapi_srun.dll"] ["home", "win32", "isapi_srun.dll"] :=
      .through (enters_serverDisk rfl (by decide)) rfl (fun _ ↦ Entry.noConfusion) (.here ..)
    exact .through (enters_serverDisk rfl (by decide)) rfl (fun _ ↦ Entry.noConfusion)
      (.through (enters_serverDisk rfl (by decide)) rfl (fun _ ↦ Entry.noConfusion) hdll)
  file := by decide

/-- The directory of the scripts has a place for it. -/
theorem offers_serverDisk :
    serverDisk.Offers (filterSetup.target "/scripts") ["scripts", "isapi_srun.dll"] where
  locate := by
    have hsteps : Path.steps (filterSetup.target "/scripts") =
        ["scripts", "isapi_srun.dll"] := by decide +kernel
    have hwalkable : Disk.Walkable (filterSetup.target "/scripts") := by decide +kernel
    rw [Disk.locate, hsteps, hwalkable.locateSteps_eq, FileTree.walk_eq_ok_iff]
    exact .through (enters_serverDisk rfl (by decide)) rfl (fun _ ↦ Entry.noConfusion)
      (.missing (enters_serverDisk rfl (by decide)) rfl)
  noSlash := by decide +kernel
  noDirectory := by decide
  noLink elsewhere := by
    rw [show serverDisk.tree.get? ["scripts", "isapi_srun.dll"] = none by decide]
    exact (Option.some_ne_none _).symm

/-- The name of the filter can stand in a load order. -/
theorem isName_filterSetup : LoadOrder.IsName filterSetup.settings.name.toList where
  nonempty := by decide +kernel
  noComma := by decide +kernel
  trimmed := by decide +kernel

theorem copy_serverDisk :
    (Disk.copy (filterSetup.source "/home") (filterSetup.target "/scripts") serverDisk).1 =
      .ok () := by
  rw [shows_serverDisk.copy offers_serverDisk ⟨rfl, rfl, rfl⟩]

/-- On the disk of the server the file is copied, so the store alone decides how a registration
ends. -/
theorem perform_registration {w w' : World (Machine Unit)} {changed : Bool}
    (hcarry : filterSetup.store.carryOut (filterSetup.registration "/scripts") w =
      (.ok changed, w'))
    (hdisk : w'.disk = serverDisk) :
    (filterSetup.perform registration w).1.status = registration.success changed ∧
      (filterSetup.perform registration w).2.host = w'.host := by
  have hcopy := shows_serverDisk.copy offers_serverDisk ⟨rfl, rfl, rfl⟩
  rw [registration, FilterSetup.perform_eq, FilterSetup.plan, hcarry]
  dsimp only
  rw [hdisk, FilterSetup.fileWork, hcopy]
  exact ⟨rfl, rfl⟩

end ServerSetup.Rehearsal
