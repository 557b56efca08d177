import ServerSetup.Proofs.Catalog.Operations
import ServerSetup.Proofs.Path.Home
import ServerSetup.Proofs.Search

/-!
# The recorded home

A search takes the recorded home up by selecting it, and a selection stands. So the home is known
after the first search of a session. In a session with a selection the record counts for nothing:
the search finds what it would find if there were none, and the recorded home is known only if it is
known anyway (`recorded_known_iff`).

The comparison is with the same search on a host that answers that no home is recorded
(`Search.unrecorded`). The call is still made, so that whatever it does to the state of the host is
done in both searches. Behind this call the two searches are the same function (`runOn_unrecorded`),
and if there is a selection they also start it from the same catalog (`run_unrecorded`).

Nothing is assumed about the answers of the host but that the recorded home can be read, and that
its calls leave the catalog alone (`Host.SparesCatalog`). Where nothing is selected, the home is
added with the selection, and every later step lets the catalog grow (`Catalog.Grows`).
-/

namespace ServerSetup

open CommandLine

namespace Catalog

variable {c c' c'' : Catalog}

/-- In a sound catalog either an installation is selected or the selection was never made. -/
theorem Sound.current_eq_none (h : c.Sound) (hnone : c.current? = none) : c.current = none := by
  rcases hcurrent : c.current with - | n
  · rfl
  · obtain ⟨i, -, hi⟩ := h.exists_current hcurrent
    cases hnone.symm.trans hi

/-- Installations are only added behind those that are there, and a selection stands. -/
structure Grows (c c' : Catalog) : Prop where
  installations : c.installations <+: c'.installations
  selection : ∀ i, c.current? = some i → c'.current? = some i

namespace Grows

theorem refl (c : Catalog) : c.Grows c := ⟨List.prefix_refl _, fun _ h ↦ h⟩

theorem trans (h : c.Grows c') (h' : c'.Grows c'') : c.Grows c'' where
  installations := h.installations.trans h'.installations
  selection i hi := h'.selection i (h.selection i hi)

theorem addHomes (c : Catalog) (homes : List HomePath) : c.Grows (c.addHomes homes) where
  installations := prefix_addHomes c homes
  selection _ := current?_addHomes homes

/-- Selecting a home lets it grow, too, and selects nothing else if there is a selection. -/
theorem selecting (c : Catalog) (home : HomePath) : c.Grows (c.selecting home) where
  installations := prefix_selecting c home
  selection i hi := by rw [selecting_of_current? hi, hi]

theorem mem_keys {key : String} (h : c.Grows c') (hkey : key ∈ c.keys) : key ∈ c'.keys :=
  (h.installations.map _).subset hkey

end Grows

end Catalog

/-- The calls of a host in a search leave the catalog alone. -/
structure Host.SparesCatalog {η : Type} (host : Host η) : Prop where
  volumes : ∀ w, (host.volumes w).2.catalog = w.catalog
  recordedHome : ∀ w, (host.recordedHome w).2.catalog = w.catalog
  services : ∀ w, (host.records.list w).2.catalog = w.catalog
  record : ∀ service w, (host.records.record service w).2.catalog = w.catalog

/-- The host as it is if no home is recorded. -/
def Host.unrecorded {η : Type} (host : Host η) : Host η :=
  { host with recordedHome := do
      let _ ← host.recordedHome
      return none }

namespace Search

variable {η : Type} {s : Search η} {w w' w₁ : World η} {found : List Installation}
  {written : String}

/-- The search as it is if no home is recorded. -/
def unrecorded (s : Search η) : Search η := { s with host := s.host.unrecorded }

/-! ### What the places add -/

/-- The volumes do nothing to the catalog but add homes. -/
theorem searchVolumes_catalog (hhost : s.host.SparesCatalog) (w : World η) :
    ∃ homes, (s.searchVolumes w).2.catalog = w.catalog.addHomes homes := by
  have hspares := hhost.volumes w
  simp only [searchVolumes, bind, StateT.bind]
  rcases hvolumes : s.host.volumes w with ⟨why | volumes, w₁⟩
  · rw [hvolumes] at hspares
    exact ⟨[], hspares⟩
  · rw [hvolumes] at hspares
    exact ⟨_, congrArg (Catalog.addHomes · _) hspares⟩

/-- The records of services let the catalog grow. -/
theorem grows_searchRecords (hhost : s.host.SparesCatalog) (names : List String) (w : World η) :
    w.catalog.Grows (s.searchRecords names w).2.catalog := by
  induction names generalizing w with
  | nil => exact .refl w.catalog
  | cons name names ih =>
    -- what the record of the first service adds
    obtain ⟨homes, w₁, hrun, hcatalog⟩ : ∃ homes w₁,
        s.searchRecords (name :: names) w = s.searchRecords names w₁ ∧
          w₁.catalog = w.catalog.addHomes homes := by
      rcases hrecord : s.host.records.record name w with ⟨answer, w₁⟩
      have hspares : w₁.catalog = w.catalog := by
        simpa only [hrecord] using hhost.record name w
      simp only [searchRecords, bind, StateT.bind, hrecord]
      rcases answer with why | - | record
      · exact ⟨[], w₁, rfl, hspares⟩
      · exact ⟨[], w₁, rfl, hspares⟩
      · rcases hhome : (launcherArguments? record s.product.launcher).bind
            (homeOf? s.test w₁.disk) with - | home
        · refine ⟨[], w₁, ?_, hspares⟩
          simp only [bind, StateT.bind, get, getThe, MonadStateOf.get, StateT.get, pure, hhome]
        · refine ⟨[w₁.disk.canonical home],
            { w₁ with catalog := w₁.catalog.addHomes [w₁.disk.canonical home] }, ?_,
            congrArg (Catalog.addHomes · _) hspares⟩
          simp only [bind, StateT.bind, get, getThe, MonadStateOf.get, StateT.get, pure, hhome]
          rfl
    rw [hrun]
    exact (hcatalog ▸ Catalog.Grows.addHomes w.catalog homes).trans (ih w₁)

theorem grows_searchUpwards (w : World η) :
    w.catalog.Grows (s.searchUpwards w).2.catalog := by
  rw [searchUpwards_eq]
  rcases s.homeAbove? w.disk with - | home
  · exact .refl w.catalog
  · exact (Catalog.Grows.addHomes w.catalog [home]).trans (.selecting _ home)

/-- What comes after the recorded home is the same whether or not there is one. -/
theorem searchRecords_unrecorded (names : List String) :
    s.unrecorded.searchRecords names = s.searchRecords names := by
  induction names with
  | nil => rfl
  | cons name names ih =>
    rw [searchRecords, searchRecords, ih]
    rfl

/-- The services are searched in the same way whether or not a home is recorded. -/
theorem searchServices_unrecorded : s.unrecorded.searchServices = s.searchServices := by
  have hrecords : s.unrecorded.searchRecords = s.searchRecords := funext searchRecords_unrecorded
  rw [searchServices, searchServices, hrecords]
  rfl

/-- What a search does once the recorded home has been read. -/
def runOn (s : Search η) : SetupM η (List Installation) := do
  s.searchServices
  s.searchUpwards
  return (← get).catalog.installations

theorem run_eq (s : Search η) (w : World η) :
    s.run w = s.runOn (s.takeRecordedHome (s.searchVolumes w).2).2 := rfl

/-- What comes behind the cut is the same whether or not a home is recorded. -/
theorem runOn_unrecorded : s.unrecorded.runOn = s.runOn := by
  rw [runOn, runOn, searchServices_unrecorded]
  rfl

/-- The catalog only grows in what comes behind. -/
theorem grows_runOn (hhost : s.host.SparesCatalog) (hrun : s.runOn w = (.ok found, w')) :
    w.catalog.Grows w'.catalog := by
  obtain ⟨_, w₂, hservices, hend⟩ := SetupM.bind_eq_ok_iff.1 hrun
  obtain ⟨names, w₁, hlist, hrecords⟩ := SetupM.bind_eq_ok_iff.1 hservices
  have hspares : w₁.catalog = w.catalog := by
    simpa only [SetupM.call_eq_ok_iff.1 hlist] using hhost.services w
  have hrecords' : w₂ = (s.searchRecords names w₁).2 := by
    cases hrecords
    rfl
  have hend' : w' = (s.searchUpwards w₂).2 := by
    cases hend
    rfl
  rw [hend', ← hspares]
  exact (hrecords' ▸ grows_searchRecords hhost names w₁).trans (grows_searchUpwards w₂)

theorem takeRecordedHome_of_read (hblank : Text.isBlankText written = false)
    (hrecorded : s.host.recordedHome w = (.ok (some written), w₁)) :
    s.takeRecordedHome w = ((), { w₁ with
      catalog := w₁.catalog.selecting (w₁.disk.canonical written) }) := by
  simp only [takeRecordedHome, bind, StateT.bind, hrecorded, hblank]
  exact selectHome_eq _

/-- If there is a selection, a home that is recorded is not taken up. -/
theorem run_unrecorded (hhost : s.host.SparesCatalog) (hblank : Text.isBlankText written = false)
    (hrecorded : s.host.recordedHome (s.searchVolumes w).2 = (.ok (some written), w₁))
    {i : Installation} (hcurrent : w.catalog.current? = some i) : s.unrecorded.run w = s.run w := by
  obtain ⟨homes, hvolumes⟩ := searchVolumes_catalog hhost w
  have hspares : w₁.catalog = w.catalog.addHomes homes := by
    rw [← hvolumes]
    simpa only [hrecorded] using hhost.recordedHome (s.searchVolumes w).2
  have hselected : w₁.catalog.selecting (w₁.disk.canonical written) = w₁.catalog :=
    Catalog.selecting_of_current? (hspares ▸ Catalog.current?_addHomes homes hcurrent)
  have htake : s.takeRecordedHome (s.searchVolumes w).2 = ((), w₁) := by
    rw [takeRecordedHome_of_read hblank hrecorded, hselected]
  have hnone : s.unrecorded.host.recordedHome (s.searchVolumes w).2 = (.ok none, w₁) :=
    StateExcept.bind_eq_ok_iff.2 ⟨_, _, hrecorded, rfl⟩
  have htake' : s.unrecorded.takeRecordedHome (s.searchVolumes w).2 = ((), w₁) := by
    simp only [takeRecordedHome, bind, StateT.bind, hnone]
    rfl
  have hstart : s.unrecorded.searchVolumes = s.searchVolumes := rfl
  rw [run_eq, run_eq, hstart, htake, htake', runOn_unrecorded]

/-- **A search takes the recorded home up as the first selection, or not at all.** Let the host
leave the catalog alone, and let its record of the current installation be read and not be blank.
After a search the recorded home is known exactly if nothing was selected before, or if the search
finds it without the record. If nothing was selected it is selected now, and an earlier selection
stands. -/
theorem recorded_known_iff (hhost : s.host.SparesCatalog) (hsound : w.catalog.Sound)
    (hrecorded : s.host.recordedHome (s.searchVolumes w).2 = (.ok (some written), w₁))
    (hblank : Text.isBlankText written = false) (hrun : s.run w = (.ok found, w')) :
    ((w₁.disk.canonical written).key ∈ w'.catalog.keys ↔ w.catalog.current? = none ∨
      (w₁.disk.canonical written).key ∈ (s.unrecorded.run w).2.catalog.keys) ∧
    (w.catalog.current? = none →
      w'.catalog.current?.map (·.home.key) = some (w₁.disk.canonical written).key) ∧
    ∀ i, w.catalog.current? = some i → w'.catalog.current? = some i := by
  obtain ⟨homes, hvolumes⟩ := searchVolumes_catalog hhost w
  have hspares : w₁.catalog = w.catalog.addHomes homes := by
    rw [← hvolumes]
    simpa only [hrecorded] using hhost.recordedHome (s.searchVolumes w).2
  rw [run_eq, takeRecordedHome_of_read hblank hrecorded] at hrun
  have hgrows : (w₁.catalog.selecting (w₁.disk.canonical written)).Grows w'.catalog :=
    grows_runOn hhost hrun
  -- With nothing selected, selecting the recorded home adds it. With a selection it adds nothing,
  -- and the search goes on as it does without a record.
  rcases hcurrent : w.catalog.current? with - | i
  · have hnone : w₁.catalog.current? = none := by
      refine Catalog.current?_of_current ?_
      rw [hspares, Catalog.current_addHomes]
      exact hsound.current_eq_none hcurrent
    have hselected := (Catalog.selecting_of_none (w₁.disk.canonical written) hnone).2
    obtain ⟨i, hi, hkey⟩ := Option.map_eq_some_iff.1 hselected
    have hknown : (w₁.disk.canonical written).key ∈
        (w₁.catalog.selecting (w₁.disk.canonical written)).keys := by
      rw [Catalog.keys_selecting_of_none hnone]
      exact Catalog.mem_keys_addHomes.2 (Or.inr ⟨_, List.mem_singleton_self _, rfl⟩)
    refine ⟨iff_of_true (hgrows.mem_keys hknown) (Or.inl rfl), fun _ ↦ ?_, nofun⟩
    rw [hgrows.selection i hi, Option.map_some, hkey]
  · have hsearch : s.unrecorded.run w = (.ok found, w') := by
      rw [run_unrecorded hhost hblank hrecorded hcurrent, run_eq,
        takeRecordedHome_of_read hblank hrecorded]
      exact hrun
    have hstands : w₁.catalog.current? = some i :=
      hspares ▸ Catalog.current?_addHomes homes hcurrent
    rw [Catalog.selecting_of_current? hstands] at hgrows
    rw [hsearch]
    refine ⟨⟨Or.inr, fun h ↦ h.resolve_left nofun⟩, nofun, fun j hj ↦ ?_⟩
    exact hgrows.selection j (hj ▸ hstands)

/-! ### Rehearsed records -/

/-- A rehearsed host leaves the catalog alone. -/
theorem sparesCatalog_rehearsed {ν : Type} :
    (Rehearsal.host (ν := ν) none (pure ())).SparesCatalog := by
  have hspares {α : Type} {op : HostM (Rehearsal.Machine ν) α} (h : Rehearsal.ActsOnHost op) (w) :
      (op w).2.catalog = w.catalog := by
    obtain ⟨host, hw⟩ := h w
    rw [hw]
  have hread {α : Type} (name : String) (f : Rehearsal.Machine ν → α) :
      Rehearsal.ActsOnHost (do Rehearsal.point name; return f (← Rehearsal.machine)) :=
    (Rehearsal.ActsOnHost.point name).bind fun _ ↦
      Rehearsal.ActsOnHost.machine.bind fun _ ↦ .pure _
  exact ⟨hspares (hread _ _), hspares (hread _ _), hspares (hread _ _),
    fun service ↦ hspares (Rehearsal.ActsOnHost.record service)⟩

/-- A world in which a home is recorded. -/
def recordedWorld (c : Catalog) : World (Rehearsal.Machine Unit) where
  disk := { tree := .empty, workDirectory := [] }
  environment := ⟨[]⟩
  catalog := c
  host := { recordedHome := some "C:\\b", notes := () }

/-- The recorded home is not on the disk, and stays as it is written. -/
theorem canonical_recordedWorld (c : Catalog) :
    (recordedWorld c).disk.canonical "C:\\b" = ⟨"C:\\b"⟩ := by
  have hwritten : Path.written "C:\\b" = "C:\\b" := by decide +kernel
  have hsteps : Path.steps "C:\\b" = ["C:\\b"] := by decide +kernel
  exact Disk.canonical_bare hwritten hsteps (by decide) (by decide) (by decide)

/-- A search in such a world has nothing but the record to go by. -/
theorem run_recordedWorld (c : Catalog) : ∃ w', sample.run (recordedWorld c) =
    (.ok (c.selecting ⟨"C:\\b"⟩).installations, w') ∧ w'.catalog = c.selecting ⟨"C:\\b"⟩ := by
  have hsteady := steady_rehearsed none (pure ()) (m := (recordedWorld c).host) rfl
  obtain ⟨h, -, hrun⟩ := run_eq_ok_iff hsteady (s := sample) (w := recordedWorld c) rfl
  have hservices : (rehearsed (recordedWorld c).host).services = .ok [] := by
    simp [rehearsed, recordedWorld]
  have hgathered : sample.gathered (rehearsed (recordedWorld c).host) (recordedWorld c) [] =
      c.selecting ⟨"C:\\b"⟩ := by
    rw [← canonical_recordedWorld c]
    rfl
  refine ⟨_, (hrun _ _).2 ⟨[], hservices, ?_, rfl⟩, hgathered⟩
  rw [hgathered]

/-- Nothing is selected, so the recorded home is known after the search. -/
theorem recorded_taken_up : ∃ found w', sample.run (recordedWorld .empty) = (.ok found, w') ∧
    Path.comparisonKey "C:\\b" ∈ w'.catalog.keys := by
  obtain ⟨w', hrun, -⟩ := run_recordedWorld .empty
  have hknown : ((recordedWorld .empty).disk.canonical "C:\\b").key ∈ w'.catalog.keys :=
    (recorded_known_iff sparesCatalog_rehearsed Catalog.sound_empty rfl (by decide +kernel)
      hrun).1.2 (Or.inl rfl)
  rw [canonical_recordedWorld] at hknown
  exact ⟨_, w', hrun, hknown⟩

/-- An installation is selected, and a search after that does not find the recorded home. -/
theorem recorded_passed_over :
    let selected : Catalog := { installations := [⟨⟨"C:\\a"⟩, []⟩], current := some 0 }
    sample.host.SparesCatalog ∧ selected.Sound ∧
      (sample.host.recordedHome (recordedWorld selected)).1 = .ok (some "C:\\b") ∧
      Text.isBlankText "C:\\b" = false ∧
      ∃ found w', sample.run (recordedWorld selected) = (.ok found, w') ∧
        ((recordedWorld selected).disk.canonical "C:\\b").key ∉ w'.catalog.keys := by
  intro selected
  obtain ⟨w', hrun, hcatalog⟩ := run_recordedWorld selected
  have hsound : selected.Sound := ⟨by decide +kernel, List.nodup_nil, by
    rintro n ⟨rfl⟩
    decide⟩
  refine ⟨sparesCatalog_rehearsed, hsound, rfl, by decide +kernel, _, w', hrun, ?_⟩
  rw [hcatalog, canonical_recordedWorld, Catalog.selecting_of_current? (i := ⟨⟨"C:\\a"⟩, []⟩) rfl]
  decide +kernel

end Search

end ServerSetup
