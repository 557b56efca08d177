import ServerSetup.Proofs.Rehearsal.Filters

/-!
# The file of the filter

A registration that reports success has copied the file of the filter from the installation into the
directory of the scripts. Both paths may lead to the same file, through links or because one
directory is the other. The copy empties its target before it reads its source, so then nothing is
left of the file, and the registration reports success all the same. In every other case the target
has what the source had (`register_copies_iff`).

Nothing is assumed of the two paths, and the file that the installation has is the one that is read
where the path leads on the disk before the call. The store of filters may do what it likes with the
host as long as it leaves the disk alone. That the two paths lead to different files is exactly what
the equivalence asks for when the source is not empty; an empty file is copied rightly onto itself.
-/

namespace ServerSetup

variable {η : Type} {f : FilterSetup η} {home scripts : String} {w : World η}

namespace FilterSetup

/-- A registration that reports success has found the file and a place for it, and copied it. -/
theorem disk_of_register (hstore : f.store.LeavesDisk) (hdisk : w.disk.WellFormed) {changed : Bool}
    (hstatus : (f.register home scripts w).1.status =
      (FilterCall.register home scripts).success changed) :
    ∃ place content goal, w.disk.Shows (f.source home) place content ∧
      w.disk.Offers (f.target scripts) goal ∧ (f.register home scripts w).2.disk = { w.disk with
        tree := w.disk.tree.put goal (.file (if place = goal then [] else content)) } := by
  obtain ⟨w₁, hcarry, hcopy⟩ := (register_succeeds_iff changed).1 hstatus
  have hafter : (f.register home scripts w).2 = _ := register_of_carryOut hcarry
  obtain ⟨entries, order, hcarried, -⟩ := FilterStore.carryOut_eq_ok_iff.1 hcarry
  -- the part of the store leaves the disk alone, so the copy is made on the disk from before
  rw [hstore.carried hcarried] at hcopy hafter
  obtain ⟨place, content, goal, hsource, htarget, hpermits⟩ := hdisk.of_copy (Prod.ext hcopy rfl)
  refine ⟨place, content, goal, hsource, htarget, ?_⟩
  rw [hafter, hsource.copy htarget hpermits]

/-- **Where a registration that reports success has copied the file intact.** The source was a file
and nothing but the target has changed on the disk. The target has the content that the source had
exactly if the two were different files, or if there was nothing to lose. -/
theorem register_copies_iff (hstore : f.store.LeavesDisk) (hdisk : w.disk.WellFormed)
    (hstatus : (f.register home scripts w).1.status = .configuredOk ∨
      (f.register home scripts w).1.status = .alreadyConfigured) :
    ∃ place content goal, w.disk.Shows (f.source home) place content ∧
      w.disk.locate (f.target scripts) = .ok goal ∧
      (f.register home scripts w).2.disk = { w.disk with
        tree := w.disk.tree.put goal (.file (if place = goal then [] else content)) } ∧
      ((f.register home scripts w).2.disk.Shows (f.target scripts) goal content ↔
        place ≠ goal ∨ content = []) := by
  obtain ⟨changed, hsuccess⟩ : ∃ changed, (f.register home scripts w).1.status =
      (FilterCall.register home scripts).success changed := by
    rcases hstatus with hstatus | hstatus
    · exact ⟨true, hstatus⟩
    · exact ⟨false, hstatus⟩
  obtain ⟨place, content, goal, hsource, htarget, hafter⟩ :=
    disk_of_register hstore hdisk hsuccess
  have hshows := htarget.shows_put (if place = goal then [] else content)
  rw [← hafter] at hshows
  refine ⟨place, content, goal, hsource, htarget.locate, hafter, ?_⟩
  constructor
  · intro hintact
    by_contra hlost
    -- the target is the source and is empty now, so there was nothing in it
    obtain ⟨hsame, hcontent⟩ := not_or.1 hlost
    have hboth := hshows.file.symm.trans hintact.file
    rw [if_pos (not_not.1 hsame)] at hboth
    exact hcontent (Entry.file.inj (Option.some.inj hboth)).symm
  · rintro (hother | hnothing)
    · rwa [if_neg hother] at hshows
    · rwa [hnothing, ite_self, ← hnothing] at hshows

end FilterSetup

namespace Rehearsal

/-- **A machine keeps its filters apart from the disk.** -/
theorem leavesDisk_filterStore {ν : Type} : (filterStore : FilterStore (Machine ν)).LeavesDisk where
  filters h := by rw [(filters_eq_ok h).2]
  loadOrder h := by rw [(loadOrder_eq_ok h).2]
  make h := by rw [← (make_eq_ok_iff.1 h).2]

/-- The server after the filter was put into its store. -/
def serverWith (scripts : String) : World (Machine Unit) :=
  { server "A" [] with host := (((server "A" []).host.changed
    (.put (filterSetup.wanted scripts))).changed (.putLoadOrder "Resin,A")).changed .commit }

/-- A registration into a directory of scripts of its own copies the file. -/
theorem register_copies_scripts :
    (filterSetup.register "/home" "/scripts" (server "A" [])).1.status = .configuredOk ∧
      (filterSetup.register "/home" "/scripts" (server "A" [])).2.disk.Shows
        (filterSetup.target "/scripts") ["scripts", "isapi_srun.dll"] [1] := by
  have hcarry : filterSetup.store.carryOut (filterSetup.registration "/scripts") (server "A" []) =
      (.ok true, serverWith "/scripts") := rfl
  have hstatus : (filterSetup.register "/home" "/scripts" (server "A" [])).1.status =
      .configuredOk := (perform_registration hcarry rfl).1
  obtain ⟨place, content, goal, hsource, hgoal, -, hintact⟩ := FilterSetup.register_copies_iff
    leavesDisk_filterStore wellFormed_serverDisk (.inl hstatus)
  obtain rfl : place = ["home", "win32", "isapi_srun.dll"] :=
    Except.ok.inj (hsource.locate.symm.trans shows_serverDisk.locate)
  obtain rfl : content = [1] := Entry.file.inj
    (Option.some.inj (hsource.file.symm.trans shows_serverDisk.file))
  obtain rfl : goal = ["scripts", "isapi_srun.dll"] :=
    Except.ok.inj (hgoal.symm.trans offers_serverDisk.locate)
  exact ⟨hstatus, hintact.2 (.inl (by decide))⟩

/-- The directory of the scripts is the one that the installation has the file in: the registration
reports success, and the file is empty. -/
theorem register_empties_source :
    serverDisk.WellFormed ∧ (filterStore : FilterStore (Machine Unit)).LeavesDisk ∧
      serverDisk.Shows (filterSetup.source "/home") ["home", "win32", "isapi_srun.dll"] [1] ∧
      (filterSetup.register "/home" "/home/win32" (server "A" [])).1.status = .configuredOk ∧
      (filterSetup.register "/home" "/home/win32" (server "A" [])).2.disk.Shows
        (filterSetup.target "/home/win32") ["home", "win32", "isapi_srun.dll"] [] := by
  have hpath : filterSetup.target "/home/win32" = filterSetup.source "/home" := by decide +kernel
  have htarget : serverDisk.Offers (filterSetup.target "/home/win32")
      ["home", "win32", "isapi_srun.dll"] := by
    rw [hpath]
    exact shows_serverDisk.offers (by decide +kernel)
  have hcopy := shows_serverDisk.copy htarget ⟨rfl, rfl, rfl⟩
  have hcarry : filterSetup.store.carryOut (filterSetup.registration "/home/win32")
      (server "A" []) = (.ok true, serverWith "/home/win32") := rfl
  have hdisk : (serverWith "/home/win32").disk = serverDisk := rfl
  have hstatus : (filterSetup.register "/home" "/home/win32" (server "A" [])).1.status =
      .configuredOk := by
    refine (FilterSetup.register_succeeds_iff true).2 ⟨_, hcarry, ?_⟩
    rw [hdisk, hcopy]
  refine ⟨wellFormed_serverDisk, leavesDisk_filterStore, shows_serverDisk, hstatus, ?_⟩
  rw [FilterSetup.register_of_carryOut hcarry]
  dsimp only
  rw [hdisk, hcopy]
  exact htarget.shows_put []

end Rehearsal

end ServerSetup
