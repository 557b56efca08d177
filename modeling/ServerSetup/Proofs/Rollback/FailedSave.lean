import ServerSetup.Proofs.Disk.Above
import ServerSetup.Proofs.Disk.Discard
import ServerSetup.Proofs.Disk.Footprint
import ServerSetup.Proofs.Rehearsal.States

/-!
# Saves that fail

A state is saved by way of a temporary file. A save that fails, wherever it does, changes nothing
but this file and makes directories, and it leaves no temporary file (`unharmed_of_save`). What is
loaded is what was loaded before, unless the path to it comes by the temporary file, or nothing was
found because the directory was missing. Each of the exceptions occurs (`lost_by_save`).

There are two ways to fail, and they are told apart once (`save_eq_error`): the directory cannot be
made, or the temporary file is given up after a failed attempt to write it or to rename it. From
then on only the outcome matters, and no proof goes through the operations again. That a disk
differs at the temporary file alone is `sameBut_of_save`; it needs that this file is no link, since
writing would follow it. Whether this can be seen from the file of another service depends on the
way there, which is why `Clear` speaks of every place that the path comes by. Between two services
that are no paths it does not come by the temporary file unless their files are links
(`clear_of_plain`).

`Unharmed` collects what a caller may rely on, each with the condition that it needs. The second
half of the module is about disks on which the conditions fail: a link to the temporary file, a name
that is too long, and a directory that cannot be made.
-/

namespace ServerSetup

namespace Rollback.Store

open Disk (FileAt ComesBy LeadsTo)

variable {store : Store} {service other : String} {state : State} {disk disk' : Disk}
  {e : OperationError} {place : Location}

/-- The disk with the directory of the store, which is made as far as it can be. -/
def made (store : Store) (disk : Disk) : Disk := (Disk.ensureDirectory store.directory disk).2

/-- The path of the temporary file of a service. -/
def temporary (store : Store) (service : String) : String := temporaryPath (store.path service)

/-! ### Names of files -/

/-- A temporary file has its own ending, even where the service is a path. -/
theorem exists_temporary_eq (store : Store) (service : String) :
    ∃ front, store.temporary service = front ++ ".tmp" := by
  rw [temporary, temporaryPath]
  split
  · refine ⟨store.path service ++ ".srv", ?_⟩
    rw [String.append_assoc]
    rfl
  · exact ⟨store.path service, rfl⟩

theorem exists_path_eq (store : Store) (service : String) :
    ∃ front, store.path service = front ++ ".srv" := by
  rw [path, Path.join]
  split
  · exact ⟨service, rfl⟩
  · split
    · exact ⟨store.directory ++ service, String.append_assoc.symm⟩
    · exact ⟨store.directory ++ "/" ++ service, String.append_assoc.symm⟩

theorem endsWithSlash_temporary (store : Store) (service : String) :
    Path.endsWithSlash (store.temporary service) = false := by
  obtain ⟨front, hfront⟩ := store.exists_temporary_eq service
  rw [hfront, Path.endsWithSlash]
  simp

/-- A location is named as the path to it ends. -/
theorem exists_eq_append_of_locateSelf {path front ending : String}
    (hpath : path = front ++ ending) (hlength : 2 < ending.toList.length)
    (hslash : '/' ∉ ending.toList) (hlocate : disk.locateSelf path = .ok place) :
    ∃ directory name, place = directory ++ [name ++ ending] := by
  have hne : ending.toList ≠ [] := List.ne_nil_of_length_pos (by omega)
  obtain ⟨above, name, hnames⟩ := Path.exists_names_append front hne hslash
  have hlong : 2 < (name ++ ending).toList.length := by
    rw [String.toList_append, List.length_append]
    omega
  have hdot : name ++ ending ≠ "." := by
    intro h
    rw [h] at hlong
    exact absurd hlong (by decide)
  have hdots : name ++ ending ≠ ".." := by
    intro h
    rw [h] at hlong
    exact absurd hlong (by decide)
  rw [← hpath] at hnames
  obtain ⟨directory, hplace⟩ := Disk.exists_of_locateSelf hnames hdot hdots hlocate
  exact ⟨directory, name, hplace⟩

/-- The file of a service is nowhere where a temporary file is. -/
theorem locateSelf_path_ne {d d' : Disk} (h : d.locateSelf (store.path other) = .ok place) :
    d'.locateSelf (store.temporary service) ≠ .ok place := by
  intro h'
  obtain ⟨front, hpath⟩ := store.exists_path_eq other
  obtain ⟨front', htemporary⟩ := store.exists_temporary_eq service
  obtain ⟨directory, name, rfl⟩ :=
    exists_eq_append_of_locateSelf hpath (by decide) (by decide) h
  obtain ⟨directory', name', hplace⟩ :=
    exists_eq_append_of_locateSelf htemporary (by decide) (by decide) h'
  have hname := List.singleton_inj.1 (List.append_inj' hplace rfl).2
  have hlast := congrArg (fun name : String ↦ name.toList.getLast?) hname
  simp at hlast

/-! ### What is done -/

/-- **A save that fails** either cannot make the directory or gives the temporary file up. -/
theorem save_eq_error (h : store.save state disk = (.error e, disk')) :
    (∃ kind, Disk.ensureDirectory store.directory disk = (.error kind, disk')) ∨
      Disk.ensureDirectory store.directory disk = (.ok (), store.made disk) ∧
        disk' = (store.made disk).giveUp (store.temporary state.serviceName)
          (Text.bytesOf state.document) := by
  rw [save_eq] at h
  rw [made, Disk.giveUp, temporary]
  rcases hensure : Disk.ensureDirectory store.directory disk with ⟨kind | ⟨⟩, disk₁⟩
  · rw [hensure] at h
    cases h
    exact .inl ⟨kind, rfl⟩
  · rw [hensure] at h
    dsimp only at h
    refine .inr ⟨rfl, ?_⟩
    rcases hwrite : Disk.write (temporaryPath (store.path state.serviceName))
      (Text.bytesOf state.document) disk₁ with ⟨kind | ⟨⟩, disk₂⟩
    · rw [hwrite] at h
      cases h
      rfl
    · rw [hwrite] at h
      dsimp only at h ⊢
      split at h
      · next kind disk₃ hrename =>
        cases h
        rw [Disk.eq_of_rename_eq_error hrename]
      · cases h

/-- A save that cannot write removes the temporary file again, as far as this is possible. -/
theorem save_of_write_error {kind : IoKind} {disk₁ disk₂ : Disk}
    (hensure : Disk.ensureDirectory store.directory disk = (.ok (), disk₁))
    (hwrite : Disk.write (store.temporary state.serviceName) (Text.bytesOf state.document) disk₁ =
      (.error kind, disk₂)) :
    store.save state disk = (.error (.io (store.temporary state.serviceName) kind),
      (Disk.remove (store.temporary state.serviceName) disk₂).2) := by
  rw [temporary] at hwrite ⊢
  rw [save_eq, hensure]
  dsimp only
  rw [hwrite]

/-- A save that cannot put the temporary file in place removes it, too. -/
theorem save_of_rename_error {kind : IoKind} {disk₁ disk₂ disk₃ : Disk}
    (hensure : Disk.ensureDirectory store.directory disk = (.ok (), disk₁))
    (hwrite : Disk.write (store.temporary state.serviceName) (Text.bytesOf state.document) disk₁ =
      (.ok (), disk₂))
    (hrename : Disk.rename (store.temporary state.serviceName) (store.path state.serviceName)
      disk₂ = (.error kind, disk₃)) :
    store.save state disk = (.error (.io (store.path state.serviceName) kind),
      (Disk.remove (store.temporary state.serviceName) disk₃).2) := by
  rw [temporary] at hwrite hrename ⊢
  rw [save_eq, hensure]
  dsimp only
  rw [hwrite]
  dsimp only
  rw [hrename]

/-! ### What is loaded -/

/-- The path to the file of a service does not come by the temporary file of another one. -/
def Clear (store : Store) (service other : String) (disk : Disk) : Prop :=
  ∀ place, disk.FileAt (store.temporary service) place → ¬ disk.ComesBy (store.path other) place

/-- Once the directory is made, it holds nothing of the name that the file of a service has; or to
make the directory is not permitted. -/
def Vacant (store : Store) (other : String) (disk : Disk) : Prop :=
  (∃ directory, (store.made disk).LeadsTo store.directory directory ∧
    (store.made disk).tree.get? (directory ++ [fileName other]) = none) ∨
  (Disk.ensureDirectory store.directory disk).1 = .error .permissionDenied

theorem path_eq_join (store : Store) (service : String) :
    store.path service = Path.join store.directory (fileName service) := rfl

theorem load_eq_none_iff : store.load service disk = .ok none ↔
    disk.read (store.path service) = .error .notFound := by
  rw [load_eq, stateIn_eq_ok_none_iff]

/-- The path of a file in the directory leads by the directory. -/
theorem exists_leadsTo_of_temporary (hplain : '/' ∉ service.toList)
    (hlocate : disk.locateSelf (store.temporary service) = .ok place) :
    ∃ directory, disk.LeadsTo store.directory directory ∧
      place = directory ++ [temporaryName service] := by
  rw [temporary, temporaryPath_path hplain] at hlocate
  exact Disk.exists_leadsTo_of_locateSelf (isFileName_temporaryName hplain) hlocate

/-- **In a directory, the path to a file that is no link does not come by a temporary file.** -/
theorem clear_of_plain (hservice : '/' ∉ service.toList) (hother : '/' ∉ other.toList)
    (hlink : disk.NamesNoLink (store.temporary service))
    (hfile : ∀ directory target, disk.LeadsTo store.directory directory →
      disk.tree.get? (directory ++ [fileName other]) ≠ some (.link target)) :
    store.Clear service other disk := by
  intro place hplace hcomes
  have hname := isFileName_fileName hother
  obtain ⟨directory, hleads, hspot⟩ := exists_leadsTo_of_temporary hservice hplace.locate
  have hne (directory' : Location) : place ≠ directory' ++ [fileName other] := by
    rw [hspot]
    intro h
    exact fileName_ne_temporaryName (List.singleton_inj.1 (List.append_inj' h rfl).2).symm
  have hdir : place ≠ directory := by
    rintro rfl
    exact Bool.eq_false_iff.1 hplace.noDirectory hleads.isDirectory
  rw [Disk.ComesBy, path_eq_join] at hcomes
  obtain hlooks | hend := hcomes
  · rw [Path.steps_join hname, Disk.base, Path.isAbsolute_join hname] at hlooks
    -- On the way to the directory there are directories and links, and behind it the file only.
    obtain hthere | ⟨target, htarget⟩ | ⟨left, hlast⟩ :=
      hlooks.cases_append hleads.leads hleads.isDirectory
    · exact Bool.eq_false_iff.1 hplace.noDirectory hthere
    · exact hlink place target hplace.locate htarget
    · obtain hhere | ⟨hdot, -⟩ | ⟨hdots, -⟩ | ⟨-, hfound | ⟨-, target, -, htarget, -⟩ |
        ⟨-, -, -, hbehind⟩⟩ := hlast.cons_cases
      · exact hdir hhere
      · exact hname.dot hdot
      · exact hname.dots hdots
      · exact hne directory hfound
      · exact hfile directory target hleads htarget
      · cases hbehind
  · obtain ⟨directory', -, hend⟩ := Disk.exists_leadsTo_of_locate hname hend hfile
    exact hne directory' hend

/-- What a save for a service leaves when it fails. -/
structure Unharmed (store : Store) (service : String) (disk disk' : Disk) : Prop where
  /-- Nothing has changed but the temporary file and directories that were made. -/
  spares : disk.Spares ((store.made disk).FileAt (store.temporary service)) disk'
  /-- What stood at the path of the file of a service still stands there. -/
  kept : ∀ other place entry, disk.locateSelf (store.path other) = .ok place →
    disk.tree.get? place = some entry → disk'.tree.get? place = some entry
  /-- Where the directory was there, what is loaded is what was loaded before. -/
  load_of_leadsTo : ∀ other directory, store.Clear service other (store.made disk) →
    disk.LeadsTo store.directory directory → store.load other disk' = store.load other disk
  /-- What was found is found, and what failed fails, also where the directory was missing. -/
  load_of_ne_none : ∀ other, store.Clear service other (store.made disk) →
    store.load other disk ≠ .ok none → store.load other disk' = store.load other disk
  /-- Where there is nothing in the directory, nothing was and nothing is loaded. -/
  load_none : ∀ other, Path.Fits store.directory (fileName other) → store.Vacant other disk →
    store.load other disk = .ok none ∧ store.load other disk' = .ok none
  /-- The path to a file in the directory that is no link does not come by the temporary file. -/
  clear : ∀ other, '/' ∉ service.toList → '/' ∉ other.toList →
    (∀ directory target, (store.made disk).LeadsTo store.directory directory →
      (store.made disk).tree.get? (directory ++ [fileName other]) ≠ some (.link target)) →
    store.Clear service other (store.made disk)
  /-- No temporary file is left, unless its removal is refused. -/
  noTemporary : '/' ∉ service.toList ∨ (Disk.ensureDirectory store.directory disk).1 = .ok () →
    (∀ place, (store.made disk).locateSelf (store.temporary service) = .ok place →
      (store.made disk).refuses (.remove place) = none) →
    ∀ place content, disk'.locateSelf (store.temporary service) = .ok place →
      disk'.tree.get? place ≠ some (.file content)

/-- No state is loaded where the directory has no file of the name. -/
theorem load_of_none {directory : Location} (hleads : disk.LeadsTo store.directory directory)
    (hfits : Path.Fits store.directory (fileName other))
    (hnone : disk.tree.get? (directory ++ [fileName other]) = none) :
    store.load other disk = .ok none := by
  have hnoLink (target : String) :
      disk.tree.get? (directory ++ [fileName other]) ≠ some (.link target) := by
    rw [hnone]
    intro hlink
    cases hlink
  rw [load_eq_none_iff, path_eq_join, Disk.read, hleads.locate_of_fits hfits hnoLink]
  dsimp only
  rw [hnone]

/-- Where nothing is found once the directory is made, nothing was found before. -/
theorem load_of_made (hdisk : disk.WellFormed)
    (hnone : store.load other (store.made disk) = .ok none) : store.load other disk = .ok none := by
  rw [load_eq_none_iff] at hnone ⊢
  by_contra hread
  have hgrows := Disk.Grows.ensureDirectory store.directory disk
  exact hread ((hgrows.read_eq hdisk hread).symm.trans hnone)

section

variable (h : store.save state disk = (.error e, disk'))
  (hlink : (store.made disk).NamesNoLink (store.temporary state.serviceName))

include h hlink

/-- A save that fails changes nothing but the temporary file, once the directory is made. -/
theorem sameBut_of_save : (store.made disk).SameBut
    ((store.made disk).FileAt (store.temporary state.serviceName)) disk' := by
  obtain ⟨kind, hensure⟩ | ⟨-, hgiven⟩ := save_eq_error h
  · rw [made, hensure]
    exact ⟨rfl, rfl, fun _ _ ↦ rfl⟩
  · rw [hgiven]
    exact hlink.sameBut_giveUp (store.endsWithSlash_temporary _) _

/-- What is loaded is the same, if the path to it does not come by the temporary file. -/
theorem load_of_save (hclear : store.Clear state.serviceName other (store.made disk)) :
    store.load other disk' = store.load other (store.made disk) := by
  have hsame := sameBut_of_save h hlink
  rw [load_eq, load_eq, Disk.read_congr hsame.workDirectory
    (fun place hcomes ↦ hsame.get? place fun hplace ↦ hclear place hplace hcomes) hsame.refuses]

/-- Where there is nothing in the directory, nothing is loaded after a save that fails. -/
theorem load_of_vacant (hdisk : disk.WellFormed)
    (hfits : Path.Fits store.directory (fileName other)) (hvacant : store.Vacant other disk) :
    store.load other (store.made disk) = .ok none ∧ store.load other disk' = .ok none := by
  obtain ⟨directory, hleads, hnone⟩ | hdenied := hvacant
  · have hsame := sameBut_of_save h hlink
    have hother : ¬ (store.made disk).FileAt (store.temporary state.serviceName)
        (directory ++ [fileName other]) :=
      fun hplace ↦ locateSelf_path_ne (hleads.locateSelf_of_fits hfits) hplace.locate
    have hleads' := hleads.of_extends (hlink.extends hsame) hsame.workDirectory
    exact ⟨load_of_none hleads hfits hnone,
      load_of_none hleads' hfits ((hsame.get? _ hother).trans hnone)⟩
  · obtain ⟨kind, hensure⟩ | ⟨hensure, -⟩ := save_eq_error h
    · have hmade : store.made disk = disk' := by rw [made, hensure]
      have hdisk' : disk'.WellFormed := hmade ▸ hdisk.ensureDirectory store.directory
      rw [hensure] at hdenied
      cases hdenied
      have hlocate := Disk.locate_of_not_permitted hensure hdisk' hfits.isFileName hfits.walkable
      have hload : store.load other disk' = .ok none := by
        rw [load_eq_none_iff, path_eq_join, Disk.read, hlocate]
      rw [hmade]
      exact ⟨hload, hload⟩
    · rw [hensure] at hdenied
      cases hdenied

/-- No temporary file is left, unless its removal is refused. -/
theorem noTemporary_of_save (hplain : '/' ∉ state.serviceName.toList ∨
      (Disk.ensureDirectory store.directory disk).1 = .ok ())
    (hallowed : ∀ place,
      (store.made disk).locateSelf (store.temporary state.serviceName) = .ok place →
        (store.made disk).refuses (.remove place) = none) {content : List UInt8}
    (hlocate : disk'.locateSelf (store.temporary state.serviceName) = .ok place) :
    disk'.tree.get? place ≠ some (.file content) := by
  obtain ⟨kind, hensure⟩ | ⟨-, hgiven⟩ := save_eq_error h
  · -- There is no directory, so nothing can be in it.
    rw [hensure] at hplain
    obtain hplain | hdone := hplain
    · obtain ⟨directory, hleads, -⟩ := exists_leadsTo_of_temporary hplain hlocate
      have hname := isFileName_temporaryName hplain
      rw [temporary, temporaryPath_path hplain] at hlocate
      have hpath : ¬ store.directory.isEmpty = true := by
        intro hempty
        rw [Disk.ensureDirectory, if_pos hempty] at hensure
        cases hensure
      have hwalkable := (Disk.walkable_of_locateSteps hlocate).of_join hname hpath
      exact absurd hleads (Disk.not_leadsTo_of_ensureDirectory hwalkable hensure)
    · cases hdone
  · rw [hgiven] at hlocate ⊢
    exact hlink.noFile_giveUp (store.endsWithSlash_temporary _) hallowed hlocate

/-- **A save that fails loses nothing,** whatever it fails at and whatever the disk holds. -/
theorem unharmed_of_save (hdisk : disk.WellFormed) :
    store.Unharmed state.serviceName disk disk' where
  spares := by
    have hsame := sameBut_of_save h hlink
    exact (Disk.KeepsTo.ensureDirectory store.directory disk).spares.trans
      fun l hl ↦ .inl (hsame.get? l hl)
  kept other place entry hlocate hentry := by
    have hgrows := Disk.Grows.ensureDirectory store.directory disk
    rw [(sameBut_of_save h hlink).get? place fun hplace ↦
      locateSelf_path_ne hlocate hplace.locate]
    exact hgrows.get? place entry hentry
  load_of_leadsTo other directory hclear hleads := by
    have hmade : store.made disk = disk := hleads.eq_of_ensureDirectory rfl
    rw [load_of_save h hlink hclear, hmade]
  load_of_ne_none other hclear hload := by
    have hgrows := Disk.Grows.ensureDirectory store.directory disk
    have hread : disk.read (store.path other) ≠ .error .notFound := load_eq_none_iff.not.1 hload
    rw [load_of_save h hlink hclear, load_eq, load_eq, made, hgrows.read_eq hdisk hread]
  load_none other hfits hvacant := by
    obtain ⟨hmade, hdone⟩ := load_of_vacant h hlink hdisk hfits hvacant
    exact ⟨load_of_made hdisk hmade, hdone⟩
  clear other hservice hother hfile := clear_of_plain hservice hother hlink hfile
  noTemporary hplain hallowed place content hlocate :=
    noTemporary_of_save h hlink hplain hallowed hlocate

end

end Rollback.Store

namespace Rehearsal

open Rollback (Store)

/-- The temporary file of a service named `web` has an acceptable name. -/
theorem fits_temporary : Path.Fits "/state" (Store.temporaryName "web") := by decide

theorem temporary_web :
    manager.store.temporary "web" = Path.join "/state" (Store.temporaryName "web") :=
  Store.temporaryPath_path (by decide)

section

variable {d : Disk} (hstate : d.tree.get? ["state"] = some .directory)

include hstate

theorem locateSelf_temporary :
    d.locateSelf (manager.store.temporary "web") = .ok ["state", "web.srv.tmp"] := by
  rw [temporary_web]
  exact (leadsTo_state hstate).locateSelf_of_fits fits_temporary

theorem locate_temporary
    (hlink : ∀ target, d.tree.get? ["state", "web.srv.tmp"] ≠ some (.link target)) :
    d.locate (manager.store.temporary "web") = .ok ["state", "web.srv.tmp"] := by
  rw [temporary_web]
  exact (leadsTo_state hstate).locate_of_fits fits_temporary hlink

theorem ensureDirectory_of_state :
    Disk.ensureDirectory manager.store.directory d = (.ok (), d) :=
  (leadsTo_state hstate).ensureDirectory_of_fits fits_temporary

/-- The temporary file is no link if there is none in its place. -/
theorem namesNoLink_temporary
    (hlink : ∀ target, d.tree.get? ["state", "web.srv.tmp"] ≠ some (.link target)) :
    (manager.store.made d).NamesNoLink (manager.store.temporary "web") := by
  rw [Store.made, ensureDirectory_of_state hstate]
  intro place target hplace
  rw [locateSelf_temporary hstate] at hplace
  rw [← Except.ok.inj hplace]
  exact hlink target

end

/-- A disk to which nothing can be written, with a file for a service named `web`. -/
def fullDisk (content : List UInt8) : Disk :=
  { diskWith [("web.srv", content)] with
    refuses := fun
      | .write _ => some .permissionDenied
      | _ => none }

/-- A disk to which nothing can be written is left as it was. -/
theorem save_full {state : Rollback.State} (hname : state.serviceName = "web")
    (content : List UInt8) : manager.store.save state (fullDisk content) =
      (.error (.io (manager.store.temporary "web") .permissionDenied), fullDisk content) := by
  have hslash := manager.store.endsWithSlash_temporary "web"
  have hwrite : Disk.write (manager.store.temporary "web") (Text.bytesOf state.document)
      (fullDisk content) = (.error .permissionDenied,
        { fullDisk content with
          tree := (fullDisk content).tree.put ["state", "web.srv.tmp"] (.file []) }) := by
    rw [Disk.write_eq, Disk.create_eq hslash, locate_temporary rfl fun _ h ↦ by cases h]
    rfl
  rw [← hname] at hwrite hslash
  rw [Store.save_of_write_error (ensureDirectory_of_state rfl) hwrite, Disk.remove_eq, hslash,
    hname, locateSelf_temporary rfl]
  rfl

/-- A state is on file, and another one cannot be written to the temporary file. -/
theorem unharmed_web :
    let disk := fullDisk (Text.bytesOf webState.document)
    manager.store.save webState disk =
        (.error (.io (manager.store.temporary "web") .permissionDenied), disk) ∧
      manager.store.Unharmed "web" disk disk := by
  intro disk
  have hsave : manager.store.save webState disk =
      (.error (.io (manager.store.temporary "web") .permissionDenied), disk) := save_full rfl _
  have hlink := @namesNoLink_temporary disk rfl fun _ h ↦ by cases h
  have hdisk : disk.WellFormed := ⟨FileTree.wellFormed_of_forall (by decide), rfl⟩
  exact ⟨hsave, Store.unharmed_of_save hsave hlink hdisk⟩

/-! ### What may be lost -/

/-- A disk on which the file of a service named `api` is a link to the temporary file of the one
named `web`, in whose own place there is a directory. -/
def aliasDisk (content : List UInt8) : Disk where
  tree := ⟨[(["state"], .directory), (["state", "web.srv"], .directory),
    (["state", "web.srv.tmp"], .file content), (["state", "api.srv"], .link "web.srv.tmp")]⟩
  workDirectory := []

/-- What a save that fails leaves of it. -/
def brokenDisk : Disk where
  tree := ⟨[(["state"], .directory), (["state", "web.srv"], .directory),
    (["state", "api.srv"], .link "web.srv.tmp")]⟩
  workDirectory := []

/-- The path follows the link. -/
theorem locate_api {d : Disk} {name : String} (hstate : d.tree.get? ["state"] = some .directory)
    (hlink : d.tree.get? ["state", "api.srv"] = some (.link name))
    (hname : Path.isAbsolute name = false ∧ Path.steps name = [name])
    (hlast : d.tree.Leads true 39 ["state"] [name] ["state", name]) :
    d.locate (manager.store.path "api") = .ok ["state", name] := by
  have hsteps : Path.steps (manager.store.path "api") = ["state", "api.srv"] := by decide
  have hbase : d.base (manager.store.path "api") = [] := if_pos (by decide)
  have hwalkable : Disk.Walkable (manager.store.path "api") := by decide +kernel
  have hroot : d.tree.Enters [] "state" := ⟨rfl, by decide, by decide, by decide⟩
  have hdir : d.tree.Enters ["state"] "api.srv" :=
    ⟨FileTree.isDirectory_iff.2 hstate, by decide, by decide, by decide⟩
  rw [Disk.locate, hwalkable.locateSteps_eq, hsteps, hbase,
    FileTree.walk_through hroot hstate fun _ ↦ Entry.noConfusion, FileTree.maxLinks]
  refine (FileTree.walk_jump hdir hlink (.inr rfl)).trans ?_
  rw [hname.1, hname.2]
  exact FileTree.walk_eq_ok_iff.2 hlast

/-- The state is loaded by way of the temporary file. -/
theorem load_aliasDisk {state : Rollback.State} (hdated : state.recordedAt.Valid)
    (hversion : ¬ Rollback.State.currentVersion < state.schemaVersion) :
    manager.store.load "api" (aliasDisk (Text.bytesOf state.document)) = .ok (some state) := by
  have hlocate : (aliasDisk (Text.bytesOf state.document)).locate (manager.store.path "api") =
      .ok ["state", "web.srv.tmp"] :=
    locate_api rfl rfl (by decide)
      (.through ⟨rfl, by decide, by decide, by decide⟩ rfl (fun _ ↦ Entry.noConfusion) (.here ..))
  have hread : (aliasDisk (Text.bytesOf state.document)).read (manager.store.path "api") =
      .ok (Text.bytesOf state.document) := by
    rw [Disk.read, hlocate]
    rfl
  simp only [Store.load, hread, Rollback.State.ofBytes?_document hdated, if_neg hversion]

/-- Nothing is loaded for the other service. -/
theorem load_brokenDisk : manager.store.load "api" brokenDisk = .ok none := by
  have hlocate : brokenDisk.locate (manager.store.path "api") = .ok ["state", "web.srv.tmp"] :=
    locate_api rfl rfl (by decide) (.missing ⟨rfl, by decide, by decide, by decide⟩ rfl)
  rw [Store.load_eq_none_iff, Disk.read, hlocate]
  rfl

/-- The temporary file is emptied and written, cannot take the place of a directory, and is
removed. -/
theorem save_aliasDisk {state : Rollback.State} (hname : state.serviceName = "web")
    (content : List UInt8) : manager.store.save state (aliasDisk content) =
      (.error (.io (manager.store.path "web") .isADirectory), brokenDisk) := by
  have hslash := manager.store.endsWithSlash_temporary "web"
  let written : Disk :=
    { aliasDisk content with
      tree := (aliasDisk content).tree.put ["state", "web.srv.tmp"]
        (.file (Text.bytesOf state.document)) }
  have hwrite : Disk.write (manager.store.temporary "web") (Text.bytesOf state.document)
      (aliasDisk content) = (.ok (), written) := by
    rw [Disk.write_eq, Disk.create_eq hslash, locate_temporary rfl fun _ h ↦ by cases h]
    rfl
  have hfits : Path.Fits "/state" (Store.fileName "web") := by decide
  have hgoal : written.locateSelf (manager.store.path "web") = .ok ["state", "web.srv"] :=
    (leadsTo_state rfl).locateSelf_of_fits hfits
  have hrename : Disk.rename (manager.store.temporary "web") (manager.store.path "web") written =
      (.error .isADirectory, written) := by
    rw [Disk.rename_eq, locateSelf_temporary rfl, hgoal]
    rfl
  rw [← hname] at hwrite hrename hslash
  rw [Store.save_of_rename_error (ensureDirectory_of_state rfl) hwrite hrename, Disk.remove_eq,
    hslash, hname, locateSelf_temporary rfl]
  rfl

/-- A name that is too long for a file is not found, and this is not because it is missing. -/
theorem locate_of_long {files : List (String × List UInt8)} {name : String}
    (hname : Path.IsFileName name) (hlong : FileTree.maxNameBytes < name.utf8ByteSize) :
    (∃ kind, (diskWith files).locate (Path.join "/state" name) = .error kind ∧
      kind ≠ .notFound) ∧
      ∃ kind, (diskWith files).locateSelf (Path.join "/state" name) = .error kind := by
  have hlost (follow : Bool) : ∃ kind, (diskWith files).locateSteps follow
      (Path.join "/state" name) (Path.names "/state" ++ [name]) = .error kind ∧
        kind ≠ .notFound := by
    rw [(holds_diskWith files).locateSteps_eq hname]
    split
    · exact ⟨_, rfl, IoKind.noConfusion⟩
    · exact ⟨_, if_pos (.inr hlong), IoKind.noConfusion⟩
  rw [Disk.locate, Disk.locateSelf, Path.steps_join hname, Path.names_join hname]
  obtain ⟨kind, hself, -⟩ := hlost false
  exact ⟨hlost true, kind, hself⟩

/-- Where there is nothing, nothing is found in a directory. -/
theorem locate_of_bare {name : String} (hname : Path.IsFileName name)
    (hwalkable : Disk.Walkable (Path.join "/state" name)) :
    Disk.locate { tree := .empty, workDirectory := [] } (Path.join "/state" name) =
      .error .notFound := by
  have hnames : Path.names "/state" = ["state"] := by decide
  have hbase : Disk.base { tree := .empty, workDirectory := [] } (Path.join "/state" name) = [] :=
    ite_self _
  have hroot : FileTree.empty.Enters [] "state" := ⟨rfl, by decide, by decide, by decide⟩
  rw [Disk.locate, hwalkable.locateSteps_eq, hbase, Path.steps_join hname, hnames]
  exact FileTree.walk_missing hroot rfl

section long

variable {service : String} (hplain : '/' ∉ service.toList)

include hplain

/-- Nothing is found for a name that is too long for a file as long as the directory is missing. -/
theorem load_of_bare (hwalkable : Disk.Walkable (manager.store.path service)) :
    manager.store.load service { tree := .empty, workDirectory := [] } = .ok none := by
  have hpath : manager.store.path service = Path.join "/state" (Store.fileName service) := rfl
  rw [hpath] at hwalkable
  rw [Store.load_eq_none_iff, Disk.read, hpath,
    locate_of_bare (Store.isFileName_fileName hplain) hwalkable]

/-- Where the directory is there, it is found to be too long. -/
theorem load_of_long (hlong : FileTree.maxNameBytes < (Store.fileName service).utf8ByteSize)
    (files : List (String × List UInt8)) :
    manager.store.load service (diskWith files) ≠ .ok none := by
  obtain ⟨⟨kind, hlocate, hkind⟩, -⟩ :=
    @locate_of_long files _ (Store.isFileName_fileName hplain) hlong
  have hpath : manager.store.path service = Path.join "/state" (Store.fileName service) := rfl
  rw [Ne, Store.load_eq_none_iff, Disk.read, hpath, hlocate]
  exact fun h ↦ hkind (Except.error.inj h)

end long

/-- When a state is to be saved for such a name, the directory is made. -/
theorem save_of_long {state : Rollback.State} (hplain : '/' ∉ state.serviceName.toList)
    (hlong : FileTree.maxNameBytes < (Store.fileName state.serviceName).utf8ByteSize)
    (hwalkable : Disk.Walkable (manager.store.path state.serviceName)) :
    manager.store.load state.serviceName { tree := .empty, workDirectory := [] } = .ok none ∧
      (∃ e, manager.store.save state { tree := .empty, workDirectory := [] } =
        (.error e, diskWith [])) ∧
      manager.store.load state.serviceName (diskWith []) ≠ .ok none := by
  refine ⟨load_of_bare hplain hwalkable, ?_, load_of_long hplain hlong []⟩
  have htemporary : manager.store.temporary state.serviceName =
      Path.join "/state" (Store.temporaryName state.serviceName) :=
    Store.temporaryPath_path hplain
  have hlong' : FileTree.maxNameBytes < (Store.temporaryName state.serviceName).utf8ByteSize := by
    rw [Store.temporaryName, String.utf8ByteSize_append]
    omega
  obtain ⟨⟨kind, hlocate, -⟩, kind', hself⟩ :=
    @locate_of_long [] _ (Store.isFileName_temporaryName hplain) hlong'
  have hslash := manager.store.endsWithSlash_temporary state.serviceName
  rw [← htemporary] at hlocate hself
  have hwrite : Disk.write (manager.store.temporary state.serviceName)
      (Text.bytesOf state.document) (diskWith []) = (.error kind, diskWith []) := by
    rw [Disk.write_eq, Disk.create_eq hslash, hlocate]
  have hsave :=
    @Store.save_of_write_error manager.store state _ _ _ _ ensureDirectory_state hwrite
  rw [Disk.remove_eq, hself] at hsave
  exact ⟨_, hsave⟩

/-- A disk with a file in the place of the directory, and a temporary file elsewhere. -/
def blockedDisk : Disk where
  tree := ⟨[(["state"], .file []), (["web.srv.tmp"], .file [])]⟩
  workDirectory := []

theorem locateSteps_blockedDisk {path name : String} (hwalkable : Disk.Walkable path)
    (habsolute : Path.isAbsolute path = true) (hname : blockedDisk.tree.Enters [] name)
    (hentry : blockedDisk.tree.get? [name] = some (.file [])) (follow : Bool) :
    blockedDisk.locateSteps follow path [name] = .ok [name] := by
  rw [hwalkable.locateSteps_eq, Disk.base, if_pos habsolute, FileTree.walk_eq_ok_iff]
  exact .through hname hentry (fun _ ↦ Entry.noConfusion) (.here ..)

/-- Where the directory cannot be made, a temporary file elsewhere is not removed. -/
theorem save_blockedDisk (state : Rollback.State) :
    manager.store.save state blockedDisk = (.error (.io "/state" .alreadyExists), blockedDisk) ∧
      blockedDisk.locateSelf (manager.store.temporary "/web") = .ok ["web.srv.tmp"] := by
  constructor
  · have hnames : Path.names "/state" = ["state"] := by decide
    have hsteps : Path.steps "/state" = ["state"] := by decide
    have hstate := @locateSteps_blockedDisk "/state" "state"
      (by decide +kernel) (by decide)
      ⟨rfl, by decide, by decide, by decide⟩ rfl
    have hmake : Disk.makeDirectory "/state" blockedDisk =
        (.error .alreadyExists, blockedDisk) := by
      rw [Disk.makeDirectory_eq, Disk.locateSelf, hnames, hstate]
      rfl
    have hdir : blockedDisk.isDirectory "/state" = false := by
      rw [Disk.isDirectory, Disk.find?, Disk.locate, hsteps, hstate]
      rfl
    have hensure : Disk.ensureDirectory manager.store.directory blockedDisk =
        (.error .alreadyExists, blockedDisk) := by
      show Disk.ensureDirectory "/state" blockedDisk = _
      rw [Disk.ensureDirectory, if_neg (by decide), Disk.ensureUpwards_cons_eq, hmake]
      dsimp only
      rw [if_neg IoKind.noConfusion, hdir, if_neg Bool.false_ne_true]
    rw [Store.save_eq, hensure]
    rfl
  · have htemporary : manager.store.temporary "/web" = "/web.srv.tmp" := by decide +kernel
    have hnames : Path.names "/web.srv.tmp" = ["web.srv.tmp"] := by decide
    rw [htemporary, Disk.locateSelf, hnames]
    exact locateSteps_blockedDisk (by decide +kernel)
      (by decide) ⟨rfl, by decide, by decide, by decide⟩ rfl false

/-- A state of a service. -/
def stateOf (service : String) : Rollback.State := .new (.ofNat 1) .epoch service .localSystem

/-- A name of a given length. -/
def nameOfLength (n : Nat) : String := String.ofList (List.replicate n 'x')

section nameOfLength

variable {n : Nat}

/-- The name has the length that was asked for. -/
theorem utf8ByteSize_nameOfLength : (nameOfLength n).utf8ByteSize = n := by
  rw [nameOfLength, String.utf8ByteSize_ofList]
  induction n with
  | zero => rfl
  | succ n ih =>
    rw [List.replicate_succ, String.utf8Len_cons, ih]
    rfl

theorem not_mem_nameOfLength {c : Char} (hc : c ≠ 'x') : c ∉ (nameOfLength n).toList := by
  rw [nameOfLength, String.toList_ofList]
  exact fun hmem ↦ hc (List.eq_of_mem_replicate hmem)

/-- The path of its file can be followed, if it is not too long as a whole. -/
theorem walkable_nameOfLength (hn : n ≤ 4000) :
    Disk.Walkable (manager.store.path (nameOfLength n)) := by
  have hplain : '/' ∉ (nameOfLength n).toList := not_mem_nameOfLength (by decide)
  have hnul : '\x00' ∉ (nameOfLength n).toList := not_mem_nameOfLength (by decide)
  have hname := Store.isFileName_fileName hplain
  have hhead : (Store.fileName (nameOfLength n)).toList.head? ≠ some '/' :=
    fun hhead ↦ hname.noSlash (List.mem_of_head? hhead)
  have hpath : manager.store.path (nameOfLength n) = "/state/" ++ (nameOfLength n ++ ".srv") := by
    show Path.join "/state" (Store.fileName (nameOfLength n)) = _
    rw [Path.join, if_neg hhead]
    rfl
  refine ⟨?_, ?_, ?_⟩
  · rw [hpath, List.contains_iff_mem, String.toList_append, String.toList_append, List.mem_append,
      List.mem_append, not_or, not_or]
    exact ⟨by decide, hnul, by decide⟩
  · rw [Store.path_eq_join, Path.isEmpty_join hname]
    exact Bool.false_ne_true
  · rw [hpath, String.utf8ByteSize_append, String.utf8ByteSize_append, utf8ByteSize_nameOfLength]
    have hends : "/state/".utf8ByteSize + ".srv".utf8ByteSize < 95 := by decide
    rw [Disk.maxPathBytes]
    omega

end nameOfLength

/-- **What a save that fails may lose.** A state is lost that is on file at the temporary file of
another service, by way of a link; a name that was only not found is too long, once the directory is
made; and where this cannot be made, a temporary file elsewhere is left. -/
theorem lost_by_save :
    ((manager.store.made (aliasDisk (Text.bytesOf (stateOf "api").document))).NamesNoLink
        (manager.store.temporary "web") ∧
      manager.store.load "api" (aliasDisk (Text.bytesOf (stateOf "api").document)) =
        .ok (some (stateOf "api")) ∧
      manager.store.save (stateOf "web") (aliasDisk (Text.bytesOf (stateOf "api").document)) =
        (.error (.io (manager.store.path "web") .isADirectory), brokenDisk) ∧
      manager.store.load "api" brokenDisk = .ok none) ∧
    (manager.store.load (nameOfLength 252) { tree := .empty, workDirectory := [] } = .ok none ∧
      (∃ e, manager.store.save (stateOf (nameOfLength 252))
        { tree := .empty, workDirectory := [] } = (.error e, diskWith [])) ∧
      manager.store.load (nameOfLength 252) (diskWith []) ≠ .ok none) ∧
    manager.store.save (stateOf "/web") blockedDisk =
        (.error (.io "/state" .alreadyExists), blockedDisk) ∧
      blockedDisk.locateSelf (manager.store.temporary "/web") = .ok ["web.srv.tmp"] ∧
      blockedDisk.tree.get? ["web.srv.tmp"] = some (.file []) ∧
      blockedDisk.refuses (.remove ["web.srv.tmp"]) = none := by
  have hlink := @namesNoLink_temporary (aliasDisk (Text.bytesOf (stateOf "api").document)) rfl
    fun _ h ↦ by cases h
  have hload := @load_aliasDisk (stateOf "api") (by decide) (by decide)
  have hsave := @save_aliasDisk (stateOf "web") rfl (Text.bytesOf (stateOf "api").document)
  have hlong : FileTree.maxNameBytes < (Store.fileName (nameOfLength 252)).utf8ByteSize := by
    rw [Store.fileName, String.utf8ByteSize_append, utf8ByteSize_nameOfLength]
    decide
  have hmade := @save_of_long (stateOf (nameOfLength 252)) (not_mem_nameOfLength (by decide)) hlong
    (walkable_nameOfLength (by decide))
  obtain ⟨hblocked, hplace⟩ := save_blockedDisk (stateOf "/web")
  exact ⟨⟨hlink, hload, hsave, load_brokenDisk⟩, hmade, hblocked, hplace, rfl, rfl⟩

end Rehearsal

end ServerSetup
