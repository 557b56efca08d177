import ServerSetup.Proofs.Disk.Discard
import ServerSetup.Proofs.Disk.Footprint
import ServerSetup.Proofs.Disk.Inside
import ServerSetup.Proofs.Rollback.Calls

/-!
# The files that a store keeps to

A service name without a slash gives a file and a temporary file directly in the directory of the
store. If neither is a link, saving, loading and removing keeps to what is directly in the
directory. A name with a slash in it is a path, and leads anywhere.

`Store.Confined` collects what this needs of the disk: everything directly in the directory is among
the locations in question, and the two names lead to no link. Each operation is then a lemma: its
effect is the same on two disks that look alike at these locations (`Disk.KeepsTo`,
`Disk.LooksLike`), and it changes nothing elsewhere. Saving makes the directory first, which may
make directories above it, so the conditions are put on the disk after that and carried back by the
fact that directories are only added (`Confined.of_grows`).

Links matter because reading and writing follow them: what is written to a link goes wherever it
points. Renaming and removing work on the name itself, so for these a service name without a slash
is enough.
-/

namespace ServerSetup

namespace Rollback.Store

variable {store : Store} {service : String} {state : State} {within : Location → Prop}
  {disk disk' : Disk} {place : Location}

open Disk (KeepsTo LeadsTo)

/-- Neither the file of a service nor the temporary file is a link. -/
def LinkFree (store : Store) (service : String) (disk : Disk) : Prop :=
  ∀ directory name target, disk.LeadsTo store.directory directory →
    name = fileName service ∨ name = temporaryName service →
      disk.tree.get? (directory ++ [name]) ≠ some (.link target)

/-- There is no link among files. -/
theorem linkFree_of_holds {files : String → Option (List UInt8)}
    (h : disk.Holds store.directory place files) : store.LinkFree service disk := by
  intro directory name target hleads _
  rw [hleads.unique h.leadsTo]
  exact h.noLink target

/-- What is directly in the directory of the store is among the given locations, and neither the
file of a service nor the temporary file is a link. -/
structure Confined (store : Store) (service : String) (within : Location → Prop) (disk : Disk) :
    Prop where
  children : ∀ directory name, disk.LeadsTo store.directory directory →
    within (directory ++ [name])
  noLink : store.LinkFree service disk

/-- What is answered by how a file was removed. -/
def removed (path : String) : Except IoKind Unit → Except OperationError Bool
  | .ok () => .ok true
  | .error .notFound => .ok false
  | .error kind => .error (.io path kind)

/-- Removing a state removes its file, and a file that was not found is no error. -/
theorem remove_eq (service : String) : store.remove service = fun disk ↦
    (removed (store.path service) (Disk.remove (store.path service) disk).1,
      (Disk.remove (store.path service) disk).2) := by
  funext disk
  rw [Store.remove]
  rcases Disk.remove (store.path service) disk with ⟨kind | ⟨⟩, disk'⟩
  · cases kind <;> rfl
  · rfl

namespace Confined

/-- A store that is confined on a disk with more directories is confined before they were made. -/
theorem of_grows (h : store.Confined service within disk') (hgrows : disk.Grows disk') :
    store.Confined service within disk where
  children directory name hleads := h.children directory name (hleads.of_grows hgrows)
  noLink directory name target hleads hname hlink :=
    h.noLink directory name target (hleads.of_grows hgrows) hname (hgrows.get? _ _ hlink)

section

variable (h : store.Confined service within disk) (hplain : '/' ∉ service.toList)

include h hplain

/-- The file of the service is at one of the locations. -/
theorem locateSelf_path (hlocate : disk.locateSelf (store.path service) = .ok place) :
    within place := by
  obtain ⟨directory, hleads, rfl⟩ :=
    Disk.exists_leadsTo_of_locateSelf (isFileName_fileName hplain) hlocate
  exact h.children directory _ hleads

/-- This is so where a link at the end of its path is followed, as there is none. -/
theorem locate_path (hlocate : disk.locate (store.path service) = .ok place) : within place := by
  obtain ⟨directory, hleads, rfl⟩ :=
    Disk.exists_leadsTo_of_locate (isFileName_fileName hplain) hlocate
      fun directory target hleads ↦ h.noLink directory _ target hleads (.inl rfl)
  exact h.children directory _ hleads

/-- The temporary file is at one of the locations. -/
theorem locateSelf_temporaryPath
    (hlocate : disk.locateSelf (temporaryPath (store.path service)) = .ok place) :
    within place := by
  rw [temporaryPath_path hplain] at hlocate
  obtain ⟨directory, hleads, rfl⟩ :=
    Disk.exists_leadsTo_of_locateSelf (isFileName_temporaryName hplain) hlocate
  exact h.children directory _ hleads

/-- What the temporary path leads to is directly in the directory of the store. -/
theorem exists_leadsTo_of_locate
    (hlocate : disk.locate (temporaryPath (store.path service)) = .ok place) :
    ∃ directory, disk.LeadsTo store.directory directory ∧
      place = directory ++ [temporaryName service] := by
  rw [temporaryPath_path hplain] at hlocate
  exact Disk.exists_leadsTo_of_locate (isFileName_temporaryName hplain) hlocate
    fun directory target hleads ↦ h.noLink directory _ target hleads (.inr rfl)

/-- What is written to the temporary file is no link. -/
theorem write (content : List UInt8) : store.Confined service within
    (Disk.write (temporaryPath (store.path service)) content disk).2 := by
  have hslash : Path.endsWithSlash (temporaryPath (store.path service)) = false := by
    rw [temporaryPath_path hplain]
    exact Path.endsWithSlash_join (isFileName_temporaryName hplain)
  obtain hsame | ⟨place, written, hlocate, -, hwritten⟩ := @Disk.write_cases disk _ content hslash
  · rwa [hsame]
  · rw [hwritten]
    -- The directories and links are those that were there before.
    have hold {l : Location} {entry : Entry} (hfile : ∀ content, entry ≠ .file content)
        (hentry : (disk.tree.put place (.file written)).get? l = some entry) :
        disk.tree.get? l = some entry := by
      rw [FileTree.get?_put] at hentry
      split at hentry
      · exact absurd (Option.some.inj hentry).symm (hfile written)
      · exact hentry
    have hleads {directory : Location} (hleads : Disk.LeadsTo
        { disk with tree := disk.tree.put place (.file written) } store.directory directory) :
        disk.LeadsTo store.directory directory :=
      hleads.of_extends (fun _ _ hentry hfile ↦ hold hfile hentry) rfl
    refine ⟨fun directory name hdir ↦ h.children directory name (hleads hdir), ?_⟩
    intro directory name target hdir hname hlink
    exact h.noLink directory name target (hleads hdir) hname
      (hold (fun _ ↦ Entry.noConfusion) hlink)

end

theorem keepsTo_remove (h : store.Confined service within disk) (hplain : '/' ∉ service.toList) :
    KeepsTo within (store.remove service) disk := by
  rw [remove_eq]
  exact (KeepsTo.remove fun _ ↦ h.locateSelf_path hplain).map (removed (store.path service))

/-- The file is read alike on two disks that look alike at the locations. -/
theorem read_eq (h : store.Confined service within disk) (hplain : '/' ∉ service.toList)
    (hlike : disk.LooksLike within disk') :
    disk'.read (store.path service) = disk.read (store.path service) :=
  hlike.read_eq fun _ ↦ h.locate_path hplain

/-- A state is loaded alike on two disks that look alike at the locations. -/
theorem load_eq (h : store.Confined service within disk) (hplain : '/' ∉ service.toList)
    (hlike : disk.LooksLike within disk') : store.load service disk' = store.load service disk := by
  rw [Store.load, Store.load, h.read_eq hplain hlike]

/-- A step on the temporary file, after whose failure this is discarded. -/
theorem keepsTo_tryDiscard {path : String} {op : DiskM Unit} (hop : KeepsTo within op disk)
    (hplain : '/' ∉ service.toList) (hfailed : ∀ kind disk', op disk = (.error kind, disk') →
      store.Confined service within disk') :
    KeepsTo within (tryCatch (onFile path op) fun e ↦ do
      discard (temporaryPath (store.path service))
      throw e) disk := by
  rw [onFile_eq]
  refine (hop.map (Except.mapError (OperationError.io path))).tryCatch fun e disk₁ hrun ↦ ?_
  have hconfined : store.Confined service within disk₁ := by
    rcases hresult : op disk with ⟨kind | ⟨⟩, disk₂⟩
    · rw [hresult] at hrun
      cases hrun
      exact hfailed kind disk₂ hresult
    · rw [hresult] at hrun
      cases hrun
  have hdiscard : KeepsTo within (discard (temporaryPath (store.path service))) disk₁ :=
    (KeepsTo.remove fun _ ↦ hconfined.locateSelf_temporaryPath hplain).map fun _ ↦ Except.ok ()
  exact hdiscard.bind fun _ _ _ ↦ KeepsTo.answer _

/-- Saving a state keeps to the locations, once the directory was made. -/
theorem keepsTo_save (h : store.Confined state.serviceName within
      (Disk.ensureDirectory store.directory disk).2) (hplain : '/' ∉ state.serviceName.toList) :
    KeepsTo within (store.save state) disk := by
  have hslash : Path.endsWithSlash (temporaryPath (store.path state.serviceName)) = false := by
    rw [temporaryPath_path hplain]
    exact Path.endsWithSlash_join (isFileName_temporaryName hplain)
  -- Along the steps of saving: the directory, the temporary file, the renaming. Each is confined
  -- on the disk that the step before leaves.
  refine KeepsTo.bind ?_ fun _ disk₁ hensure ↦ ?_
  · rw [onFile_eq]
    exact (KeepsTo.ensureDirectory store.directory disk).map
      (Except.mapError (OperationError.io store.directory))
  · rw [onFile_eq_ok_iff] at hensure
    rw [hensure] at h
    have hwrite (content : List UInt8) : KeepsTo within
        (Disk.write (temporaryPath (store.path state.serviceName)) content) disk₁ :=
      KeepsTo.write hslash fun place hlocate ↦ by
        obtain ⟨directory, hleads, rfl⟩ := h.exists_leadsTo_of_locate hplain hlocate
        exact h.children directory _ hleads
    refine KeepsTo.bind (keepsTo_tryDiscard (hwrite _) hplain fun kind disk' hfailed ↦ ?_)
      fun _ disk₂ hwritten ↦ ?_
    · have hconfined := h.write hplain (Text.bytesOf state.document)
      rwa [hfailed] at hconfined
    · rw [tryDiscard_eq_ok_iff, onFile_eq_ok_iff] at hwritten
      have hconfined := h.write hplain (Text.bytesOf state.document)
      rw [hwritten] at hconfined
      have hrename : KeepsTo within (Disk.rename
          (temporaryPath (store.path state.serviceName)) (store.path state.serviceName)) disk₂ :=
        KeepsTo.rename (fun _ ↦ hconfined.locateSelf_temporaryPath hplain)
          fun _ ↦ hconfined.locateSelf_path hplain
      refine KeepsTo.bind (keepsTo_tryDiscard hrename hplain fun kind disk' hfailed ↦ ?_)
        fun _ disk₃ _ ↦ KeepsTo.answer _
      rwa [Disk.eq_of_rename_eq_error hfailed]

end Confined

/-- What is directly in the directory of the store, once this is made. -/
def Within (store : Store) (disk : Disk) : Location → Prop :=
  (Disk.ensureDirectory store.directory disk).2.DirectlyIn store.directory

/-- A store without links is confined to its directory and what is directly in it. -/
theorem LinkFree.confined
    (h : store.LinkFree service (Disk.ensureDirectory store.directory disk).2) :
    store.Confined service (store.Within disk) (Disk.ensureDirectory store.directory disk).2 where
  children directory name hleads := ⟨directory, name, hleads, rfl⟩
  noLink := h

/-- **A call about a service keeps to what is directly in the directory of the store.** -/
theorem LinkFree.keepsTo_perform {call : StoreCall}
    (h : store.LinkFree call.service (Disk.ensureDirectory store.directory disk).2)
    (hplain : '/' ∉ call.service.toList) :
    KeepsTo (store.Within disk) (store.perform call) disk := by
  have hmade := h.confined
  have hnow := hmade.of_grows (Disk.Grows.ensureDirectory store.directory disk)
  cases call with
  | save state => exact (hmade.keepsTo_save hplain).map StoreAnswer.saved
  | load service =>
    refine ⟨.refl _ disk, fun disk' hlike ↦ ⟨?_, hlike⟩⟩
    exact congrArg StoreAnswer.loaded (hnow.load_eq hplain hlike)
  | remove service => exact (hnow.keepsTo_remove hplain).map StoreAnswer.removed

end Rollback.Store

end ServerSetup
