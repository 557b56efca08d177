import ServerSetup.Proofs.Disk.Willing
import ServerSetup.Proofs.Rehearsal
import ServerSetup.Proofs.Rollback.Store

/-!
# Rollback states on a disk to rehearse with

The store of the manager to rehearse with, on a disk that has nothing or next to nothing on it.

The path of the store leads to a directory below the root that holds given files (`holds_diskWith`),
or to nothing yet on a bare disk (`empty_worldWith`). From these two the laws of a store apply. That
saving, reading and removing do succeed here is shown in addition (`save_web`, `read_web`,
`remove_web`), for the service that the examples are about.
-/

namespace ServerSetup.Rehearsal

open Rollback (Store)

/-- The path of the manager's states leads to the directory that is there. -/
theorem leadsTo_state {d : Disk} (h : d.tree.get? ["state"] = some .directory) :
    d.LeadsTo "/state" ["state"] := by
  have hnames : Path.names "/state" = ["state"] := by decide
  have hbase : d.base "/state" = [] := if_pos (by decide)
  refine ⟨?_, FileTree.isDirectory_iff.2 h⟩
  rw [hnames, hbase]
  exact .through ⟨rfl, by decide, by decide, by decide⟩ h (fun _ ↦ Entry.noConfusion) (.here ..)

/-- A disk with the directory of the manager's states and given files in it. -/
def diskWith (files : List (String × List UInt8)) : Disk where
  tree := ⟨(["state"], .directory) :: files.map fun f ↦ (["state", f.1], .file f.2)⟩
  workDirectory := []

section diskWith

variable {files : List (String × List UInt8)} {name : String}

/-- What is in the directory are the given files. -/
theorem get?_diskWith (files : List (String × List UInt8)) (name : String) :
    (diskWith files).tree.get? (["state"] ++ [name]) = (files.lookup name).map .file := by
  show ((files.map fun f ↦ (["state", f.1], Entry.file f.2)).lookup ["state", name]) = _
  induction files with
  | nil => rfl
  | cons f files ih =>
    have hkey : (["state", name] == ["state", f.1]) = (name == f.1) := by
      rw [Bool.eq_iff_iff, beq_iff_eq, beq_iff_eq]
      simp
    rw [List.map_cons, List.lookup_cons, List.lookup_cons, hkey]
    split
    · rfl
    · exact ih

theorem holds_diskWith (files : List (String × List UInt8)) :
    (diskWith files).Holds "/state" ["state"] fun name ↦ files.lookup name where
  leads := (leadsTo_state rfl).leads
  directory := rfl
  content := get?_diskWith files
  honest _ := by simp [diskWith]

/-- The directory is made where nothing is. -/
theorem ensureDirectory_state :
    Disk.ensureDirectory "/state" { tree := .empty, workDirectory := [] } =
      (.ok (), diskWith []) := by
  have hlocate : Disk.locateSelf { tree := .empty, workDirectory := [] } "/state" =
      .ok ["state"] := by
    have hnames : Path.names "/state" = ["state"] := by decide
    have hwalkable : Disk.Walkable "/state" := by decide +kernel
    rw [Disk.locateSelf, hnames, hwalkable.locateSteps_eq, FileTree.walk_eq_ok_iff]
    exact .missing ⟨rfl, by decide, by decide, by decide⟩ rfl
  have hmake : Disk.makeDirectory "/state" { tree := .empty, workDirectory := [] } =
      (.ok (), diskWith []) := by
    rw [Disk.makeDirectory_eq, hlocate]
    rfl
  rw [Disk.ensureDirectory, if_neg (by decide), Disk.ensureUpwards_cons_eq, hmake]

theorem empty_worldWith (services : List (String × Option String)) :
    manager.store.Empty (worldWith services).disk :=
  ⟨_, _, ensureDirectory_state, holds_diskWith []⟩

/-- Where the file of a service named `web` is, and the temporary one beside it. -/
theorem locate_web {ending : String} (h : ending = ".srv" ∨ ending = ".srv.tmp") :
    (diskWith files).locate (Path.join "/state" ("web" ++ ending)) =
      .ok ["state", "web" ++ ending] ∧
    (diskWith files).locateSelf (Path.join "/state" ("web" ++ ending)) =
      .ok ["state", "web" ++ ending] := by
  have hfits : Path.Fits "/state" ("web" ++ ending) := by
    rcases h with rfl | rfl <;> decide
  exact ⟨(holds_diskWith files).locate_of_fits hfits,
    (holds_diskWith files).locateSelf_of_fits hfits⟩

/-- The first state that is saved makes the directory and its file. -/
theorem save_web {state : Rollback.State} (hstate : state.serviceName = "web") :
    manager.store.save state { tree := .empty, workDirectory := [] } =
      (.ok "/state/web.srv", diskWith [("web.srv", Text.bytesOf state.document)]) := by
  have hweb : '/' ∉ "web".toList := by decide
  have htemporary : Path.IsFileName ("web" ++ ".srv.tmp") :=
    Store.isFileName_append (by decide) (by decide)
  rw [Store.save_eq_ok_iff, hstate, Store.temporaryPath_path hweb]
  refine ⟨by decide, _, diskWith [("web.srv.tmp", Text.bytesOf state.document)],
    ensureDirectory_state, ?_, ?_⟩
  · show Disk.write (Path.join "/state" ("web" ++ ".srv.tmp")) _ _ = _
    rw [Disk.write_eq, Disk.create_eq (Path.endsWithSlash_join htemporary),
      (locate_web (.inr rfl)).1]
    rfl
  · show Disk.rename (Path.join "/state" ("web" ++ ".srv.tmp"))
      (Path.join "/state" ("web" ++ ".srv")) _ = _
    rw [Disk.rename_eq, (locate_web (.inr rfl)).2, (locate_web (.inl rfl)).2]
    rfl

theorem read_web {content : List UInt8} :
    (diskWith [("web.srv", content)]).read (manager.store.path "web") = .ok content := by
  show (diskWith _).read (Path.join "/state" ("web" ++ ".srv")) = _
  rw [Disk.read, (locate_web (.inl rfl)).1]
  rfl

/-- The file can be removed. -/
theorem remove_web {content : List UInt8} :
    (manager.store.remove "web" (diskWith [("web.srv", content)])).1 = .ok true := by
  have hname : Path.IsFileName ("web" ++ ".srv") :=
    Store.isFileName_append (by decide) (by decide)
  have hremove : Disk.remove (manager.store.path "web") (diskWith [("web.srv", content)]) =
      (.ok (), diskWith []) := by
    show Disk.remove (Path.join "/state" ("web" ++ ".srv")) _ = _
    rw [Disk.remove_eq, (locate_web (.inl rfl)).2, Path.endsWithSlash_join hname]
    rfl
  rw [Store.remove, hremove]

end diskWith

/-- What the machine answers the registration of a service named `web` with. -/
def webState : Rollback.State := .new (.ofNat 1) .epoch "web" .localSystem

end ServerSetup.Rehearsal
