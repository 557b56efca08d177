import ServerSetup.Proofs.Disk.Copies

/-!
# Files that are given up

An attempt to write a file changes nothing but what is where its path leads to. If the file is
removed behind the attempt, nothing has changed but what was there, and no file is left
(`NamesNoLink.sameBut_giveUp`, `NamesNoLink.noFile_giveUp`).

Writing may fail at three points, and each leaves something else behind: nothing at all, an empty
file, or the whole content that could not be flushed. Removing the file afterwards is right for all
three, as long as the removal meets what the attempt has made. Writing follows a link at the end of
its path and removing does not, so the path has to end in no link (`NamesNoLink`); otherwise the
attempt would leave a file behind and the removal take the link away.

`giveUp` is the disk after both steps, whatever came of them. What is compared is everything but the
place of the file (`SameBut`), since a file that was there before is lost.
-/

namespace ServerSetup.Disk

variable {d : Disk} {path : String} {place l : Location} {content : List UInt8}

/-- What a write leaves: the disk as it was, or a file where the path leads to. -/
theorem write_cases (hslash : Path.endsWithSlash path = false) : (write path content d).2 = d ∨
    ∃ place written, d.locate path = .ok place ∧ d.tree.isDirectory place = false ∧
      (write path content d).2 = { d with tree := d.tree.put place (.file written) } := by
  rw [write_eq, create_eq hslash]
  rcases hlocate : d.locate path with kind | place
  · exact .inl rfl
  · dsimp only
    rcases hdir : d.tree.isDirectory place with - | -
    · rw [if_neg Bool.false_ne_true]
      rcases d.refuses (.create place) with - | kind
      · dsimp only
        rcases d.refuses (.write place) with - | kind
        · refine .inr ⟨place, content, rfl, hdir, ?_⟩
          dsimp only
          rw [FileTree.put_put]
          rcases d.refuses (.flush place) with - | kind <;> rfl
        · exact .inr ⟨place, [], rfl, hdir, rfl⟩
      · exact .inl rfl
    · exact .inl rfl

/-- What a removal leaves: the disk as it was, or nothing where a file or a link was. -/
theorem remove_cases (path : String) (d : Disk) : (remove path d).2 = d ∨
    ∃ place, d.locateSelf path = .ok place ∧ d.tree.isDirectory place = false ∧
      (remove path d).2 = { d with tree := d.tree.erase place } := by
  rw [remove_eq]
  split
  · exact .inl rfl
  · next place hlocate =>
    split
    · exact .inl rfl
    · exact .inl rfl
    · next entry hfile hentry =>
      split
      · exact .inl rfl
      · split
        · exact .inl rfl
        · refine .inr ⟨place, hlocate, ?_, rfl⟩
          rw [← Bool.not_eq_true, FileTree.isDirectory_iff, hentry, Option.some.injEq]
          exact hfile

/-- **Where its removal is not refused, no file is left.** -/
theorem noFile_of_remove (hslash : Path.endsWithSlash path = false)
    (hallowed : ∀ place, d.locateSelf path = .ok place → d.refuses (.remove place) = none)
    (hlocate : (remove path d).2.locateSelf path = .ok place) :
    (remove path d).2.tree.get? place ≠ some (.file content) := by
  obtain hkept | ⟨spot, hspot, hdir, herased⟩ := remove_cases path d
  · rw [hkept] at hlocate ⊢
    intro hfile
    have herased : (remove path d).2.tree = d.tree.erase place := by
      rw [remove_eq, hlocate]
      dsimp only
      rw [hfile, hslash, hallowed place hlocate]
      rfl
    have hroot : place ≠ [] := by
      rintro rfl
      cases hfile
    rw [← hkept, herased, FileTree.get?_erase_self _ hroot] at hfile
    cases hfile
  · have hwalkable := walkable_of_locateSteps hspot
    rw [locateSelf, hwalkable.locateSteps_eq, FileTree.walk_eq_ok_iff] at hspot
    rw [herased, locateSelf, hwalkable.locateSteps_eq] at hlocate
    obtain hplace | hplace := hspot.walk_erase hdir false
    · obtain rfl : spot = place := Except.ok.inj (hplace.symm.trans hlocate)
      rw [herased, FileTree.get?_erase_self _ (FileTree.ne_nil_of_not_isDirectory hdir)]
      intro hfile
      cases hfile
    · cases hplace.symm.trans hlocate

/-! ### Files that are given up -/

/-- Where the file of a path is or can be made: at this location there is no directory. -/
structure FileAt (d : Disk) (path : String) (place : Location) : Prop where
  locate : d.locateSelf path = .ok place
  noDirectory : d.tree.isDirectory place = false

/-- What a path names is no link. -/
def NamesNoLink (d : Disk) (path : String) : Prop :=
  ∀ place target, d.locateSelf path = .ok place → d.tree.get? place ≠ some (.link target)

/-- Two disks are the same but for what is at some locations. -/
structure SameBut (except : Location → Prop) (d d' : Disk) : Prop where
  workDirectory : d'.workDirectory = d.workDirectory
  refuses : d'.refuses = d.refuses
  get? : ∀ l, ¬ except l → d'.tree.get? l = d.tree.get? l

/-- The disk after an attempt to write a file that is given up. -/
def giveUp (d : Disk) (path : String) (content : List UInt8) : Disk :=
  (remove path (write path content d).2).2

/-- A path that names no link leads to what it names. -/
theorem NamesNoLink.locateSelf_eq (h : d.NamesNoLink path)
    (hslash : Path.endsWithSlash path = false) (hlocate : d.locate path = .ok place) :
    d.locateSelf path = .ok place := by
  have hwalkable := walkable_of_locateSteps hlocate
  have hsteps : Path.steps path = Path.names path := by
    rw [Path.steps, hslash]
    exact List.append_nil _
  rw [Disk.locate, hwalkable.locateSteps_eq, FileTree.walk_eq_ok_iff, hsteps] at hlocate
  obtain ⟨spot, hspot, hself⟩ := hlocate.exists_self
  have hlocateSelf : d.locateSelf path = .ok spot := by
    rw [locateSelf, hwalkable.locateSteps_eq, FileTree.walk_eq_ok_iff]
    exact hspot
  obtain rfl | ⟨target, hlink⟩ := hself
  · exact hlocateSelf
  · exact absurd hlink (h spot target hlocateSelf)

/-- A path still names the same location when a file is put there. -/
theorem NamesNoLink.locateSelf_put (h : d.NamesNoLink path) (hplace : d.FileAt path place)
    (content : List UInt8) :
    locateSelf { d with tree := d.tree.put place (.file content) } path = .ok place := by
  have hlocate := hplace.locate
  have hwalkable := walkable_of_locateSteps hlocate
  have hextends := FileTree.extends_put hplace.noDirectory
    (fun target ↦ h place target hplace.locate) content
  have hfile := FileTree.get?_put_self d.tree
    (FileTree.ne_nil_of_not_isDirectory hplace.noDirectory) (.file content)
  rw [locateSelf, hwalkable.locateSteps_eq, FileTree.walk_eq_ok_iff] at hlocate
  rw [locateSelf, hwalkable.locateSteps_eq, FileTree.walk_eq_ok_iff]
  exact hlocate.of_extends_file hextends hfile

/-- Where nothing has changed but what a path names, the directories and links are still there. -/
theorem NamesNoLink.extends {d' : Disk} (h : d.NamesNoLink path)
    (hsame : d.SameBut (d.FileAt path) d') : d'.tree.Extends d.tree := by
  intro l entry hentry hfile
  rw [hsame.get? l ?_, hentry]
  intro hplace
  cases entry with
  | file content => exact hfile content rfl
  | directory => exact Bool.eq_false_iff.1 hplace.noDirectory (FileTree.isDirectory_iff.2 hentry)
  | link target => exact h l target hplace.locate hentry

section

variable (h : d.NamesNoLink path) (hslash : Path.endsWithSlash path = false)

include h hslash

/-- The disk behind the attempt to write. -/
theorem NamesNoLink.write_cases (content : List UInt8) : (write path content d).2 = d ∨
    ∃ place written, d.FileAt path place ∧
      (write path content d).2 = { d with tree := d.tree.put place (.file written) } := by
  obtain hsame | ⟨place, written, hlocate, hdir, hwritten⟩ :=
    @Disk.write_cases d path content hslash
  · exact .inl hsame
  · exact .inr ⟨place, written, ⟨h.locateSelf_eq hslash hlocate, hdir⟩, hwritten⟩

/-- **Of a file that is given up, nothing is changed but what was where it is.** -/
theorem NamesNoLink.sameBut_giveUp (content : List UInt8) :
    d.SameBut (d.FileAt path) (d.giveUp path content) := by
  have hne {place l : Location} (hplace : d.FileAt path place) (hl : ¬ d.FileAt path l) :
      l ≠ place := by
    rintro rfl
    exact hl hplace
  rw [giveUp]
  obtain hsame | ⟨place, written, hplace, hwritten⟩ := h.write_cases hslash content
  · rw [hsame]
    obtain hkept | ⟨place, hlocate, hdir, herased⟩ := remove_cases path d
    · rw [hkept]
      exact ⟨rfl, rfl, fun _ _ ↦ rfl⟩
    · rw [herased]
      exact ⟨rfl, rfl, fun l hl ↦ FileTree.get?_erase_of_ne _ (hne ⟨hlocate, hdir⟩ hl)⟩
  · rw [hwritten]
    obtain hkept | ⟨spot, hlocate, -, herased⟩ :=
      remove_cases path { d with tree := d.tree.put place (.file written) }
    · rw [hkept]
      exact ⟨rfl, rfl, fun l hl ↦ FileTree.get?_put_of_ne _ (hne hplace hl) _⟩
    · obtain rfl : place = spot :=
        Except.ok.inj ((h.locateSelf_put hplace written).symm.trans hlocate)
      rw [herased]
      refine ⟨rfl, rfl, fun l hl ↦ ?_⟩
      exact (FileTree.get?_erase_of_ne _ (hne hplace hl)).trans
        (FileTree.get?_put_of_ne _ (hne hplace hl) _)

/-- **Of a file that is given up nothing is left,** unless its removal is refused. -/
theorem NamesNoLink.noFile_giveUp {written : List UInt8}
    (hallowed : ∀ place, d.locateSelf path = .ok place → d.refuses (.remove place) = none)
    (hlocate : (d.giveUp path written).locateSelf path = .ok place) :
    (d.giveUp path written).tree.get? place ≠ some (.file content) := by
  rw [giveUp] at hlocate ⊢
  obtain hsame | ⟨spot, found, hspot, hwritten⟩ := h.write_cases hslash written
  · rw [hsame] at hlocate ⊢
    exact noFile_of_remove hslash hallowed hlocate
  · rw [hwritten] at hlocate ⊢
    refine noFile_of_remove hslash (fun place hplace ↦ ?_) hlocate
    obtain rfl : spot = place := Except.ok.inj ((h.locateSelf_put hspot found).symm.trans hplace)
    exact hallowed spot hspot.locate

end

end ServerSetup.Disk
