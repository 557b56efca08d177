import ServerSetup.Proofs.Disk.Directory

/-!
# Copies of a file

A file that was copied can be copied once more, and its copy can be removed, as long as the disk
does not refuse: whatever links are on the way to it, the copy changes nothing on the way there.
After the removal the path of the copy leads to nothing.

A copy has two paths, and both may lead through links. `Shows` says that a path leads to a file with
some content, `Offers` that a path leads to a place where a file is or can be made, and `Permits`
that the disk refuses nothing of what the copy asks. The place that the target leads to is no link,
since a path is followed to its end (`WellFormed.noLink`); this needs every entry of the tree to
have directories above it, which is what `WellFormed` says.

A copy of a file onto itself leaves it empty: the target is emptied before the source is read. This
case is part of the equation for copies (`copied`), and not excluded.
-/

namespace ServerSetup

namespace FileTree

variable {t : FileTree} {place : Location}

theorem put_put (t : FileTree) (place : Location) (entry entry' : Entry) :
    (t.put place entry).put place entry' = t.put place entry' := by
  simp [put, elsewhere, List.filter_append]

theorem ne_nil_of_not_isDirectory (h : t.isDirectory place = false) : place ≠ [] := by
  rintro rfl
  cases h

/-- A file may be put where there is neither a directory nor a link. -/
theorem extends_put (hdir : t.isDirectory place = false)
    (hlink : ∀ target, t.get? place ≠ some (.link target)) (content : List UInt8) :
    (t.put place (.file content)).Extends t := by
  intro l entry hentry hfile
  have hne : l ≠ place := by
    rintro rfl
    cases entry with
    | file content => exact hfile content rfl
    | directory => exact absurd (isDirectory_iff.2 hentry) (Bool.not_eq_true _ ▸ hdir)
    | link target => exact hlink target hentry
  rw [get?_put_of_ne t hne, hentry]

end FileTree

namespace Disk

variable {d d' : Disk} {path source target : String} {place goal : Location} {kind : IoKind}
  {content : List UInt8} {follow : Bool} {steps : List String}

/-! ### Paths that can be walked -/

/-- A path that is not refused for its text. -/
structure Walkable (path : String) : Prop where
  noNul : ¬ path.toList.contains '\x00' = true
  nonempty : ¬ path.isEmpty = true
  short : ¬ maxPathBytes < path.utf8ByteSize

theorem walkable_iff : Walkable path ↔ ¬ path.toList.contains '\x00' = true ∧
    ¬ path.isEmpty = true ∧ ¬ maxPathBytes < path.utf8ByteSize :=
  ⟨fun h ↦ ⟨h.noNul, h.nonempty, h.short⟩, fun h ↦ ⟨h.1, h.2.1, h.2.2⟩⟩

instance (path : String) : Decidable (Walkable path) := decidable_of_iff' _ walkable_iff

/-- Locating a path is a walk through the tree if the path is not refused for its text. -/
theorem Walkable.locateSteps_eq (h : Walkable path) : d.locateSteps follow path steps =
    d.tree.walk follow FileTree.maxLinks (d.base path) steps := by
  rw [locateSteps, if_neg h.noNul, if_neg h.nonempty, if_neg h.short]
  rfl

/-- A path that leads anywhere is not refused for its text. -/
theorem walkable_of_locateSteps (h : d.locateSteps follow path steps = .ok place) :
    Walkable path := by
  rw [locateSteps] at h
  split at h
  · cases h
  · next hnul =>
    split at h
    · cases h
    · next hempty =>
      split at h
      · cases h
      · next hlong => exact ⟨hnul, hempty, hlong⟩

/-- A file tree with directories above its entries, seen from a directory of it. -/
structure WellFormed (d : Disk) : Prop where
  tree : d.tree.WellFormed
  workDirectory : d.tree.isDirectory d.workDirectory = true

/-- Every walk starts at a directory. -/
theorem WellFormed.isDirectory_base (h : d.WellFormed) (path : String) :
    d.tree.isDirectory (d.base path) = true := by
  rw [base]
  split
  · rfl
  · exact h.workDirectory

/-! ### Copies -/

/-- A path leads to a file. -/
structure Shows (d : Disk) (source : String) (place : Location) (content : List UInt8) : Prop where
  locate : d.locate source = .ok place
  file : d.tree.get? place = some (.file content)

/-- A path leads to a place where a file is or can be made. -/
structure Offers (d : Disk) (target : String) (goal : Location) : Prop where
  locate : d.locate target = .ok goal
  noSlash : Path.endsWithSlash target = false
  noDirectory : d.tree.isDirectory goal = false
  noLink : ∀ elsewhere, d.tree.get? goal ≠ some (.link elsewhere)

/-- The disk refuses nothing that a copy asks of it. -/
structure Permits (d : Disk) (place goal : Location) : Prop where
  read : d.refuses (.read place) = none
  create : d.refuses (.create goal) = none
  write : d.refuses (.write goal) = none

/-- A path that is followed to its end does not end at a link. -/
theorem WellFormed.noLink (h : d.WellFormed) (hlocate : d.locate path = .ok place)
    (elsewhere : String) : d.tree.get? place ≠ some (.link elsewhere) := by
  rw [locate, (walkable_of_locateSteps hlocate).locateSteps_eq, FileTree.walk_eq_ok_iff] at hlocate
  exact hlocate.ne_link h.tree
    (fun _ ↦ FileTree.ne_link_of_isDirectory (h.isDirectory_base path)) elsewhere

/-- Where a file was created, the path offered a place for it, and the disk did not refuse to. -/
theorem WellFormed.offers (h : d.WellFormed) (hcreate : create target d = (.ok goal, d')) :
    d.Offers target goal ∧ d.refuses (.create goal) = none ∧ d'.refuses = d.refuses := by
  rcases hslash : Path.endsWithSlash target with - | -
  · rw [create_eq hslash] at hcreate
    split at hcreate
    · cases hcreate
    · next place hlocate =>
      split at hcreate
      · cases hcreate
      · next hdir =>
        split at hcreate
        · cases hcreate
        · next hrefuses =>
          cases hcreate
          exact ⟨⟨hlocate, hslash, Bool.not_eq_true _ ▸ hdir, h.noLink hlocate⟩, hrefuses, rfl⟩
  · exact absurd hcreate (create_ne_ok hslash)

/-- What a copy is made of: a file at the source, and a target that offers a place for it. -/
theorem WellFormed.of_copy (h : d.WellFormed) (hcopy : copy source target d = (.ok (), d')) :
    ∃ place content goal, d.Shows source place content ∧ d.Offers target goal ∧
      d.Permits place goal := by
  rw [copy_eq] at hcopy
  split at hcopy
  · cases hcopy
  · next place hlocate =>
    split at hcopy
    · cases hcopy
    · next content hfile =>
      split at hcopy
      · cases hcopy
      · next hread =>
        split at hcopy
        · cases hcopy
        · next goal made hcreate =>
          obtain ⟨hoffers, hcreates, hsame⟩ := h.offers hcreate
          split at hcopy
          · cases hcopy
          · next hwrite =>
            exact ⟨place, content, goal, ⟨hlocate, hfile⟩, hoffers, hread, hcreates,
              hsame ▸ hwrite⟩
    · cases hcopy

/-- **Where nothing is refused a file is copied.** The target is emptied before the source is read,
so nothing is left of a file that is copied onto itself. -/
theorem Shows.copy (hsource : d.Shows source place content) (htarget : d.Offers target goal)
    (hpermits : d.Permits place goal) : Disk.copy source target d = (.ok (),
      { d with tree := d.tree.put goal (.file (if place = goal then [] else content)) }) := by
  have hcreate : create target d = (.ok goal, { d with tree := d.tree.put goal (.file []) }) := by
    rw [create_eq htarget.noSlash, htarget.locate]
    dsimp only
    rw [htarget.noDirectory, hpermits.create, if_neg Bool.false_ne_true]
  have hread : copied (d.tree.put goal (.file [])) place =
      if place = goal then [] else content := by
    rw [copied]
    split_ifs with heq
    · have hne := FileTree.ne_nil_of_not_isDirectory htarget.noDirectory
      rw [heq, FileTree.get?_put_self _ hne]
    · rw [FileTree.get?_put_of_ne _ heq, hsource.file]
  rw [copy_eq, hsource.locate]
  dsimp only
  rw [hsource.file]
  dsimp only
  rw [hpermits.read, hcreate]
  dsimp only
  rw [hpermits.write, FileTree.put_put, hread]

/-- A path that leads to a file does so as well where the way to it stays and a file is there. -/
theorem Shows.of_extends {t : FileTree} {found : List UInt8} (hlocate : d.locate path = .ok place)
    (hextends : t.Extends d.tree) (hfile : t.get? place = some (.file found)) :
    Shows { d with tree := t } path place found := by
  have hwalkable := walkable_of_locateSteps hlocate
  rw [Disk.locate, hwalkable.locateSteps_eq, FileTree.walk_eq_ok_iff] at hlocate
  refine ⟨?_, hfile⟩
  rw [Disk.locate, hwalkable.locateSteps_eq, FileTree.walk_eq_ok_iff]
  exact hlocate.of_extends_file hextends hfile

/-- After a copy the target leads to a file. -/
theorem Offers.shows_put (h : d.Offers target goal) (content : List UInt8) :
    Shows { d with tree := d.tree.put goal (.file content) } target goal content :=
  .of_extends h.locate (FileTree.extends_put h.noDirectory h.noLink content)
    (FileTree.get?_put_self _ (FileTree.ne_nil_of_not_isDirectory h.noDirectory) _)

/-- After a copy the source leads to a file, which may be the copy. -/
theorem Shows.put (h : d.Shows source place content) (htarget : d.Offers target goal)
    (copied : List UInt8) : ∃ content',
      Shows { d with tree := d.tree.put goal (.file copied) } source place content' := by
  have hextends := FileTree.extends_put htarget.noDirectory htarget.noLink copied
  by_cases heq : place = goal
  · refine ⟨copied, .of_extends h.locate hextends ?_⟩
    rw [heq, FileTree.get?_put_self _ (FileTree.ne_nil_of_not_isDirectory htarget.noDirectory)]
  · refine ⟨content, .of_extends h.locate hextends ?_⟩
    rw [FileTree.get?_put_of_ne _ heq, h.file]

/-- A file that a path leads to can be replaced. -/
theorem Shows.offers (h : d.Shows target goal content)
    (hslash : Path.endsWithSlash target = false) : d.Offers target goal where
  locate := h.locate
  noSlash := hslash
  noDirectory := by
    rw [← Bool.not_eq_true, FileTree.isDirectory_iff, h.file]
    exact nofun
  noLink elsewhere := by
    rw [h.file]
    exact nofun

/-- **What was copied once is copied again.** The source may be the target: the second copy reads
what the first one has left. -/
theorem WellFormed.copy_copy (h : d.WellFormed) (hcopy : (copy source target d).1 = .ok ()) :
    ∃ goal copied, d.Offers target goal ∧ copy source target (copy source target d).2 =
      (.ok (), { d with tree := d.tree.put goal (.file copied) }) := by
  obtain ⟨place, content, goal, hsource, htarget, hpermits⟩ := h.of_copy (Prod.ext hcopy rfl)
  have hcopy₁ := hsource.copy htarget hpermits
  obtain ⟨content₁, hsource₁⟩ := hsource.put htarget (if place = goal then [] else content)
  have htarget₁ := (htarget.shows_put (if place = goal then [] else content)).offers htarget.noSlash
  have hcopy₂ := hsource₁.copy htarget₁ ⟨hpermits.read, hpermits.create, hpermits.write⟩
  refine ⟨goal, if place = goal then [] else content₁, htarget, ?_⟩
  rw [hcopy₁, hcopy₂, FileTree.put_put]

/-! ### Removals -/

/-- What a path names that leads to a file: a file or a link. -/
theorem Shows.exists_self (h : d.Shows target goal content)
    (hslash : Path.endsWithSlash target = false) : ∃ spot entry,
      d.tree.Leads false FileTree.maxLinks (d.base target) (Path.names target) spot ∧
        d.tree.get? spot = some entry ∧ entry ≠ .directory := by
  have hleads : d.tree.Leads true FileTree.maxLinks (d.base target) (Path.names target) goal := by
    have hlocate := h.locate
    rw [Disk.locate, (walkable_of_locateSteps h.locate).locateSteps_eq, FileTree.walk_eq_ok_iff,
      Path.steps, hslash] at hlocate
    simpa using hlocate
  obtain ⟨spot, hspot, rfl | ⟨elsewhere, hlink⟩⟩ := hleads.exists_self
  · exact ⟨spot, _, hspot, h.file, Entry.noConfusion⟩
  · exact ⟨spot, _, hspot, hlink, Entry.noConfusion⟩

/-- Where nothing is left, a path leads to nothing and names nothing. -/
theorem pathExists_of_locateSteps {spot : Location} (hslash : Path.endsWithSlash target = false)
    (hnone : d.tree.get? spot = none)
    (hlocate : ∀ follow, d.locateSteps follow target (Path.names target) = .ok spot ∨
      d.locateSteps follow target (Path.names target) = .error .notFound) :
    d.pathExists target = false ∧ Disk.remove target d = (.error .notFound, d) := by
  have hsteps : Path.steps target = Path.names target := by
    rw [Path.steps, hslash]
    exact List.append_nil _
  constructor
  · rw [pathExists, find?, locate, hsteps]
    obtain hlocate | hlocate := hlocate true
    · rw [hlocate]
      dsimp only
      rw [hnone]
      rfl
    · rw [hlocate]
      rfl
  · rw [remove_eq, locateSelf]
    obtain hlocate | hlocate := hlocate false
    · rw [hlocate]
      dsimp only
      rw [hnone]
    · rw [hlocate]

/-- **A file that a path leads to is removed, and then the path leads to nothing.** What is removed
may be a link, and a second removal finds nothing. -/
theorem Shows.remove (h : d.Shows target goal content)
    (hslash : Path.endsWithSlash target = false) (hrefuses : ∀ action, d.refuses action = none) :
    ∃ d', Disk.remove target d = (.ok (), d') ∧ d'.pathExists target = false ∧
      Disk.remove target d' = (.error .notFound, d') := by
  obtain ⟨spot, entry, hspot, hentry, hdir⟩ := h.exists_self hslash
  have hwalkable := walkable_of_locateSteps h.locate
  have hplace : d.tree.isDirectory spot = false := by
    rw [← Bool.not_eq_true, FileTree.isDirectory_iff, hentry]
    exact fun heq ↦ hdir (Option.some.inj heq)
  refine ⟨{ d with tree := d.tree.erase spot }, ?_, ?_⟩
  · rw [remove_eq, locateSelf, hwalkable.locateSteps_eq, FileTree.walk_eq_ok_iff.2 hspot]
    dsimp only
    rw [hentry, hslash, hrefuses, if_neg Bool.false_ne_true]
    cases entry with
    | directory => exact absurd rfl hdir
    | file => rfl
    | link => rfl
  · refine pathExists_of_locateSteps hslash
      (FileTree.get?_erase_self _ (FileTree.ne_nil_of_not_isDirectory hplace)) fun follow ↦ ?_
    rw [hwalkable.locateSteps_eq]
    exact hspot.walk_erase hplace follow

/-- **What was copied once is copied again, and is removed once.** -/
theorem WellFormed.copy_copy_remove_remove (h : d.WellFormed)
    (hrefuses : ∀ action, d.refuses action = none) (hcopy : (copy source target d).1 = .ok ()) :
    let d₁ := (copy source target d).2
    let d₂ := (copy source target d₁).2
    let d₃ := (Disk.remove target d₂).2
    (copy source target d₁).1 = .ok () ∧ (Disk.remove target d₂).1 = .ok () ∧
      d₃.pathExists target = false ∧ (Disk.remove target d₃).1 = .error .notFound := by
  intro d₁ d₂ d₃
  obtain ⟨goal, copied, htarget, hcopy₂⟩ := h.copy_copy hcopy
  obtain ⟨d', hremove, hgone, hremove'⟩ :=
    (htarget.shows_put copied).remove htarget.noSlash hrefuses
  have hd₂ : d₂ = _ := congrArg Prod.snd hcopy₂
  have hd₃ : d₃ = _ := (congrArg (fun d ↦ (Disk.remove target d).2) hd₂).trans
    (congrArg Prod.snd hremove)
  refine ⟨?_, ?_, ?_, ?_⟩
  · rw [hcopy₂]
  · rw [hd₂, hremove]
  · rw [hd₃, hgone]
  · rw [hd₃, hremove']

end Disk

end ServerSetup
