import ServerSetup.Proofs.Disk.Copies

/-!
# What is directly in a directory

A walk that goes on comes through a directory first (`Leads.exists_split`). So the path of a file in
a directory leads, if it leads anywhere, to a location directly in the directory that the path of
the directory leads to, unless there is a link.

The two ways to locate a file differ in a link at the very end: the one that follows it may leave
the directory, the one that stays at it does not. Reading and writing follow, removing and renaming
stay. So there are two facts for each direction, one that asks for no link and one that does not
need to (`exists_leadsTo_of_locate`, `exists_leadsTo_of_locateSelf`).

`Path.Fits` collects what makes a name acceptable: it is the name of a file, and neither it nor the
path that it makes is too long or contains a null character. Under this condition the path is walked
at all, and the walk ends in the directory.
-/

namespace ServerSetup

namespace FileTree

variable {t : FileTree} {follow : Bool} {links : Nat} {here place : Location}
  {front tail : List String} {name : String}

/-- **A walk that goes on comes through a directory first.** -/
theorem Leads.exists_split (h : t.Leads follow links here (front ++ tail) place)
    (htail : tail ≠ []) : ∃ left middle, t.Leads true links here front middle ∧
      t.isDirectory middle = true ∧ t.Leads follow left middle tail place := by
  generalize hsteps : front ++ tail = steps at h
  -- Where the front is used up, the walk stands at the middle; otherwise its first step is one of
  -- the front and the rest is split by induction. A link adds its target to the front.
  induction h generalizing front with
  | here => exact absurd (List.append_eq_nil_iff.1 hsteps).2 htail
  | @stay links here place rest hdir hrest ih =>
    rcases front with - | ⟨first, front⟩
    · obtain rfl : tail = "." :: rest := hsteps
      exact ⟨links, here, .here .., hdir, .stay hdir hrest⟩
    · obtain ⟨rfl, hbehind⟩ := List.cons_eq_cons.1 hsteps
      obtain ⟨left, middle, hfront, hmiddle⟩ := ih hbehind
      exact ⟨left, middle, .stay hdir hfront, hmiddle⟩
  | @up links here place rest hdir hrest ih =>
    rcases front with - | ⟨first, front⟩
    · obtain rfl : tail = ".." :: rest := hsteps
      exact ⟨links, here, .here .., hdir, .up hdir hrest⟩
    · obtain ⟨rfl, hbehind⟩ := List.cons_eq_cons.1 hsteps
      obtain ⟨left, middle, hfront, hmiddle⟩ := ih hbehind
      exact ⟨left, middle, .up hdir hfront, hmiddle⟩
  | @missing links here name henters hnone =>
    rcases front with - | ⟨first, front⟩
    · obtain rfl : tail = [name] := hsteps
      exact ⟨links, here, .here .., henters.directory, .missing henters hnone⟩
    · exact absurd (List.append_eq_nil_iff.1 (List.cons.inj hsteps).2).2 htail
  | @stop links here name target henters hlink hfollow =>
    rcases front with - | ⟨first, front⟩
    · obtain rfl : tail = [name] := hsteps
      exact ⟨links, here, .here .., henters.directory, .stop henters hlink hfollow⟩
    · exact absurd (List.append_eq_nil_iff.1 (List.cons.inj hsteps).2).2 htail
  | @jump links here place name target rest henters hlink hfollow hrest ih =>
    rcases front with - | ⟨first, front⟩
    · obtain rfl : tail = name :: rest := hsteps
      exact ⟨links + 1, here, .here .., henters.directory, .jump henters hlink hfollow hrest⟩
    · obtain ⟨rfl, hbehind⟩ := List.cons_eq_cons.1 hsteps
      obtain ⟨left, middle, hfront, hmiddle⟩ := @ih (Path.steps target ++ front)
        (by rw [List.append_assoc]; exact congrArg _ hbehind)
      exact ⟨left, middle, .jump henters hlink (.inr rfl) hfront, hmiddle⟩
  | @through links here place name entry rest henters hentry hnoLink hrest ih =>
    rcases front with - | ⟨first, front⟩
    · obtain rfl : tail = name :: rest := hsteps
      exact ⟨links, here, .here .., henters.directory, .through henters hentry hnoLink hrest⟩
    · obtain ⟨rfl, hbehind⟩ := List.cons_eq_cons.1 hsteps
      obtain ⟨left, middle, hfront, hmiddle⟩ := ih hbehind
      exact ⟨left, middle, .through henters hentry hnoLink hfront, hmiddle⟩

/-- A walk by one name ends there, unless it follows a link. -/
theorem Leads.eq_of_singleton (h : t.Leads follow links here [name] place) (hdot : name ≠ ".")
    (hdots : name ≠ "..")
    (hlink : follow = true → ∀ target, t.get? (here ++ [name]) ≠ some (.link target)) :
    place = here ++ [name] := by
  cases h with
  | stay => exact absurd rfl hdot
  | up => exact absurd rfl hdots
  | missing => rfl
  | stop => rfl
  | jump henters hfound hfollow =>
    exact absurd hfound (hlink (hfollow.resolve_left fun h ↦ h rfl) _)
  | through henters hentry hnoLink hrest =>
    cases hrest
    rfl

end FileTree

/-! ### Acceptable names -/

/-- A name is acceptable for a file in a directory, and so is the path of the file. -/
structure Path.Fits (path name : String) : Prop where
  isFileName : IsFileName name
  noNul : '\x00' ∉ (join path name).toList
  pathLength : (join path name).utf8ByteSize ≤ Disk.maxPathBytes
  nameLength : name.utf8ByteSize ≤ FileTree.maxNameBytes

namespace Path.Fits

variable {path name ending : String}

theorem iff : Fits path name ↔ IsFileName name ∧ '\x00' ∉ (join path name).toList ∧
    (join path name).utf8ByteSize ≤ Disk.maxPathBytes ∧
    name.utf8ByteSize ≤ FileTree.maxNameBytes :=
  ⟨fun h ↦ ⟨h.isFileName, h.noNul, h.pathLength, h.nameLength⟩,
    fun h ↦ ⟨h.1, h.2.1, h.2.2.1, h.2.2.2⟩⟩

instance (path name : String) : Decidable (Fits path name) := decidable_of_iff' _ iff

/-- The path of an acceptable name is not refused for its text. -/
theorem walkable (h : Fits path name) : Disk.Walkable (join path name) where
  noNul := by
    rw [List.contains_iff_mem]
    exact h.noNul
  nonempty := by
    rw [isEmpty_join h.isFileName]
    exact Bool.false_ne_true
  short := Nat.not_lt.2 h.pathLength

/-- The front of an acceptable name is acceptable, if it is the name of a file. -/
theorem of_append (h : Fits path (name ++ ending)) (hname : IsFileName name) : Fits path name := by
  have hnul := h.noNul
  have hpath := h.pathLength
  have hlength := h.nameLength
  rw [← join_append hname, String.toList_append, List.mem_append, not_or] at hnul
  rw [← join_append hname, String.utf8ByteSize_append] at hpath
  rw [String.utf8ByteSize_append] at hlength
  exact ⟨hname, hnul.1, by omega, by omega⟩

end Path.Fits

namespace Disk

variable {d d' : Disk} {path name : String} {directory place : Location} {follow : Bool}

/-- A location is directly in the directory that a path leads to. -/
def DirectlyIn (d : Disk) (path : String) (place : Location) : Prop :=
  ∃ directory name, d.LeadsTo path directory ∧ place = directory ++ [name]

theorem LeadsTo.unique {directory' : Location} (h : d.LeadsTo path directory)
    (h' : d.LeadsTo path directory') : directory = directory' :=
  Except.ok.inj <|
    (FileTree.walk_eq_ok_iff.2 h.leads).symm.trans (FileTree.walk_eq_ok_iff.2 h'.leads)

/-- Where the path of a file is acceptable, so is the path of the directory. -/
theorem Walkable.of_join (h : Walkable (Path.join path name)) (hname : Path.IsFileName name)
    (hpath : ¬ path.isEmpty = true) : Walkable path := by
  have hhead : name.toList.head? ≠ some '/' := fun hhead ↦ hname.noSlash (List.mem_of_head? hhead)
  obtain ⟨ending, hjoin⟩ : ∃ ending, Path.join path name = path ++ ending := by
    rw [Path.join, if_neg hhead]
    split
    · exact ⟨_, rfl⟩
    · exact ⟨_, String.append_assoc⟩
  have hnul := h.noNul
  have hshort := h.short
  rw [hjoin, List.contains_iff_mem, String.toList_append, List.mem_append, not_or] at hnul
  rw [hjoin, String.utf8ByteSize_append] at hshort
  refine ⟨?_, hpath, by omega⟩
  rw [List.contains_iff_mem]
  exact hnul.1

/-- A slash behind the path of a directory changes nothing. -/
theorem LeadsTo.locate_eq (h : d.LeadsTo path directory) (hwalkable : Walkable path) :
    d.locate path = .ok directory := by
  rw [locate, hwalkable.locateSteps_eq, Path.steps]
  split
  · obtain ⟨left, hleft⟩ := h.leads.walk_append h.isDirectory
    rw [hleft true ["."] (List.cons_ne_nil _ _), FileTree.walk_stay h.isDirectory, FileTree.walk]
  · rw [List.append_nil]
    exact FileTree.walk_eq_ok_iff.2 h.leads

theorem LeadsTo.isDirectory_eq (h : d.LeadsTo path directory) (hwalkable : Walkable path) :
    d.isDirectory path = true :=
  isDirectory_iff.2 ⟨directory, h.locate_eq hwalkable, h.isDirectory⟩

/-- A directory that a path leads to stays where it is as long as the directories and links stay. -/
theorem LeadsTo.of_extends (h : d.LeadsTo path directory) (hextends : d'.tree.Extends d.tree)
    (hwork : d'.workDirectory = d.workDirectory) : d'.LeadsTo path directory := by
  have hdir := FileTree.isDirectory_iff.1 h.isDirectory
  have hdir' : d'.tree.get? directory = some .directory :=
    hextends directory .directory hdir fun _ ↦ Entry.noConfusion
  refine ⟨?_, FileTree.isDirectory_iff.2 hdir'⟩
  rw [base, hwork]
  exact h.leads.of_extends hextends hdir hdir'

/-- A path leads to the same directory after more was added to the disk. -/
theorem LeadsTo.of_grows (h : d.LeadsTo path directory) (hgrows : d.Grows d') :
    d'.LeadsTo path directory :=
  h.of_extends (fun l entry hentry _ ↦ hgrows.get? l entry hentry) hgrows.workDirectory

/-- **In a directory, the path with an acceptable name leads to where this name is,** unless it
follows a link there. -/
theorem LeadsTo.locateSteps_of_fits (h : d.LeadsTo path directory) (hfits : Path.Fits path name)
    (follow : Bool)
    (hlink : follow = true → ∀ target, d.tree.get? (directory ++ [name]) ≠ some (.link target)) :
    d.locateSteps follow (Path.join path name) (Path.names path ++ [name]) =
      .ok (directory ++ [name]) := by
  have hname := hfits.isFileName
  have henters : d.tree.Enters directory name :=
    ⟨h.isDirectory, hname.dot, hname.dots, Nat.not_lt.2 hfits.nameLength⟩
  obtain ⟨left, hleft⟩ := h.leads.walk_append h.isDirectory
  have hbase : d.base (Path.join path name) = d.base path := by
    rw [base, base, Path.isAbsolute_join hname]
  rw [hfits.walkable.locateSteps_eq, hbase, hleft follow [name] (List.cons_ne_nil _ _)]
  rcases hentry : d.tree.get? (directory ++ [name]) with - | entry
  · exact FileTree.walk_missing henters hentry
  · by_cases hthere : ∃ target, entry = .link target
    · obtain ⟨target, rfl⟩ := hthere
      rcases follow with - | -
      · exact FileTree.walk_stop henters hentry
      · exact absurd hentry (hlink rfl target)
    · rw [FileTree.walk_through henters hentry fun target ht ↦ hthere ⟨target, ht⟩, FileTree.walk]

/-- An acceptable name in a directory has its own place there. -/
theorem LeadsTo.locateSelf_of_fits (h : d.LeadsTo path directory) (hfits : Path.Fits path name) :
    d.locateSelf (Path.join path name) = .ok (directory ++ [name]) := by
  rw [locateSelf, Path.names_join hfits.isFileName]
  exact h.locateSteps_of_fits hfits false fun hfollow ↦ by cases hfollow

/-- Its path leads to that place unless there is a link. -/
theorem LeadsTo.locate_of_fits (h : d.LeadsTo path directory) (hfits : Path.Fits path name)
    (hlink : ∀ target, d.tree.get? (directory ++ [name]) ≠ some (.link target)) :
    d.locate (Path.join path name) = .ok (directory ++ [name]) := by
  rw [locate, Path.steps_join hfits.isFileName]
  exact h.locateSteps_of_fits hfits true fun _ ↦ hlink

/-- A directory that is there need not be made. -/
theorem LeadsTo.ensureDirectory_of_fits (h : d.LeadsTo path directory)
    (hfits : Path.Fits path name) : Disk.ensureDirectory path d = (.ok (), d) := by
  rw [Disk.ensureDirectory]
  split
  · rfl
  · next hempty =>
    obtain ⟨kind, hmake, hkind⟩ := h.makeDirectory hempty
    rw [ensureUpwards_cons_eq, hmake]
    dsimp only
    rw [if_neg hkind, if_pos (h.isDirectory_eq (hfits.walkable.of_join hfits.isFileName hempty))]

/-- A path that ends with a name leads to a location with this name, or follows a link there. -/
theorem exists_of_locateSelf {front : List String} (hnames : Path.names path = front ++ [name])
    (hdot : name ≠ ".") (hdots : name ≠ "..") (hlocate : d.locateSelf path = .ok place) :
    ∃ directory, place = directory ++ [name] := by
  rw [locateSelf, (walkable_of_locateSteps hlocate).locateSteps_eq, FileTree.walk_eq_ok_iff,
    hnames] at hlocate
  obtain ⟨left, directory, -, -, hlast⟩ := hlocate.exists_split (List.cons_ne_nil _ _)
  exact ⟨directory, hlast.eq_of_singleton hdot hdots fun hfollow ↦ by cases hfollow⟩

/-- **The path of a file leads to a place in the directory,** unless it follows a link there. -/
theorem exists_leadsTo_of_locateSteps (hname : Path.IsFileName name)
    (hlocate : d.locateSteps follow (Path.join path name) (Path.names path ++ [name]) = .ok place)
    (hlink : follow = true → ∀ directory target, d.LeadsTo path directory →
      d.tree.get? (directory ++ [name]) ≠ some (.link target)) :
    ∃ directory, d.LeadsTo path directory ∧ place = directory ++ [name] := by
  have hbase : d.base (Path.join path name) = d.base path := by
    rw [base, base, Path.isAbsolute_join hname]
  rw [(walkable_of_locateSteps hlocate).locateSteps_eq, FileTree.walk_eq_ok_iff, hbase] at hlocate
  obtain ⟨left, directory, hfront, hdir, hlast⟩ := hlocate.exists_split (List.cons_ne_nil _ _)
  have hleads : d.LeadsTo path directory := ⟨hfront, hdir⟩
  exact ⟨directory, hleads, hlast.eq_of_singleton hname.dot hname.dots
    fun hfollow target ↦ hlink hfollow directory target hleads⟩

/-- A path with a name at its end leads to a place directly in the directory before it. -/
theorem exists_leadsTo_of_locateSelf (hname : Path.IsFileName name)
    (hlocate : d.locateSelf (Path.join path name) = .ok place) :
    ∃ directory, d.LeadsTo path directory ∧ place = directory ++ [name] := by
  rw [locateSelf, Path.names_join hname] at hlocate
  exact exists_leadsTo_of_locateSteps hname hlocate fun hfollow ↦ by cases hfollow

/-- So it does if it is followed to its end and there is no link. -/
theorem exists_leadsTo_of_locate (hname : Path.IsFileName name)
    (hlocate : d.locate (Path.join path name) = .ok place)
    (hlink : ∀ directory target, d.LeadsTo path directory →
      d.tree.get? (directory ++ [name]) ≠ some (.link target)) :
    ∃ directory, d.LeadsTo path directory ∧ place = directory ++ [name] := by
  rw [locate, Path.steps_join hname] at hlocate
  exact exists_leadsTo_of_locateSteps hname hlocate fun _ ↦ hlink

/-! ### Before the directory is made -/

section

variable (h : d'.LeadsTo path directory) (hfits : Path.Fits path name)
  (hnone : d'.tree.get? (directory ++ [name]) = none) (hgrows : d.Grows d') (hd : d.WellFormed)

include h hfits hnone hgrows hd

/-- A file that is not there after its directory was made was not there before. -/
theorem LeadsTo.locateSteps_of_grows (follow : Bool) :
    (∃ spot, d.locateSteps follow (Path.join path name) (Path.names path ++ [name]) = .ok spot ∧
        d.tree.get? spot = none) ∨
      d.locateSteps follow (Path.join path name) (Path.names path ++ [name]) =
        .error .notFound := by
  have hlocate := h.locateSteps_of_fits hfits follow fun _ target hlink ↦ by
    rw [hnone] at hlink
    cases hlink
  have hleads := hlocate
  rw [hfits.walkable.locateSteps_eq, FileTree.walk_eq_ok_iff, base, hgrows.workDirectory,
    ← base] at hleads
  obtain ⟨spot, hspot⟩ | hspot :=
    hleads.walk_of_fewer hd.tree hgrows.get? (hd.isDirectory_base _)
  · rw [← hfits.walkable.locateSteps_eq] at hspot
    refine .inl ⟨spot, hspot, ?_⟩
    rcases hentry : d.tree.get? spot with - | entry
    · rfl
    · obtain rfl : directory ++ [name] = spot :=
        Except.ok.inj (hlocate.symm.trans (hgrows.locateSteps hspot hentry))
      rw [hgrows.get? _ entry hentry] at hnone
      cases hnone
  · rw [hfits.walkable.locateSteps_eq]
    exact .inr hspot

/-- A file that is not in the directory once it is there was not found before, either. -/
theorem LeadsTo.read_of_grows : d.read (Path.join path name) = .error .notFound := by
  rw [read, Disk.locate, Path.steps_join hfits.isFileName]
  obtain ⟨spot, hspot, hspotNone⟩ | hspot := h.locateSteps_of_grows hfits hnone hgrows hd true
  · rw [hspot]
    dsimp only
    rw [hspotNone]
  · rw [hspot]

theorem LeadsTo.remove_of_grows :
    Disk.remove (Path.join path name) d = (.error .notFound, d) := by
  rw [remove_eq, Disk.locateSelf, Path.names_join hfits.isFileName]
  obtain ⟨spot, hspot, hspotNone⟩ | hspot := h.locateSteps_of_grows hfits hnone hgrows hd false
  · rw [hspot]
    dsimp only
    rw [hspotNone]
  · rw [hspot]

end

end Disk

end ServerSetup
