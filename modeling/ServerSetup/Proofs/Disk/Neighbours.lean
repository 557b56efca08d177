import ServerSetup.Proofs.Disk.Discard
import ServerSetup.Proofs.Disk.Footprint
import ServerSetup.Proofs.Disk.Inside

/-!
# Neighbours in a directory

Several users may keep files in one directory, each under names of its own. An operation that is
*local* to some names changes nothing but what has these names, and what else is in the directory
makes no difference to it (`Local`). Writing, renaming, removing and reading files is local to the
names of the files, as long as these are no links, and a sequence is local to what its steps are
local to. Operations that are local to different names can change places (`Local.sameBut_swap`).

The condition on links is part of what the operation is started with: the directory has to be clear
of links under the names (`Clear`), and a local operation keeps it so, for its own names and for
those of the others (`Local.clear`). Two disks agree on some names if both are clear and have the
same there (`Agree`). The two fields of `Local` are the frame of the operation and its congruence,
and the exchange of two operations uses each of them once for each of the two.

A link under one of the names would tie two users together, since one of them would write through it
into what belongs to the other. So the condition cannot be dropped.
-/

namespace ServerSetup

namespace FileTree

variable {t : FileTree} {place : Location}

/-- Where there is neither a directory nor a link, something may be taken away. -/
theorem extends_erase (hdir : t.isDirectory place = false)
    (hlink : ∀ target, t.get? place ≠ some (.link target)) : (t.erase place).Extends t := by
  intro l entry hentry hfile
  have hne : l ≠ place := by
    rintro rfl
    cases entry with
    | file content => exact hfile content rfl
    | directory => exact absurd (isDirectory_iff.2 hentry) (Bool.not_eq_true _ ▸ hdir)
    | link target => exact hlink target hentry
  rw [get?_erase_of_ne t hne, hentry]

end FileTree

namespace Disk

variable {d d' d'' : Disk} {path name : String} {directory l : Location}
  {names names' : String → Prop} {content : List UInt8} {α β ε : Type}

/-! ### Disks that agree on names -/

/-- The locations with some names in a directory. -/
def Named (directory : Location) (names : String → Prop) (l : Location) : Prop :=
  ∃ name, names name ∧ l = directory ++ [name]

theorem Named.mono (h : Named directory names l) (hsub : ∀ name, names name → names' name) :
    Named directory names' l := by
  obtain ⟨name, hname, rfl⟩ := h
  exact ⟨name, hsub name hname, rfl⟩

/-- Names that are apart have different locations. -/
theorem Named.not_of_disjoint (h : Named directory names l)
    (hdisjoint : ∀ name, names name → ¬ names' name) : ¬ Named directory names' l := by
  rintro ⟨name', hname', hl⟩
  obtain ⟨name, hname, rfl⟩ := h
  obtain rfl : name = name' := List.cons.inj (List.append_inj' hl rfl).2 |>.1
  exact hdisjoint name hname hname'

/-- A path leads to a directory in which none of the names is a link. -/
structure Clear (d : Disk) (path : String) (directory : Location) (names : String → Prop) :
    Prop where
  leads : d.LeadsTo path directory
  noLink : ∀ l, Named directory names l → ∀ target, d.tree.get? l ≠ some (.link target)

/-- Two such disks have the same under the names, and refuse the same. -/
structure Agree (d d' : Disk) (path : String) (directory : Location) (names : String → Prop) :
    Prop where
  left : d.Clear path directory names
  right : d'.Clear path directory names
  refuses : d'.refuses = d.refuses
  get? : ∀ l, Named directory names l → d'.tree.get? l = d.tree.get? l

theorem SameBut.refl (except : Location → Prop) (d : Disk) : d.SameBut except d :=
  ⟨rfl, rfl, fun _ _ ↦ rfl⟩

/-- What is the same but for some locations after each of two steps is so after both. -/
theorem SameBut.trans {except : Location → Prop} (h : d.SameBut except d')
    (h' : d'.SameBut except d'') : d.SameBut except d'' where
  workDirectory := h'.workDirectory.trans h.workDirectory
  refuses := h'.refuses.trans h.refuses
  get? l hl := (h'.get? l hl).trans (h.get? l hl)

/-- A change of what is at one location. -/
theorem SameBut.of_tree {except : Location → Prop} {t : FileTree}
    (h : ∀ l, ¬ except l → t.get? l = d.tree.get? l) : d.SameBut except { d with tree := t } :=
  ⟨rfl, rfl, h⟩

namespace Clear

theorem mono (h : d.Clear path directory names') (hsub : ∀ name, names name → names' name) :
    d.Clear path directory names :=
  ⟨h.leads, fun l hl ↦ h.noLink l (hl.mono hsub)⟩

theorem agree (h : d.Clear path directory names) : d.Agree d path directory names :=
  ⟨h, h, rfl, fun _ _ ↦ rfl⟩

/-- Where no name is a link, an acceptable name leads to its place in the directory. -/
theorem locate_eq (h : d.Clear path directory names) (hfits : Path.Fits path name)
    (hname : names name) : d.locate (Path.join path name) = .ok (directory ++ [name]) :=
  h.leads.locate_of_fits hfits (h.noLink _ ⟨name, hname, rfl⟩)

theorem locateSelf_eq (h : d.Clear path directory names) (hfits : Path.Fits path name) :
    d.locateSelf (Path.join path name) = .ok (directory ++ [name]) :=
  h.leads.locateSelf_of_fits hfits

/-- The directory stays clear when a file is put under one of the names. -/
theorem put (h : d.Clear path directory names) (hdir : d.tree.isDirectory l = false)
    (hl : Named directory names l) (content : List UInt8) :
    Clear { d with tree := d.tree.put l (.file content) } path directory names where
  leads := h.leads.of_extends (FileTree.extends_put hdir (h.noLink l hl) content) rfl
  noLink l' hl' target := by
    rw [FileTree.get?_put]
    split
    · simp
    · exact h.noLink l' hl' target

/-- The directory stays clear when a file is erased under one of the names. -/
theorem erase (h : d.Clear path directory names) (hdir : d.tree.isDirectory l = false)
    (hl : Named directory names l) :
    Clear { d with tree := d.tree.erase l } path directory names where
  leads := h.leads.of_extends (FileTree.extends_erase hdir (h.noLink l hl)) rfl
  noLink l' hl' target := by
    rw [FileTree.get?_erase]
    split
    · simp
    · exact h.noLink l' hl' target

end Clear

namespace Agree

theorem isDirectory_eq (h : d.Agree d' path directory names) (hl : Named directory names l) :
    d'.tree.isDirectory l = d.tree.isDirectory l := by
  rw [FileTree.isDirectory, FileTree.isDirectory, h.get? l hl]

/-- Disks that agree do so after the same file was put into both. -/
theorem put (h : d.Agree d' path directory names) (hdir : d.tree.isDirectory l = false)
    (hl : Named directory names l) (content : List UInt8) :
    Agree { d with tree := d.tree.put l (.file content) }
      { d' with tree := d'.tree.put l (.file content) } path directory names where
  left := h.left.put hdir hl content
  right := h.right.put ((h.isDirectory_eq hl).trans hdir) hl content
  refuses := h.refuses
  get? l' hl' := by rw [FileTree.get?_put, FileTree.get?_put, h.get? l' hl']

/-- Disks that agree do so after the same file was erased in both. -/
theorem erase (h : d.Agree d' path directory names) (hdir : d.tree.isDirectory l = false)
    (hl : Named directory names l) :
    Agree { d with tree := d.tree.erase l } { d' with tree := d'.tree.erase l } path directory
      names where
  left := h.left.erase hdir hl
  right := h.right.erase ((h.isDirectory_eq hl).trans hdir) hl
  refuses := h.refuses
  get? l' hl' := by rw [FileTree.get?_erase, FileTree.get?_erase, h.get? l' hl']

end Agree

/-! ### Local operations -/

/-- An operation is local to some names in the directory that a path leads to: it changes nothing
else, and nothing else makes a difference to it. -/
structure Local (path : String) (directory : Location) (names : String → Prop)
    (op : Disk → α × Disk) : Prop where
  frame : ∀ d : Disk, d.Clear path directory names → d.SameBut (Named directory names) (op d).2
  congr : ∀ d d' : Disk, d.Agree d' path directory names →
    (op d').1 = (op d).1 ∧ (op d).2.Agree (op d').2 path directory names

namespace Local

/-- What other names have is left alone, so that they are as clear as before. -/
theorem clear {op : Disk → α × Disk} (hop : Local path directory names op)
    (h : d.Clear path directory names') (hsub : ∀ name, names name → names' name) :
    (op d).2.Clear path directory names' := by
  have hown := h.mono hsub
  have hclear := (hop.congr d d hown.agree).2.left
  refine ⟨hclear.leads, fun l hl ↦ ?_⟩
  by_cases hnamed : Named directory names l
  · exact hclear.noLink l hnamed
  · rw [(hop.frame d hown).get? l hnamed]
    exact h.noLink l hl

theorem answer (a : α) : Local path directory names fun d ↦ (a, d) where
  frame d _ := .refl _ d
  congr _ _ h := ⟨rfl, h⟩

/-- What follows on an answer is local to the names, too. -/
theorem andThen {op : Disk → α × Disk} {next : α → Disk → β × Disk}
    (hop : Local path directory names op) (hnext : ∀ a, Local path directory names (next a)) :
    Local path directory names fun d ↦ next (op d).1 (op d).2 where
  frame d h := (hop.frame d h).trans ((hnext _).frame _ (hop.clear h fun _ hname ↦ hname))
  congr d d' h := by
    obtain ⟨hanswer, hagree⟩ := hop.congr d d' h
    rw [hanswer]
    exact (hnext _).congr _ _ hagree

theorem map {op : Disk → α × Disk} (hop : Local path directory names op) (f : α → β) :
    Local path directory names fun d ↦ (f (op d).1, (op d).2) :=
  @andThen _ _ _ _ _ _ (fun a d ↦ (f a, d)) hop fun _ ↦ answer _

/-- A sequence is local to what its steps are local to. -/
theorem bind {op : ExceptT ε (StateM Disk) α} {f : α → ExceptT ε (StateM Disk) β}
    (hop : Local path directory names op) (hf : ∀ a, Local path directory names (f a)) :
    Local path directory names (op >>= f) := by
  rw [StateExcept.bind_eq_bindCont]
  refine hop.andThen fun r ↦ ?_
  rcases r with e | a
  · exact answer _
  · exact hf a

/-- So is an operation whose failure is caught. -/
theorem tryCatch {op : ExceptT ε (StateM Disk) α} {handle : ε → ExceptT ε (StateM Disk) α}
    (hop : Local path directory names op) (hhandle : ∀ e, Local path directory names (handle e)) :
    Local path directory names (MonadExcept.tryCatch op handle) := by
  rw [StateExcept.tryCatch_eq_caught]
  refine hop.andThen fun r ↦ ?_
  rcases r with e | a
  · exact hhandle e
  · exact answer _

/-- Of operations that do the same where the names are clear, both are local to them. -/
theorem of_eq {op op' : Disk → α × Disk} (hop : Local path directory names op')
    (h : ∀ d : Disk, d.Clear path directory names → op d = op' d) :
    Local path directory names op where
  frame d hd := by
    rw [h d hd]
    exact hop.frame d hd
  congr d d' hagree := by
    rw [h d hagree.left, h d' hagree.right]
    exact hop.congr d d' hagree

/-! ### Files -/

section

variable (hfits : Path.Fits path name) (hname : names name)

include hfits

/-- Where the directory is there, it is not made. -/
theorem ensureDirectory : Local path directory names (Disk.ensureDirectory path) :=
  (answer (.ok ())).of_eq fun _ h ↦ h.leads.ensureDirectory_of_fits hfits

include hname

/-- Reading a file is local to its name. -/
theorem read : Local path directory names fun d ↦ (d.read (Path.join path name), d) where
  frame d _ := .refl _ d
  congr d d' h := by
    refine ⟨?_, h⟩
    rw [Disk.read, Disk.read, h.left.locate_eq hfits hname, h.right.locate_eq hfits hname,
      h.refuses]
    dsimp only
    rw [h.get? _ ⟨name, hname, rfl⟩]

/-- Writing a file is local to its name. -/
theorem write (content : List UInt8) :
    Local path directory names (Disk.write (Path.join path name) content) := by
  have hslash : Path.endsWithSlash (Path.join path name) = false :=
    Path.endsWithSlash_join hfits.isFileName
  have hnamed : Named directory names (directory ++ [name]) := ⟨name, hname, rfl⟩
  refine ⟨fun d h ↦ ?_, fun d d' h ↦ ?_⟩
  · obtain hsame | ⟨place, written, hlocate, -, hwritten⟩ := @Disk.write_cases d _ content hslash
    · rw [hsame]
      exact .refl _ d
    · obtain rfl : directory ++ [name] = place :=
        Except.ok.inj ((h.locate_eq hfits hname).symm.trans hlocate)
      rw [hwritten]
      refine .of_tree fun l hl ↦ FileTree.get?_put_of_ne _ ?_ _
      rintro rfl
      exact hl hnamed
  -- Both disks refuse the same step, if any, and what was written until then is the same.
  · obtain ⟨tree', workDirectory', refuses'⟩ := d'
    obtain rfl : refuses' = d.refuses := h.refuses
    rw [write_eq, write_eq, create_eq hslash, create_eq hslash, h.left.locate_eq hfits hname,
      h.right.locate_eq hfits hname]
    dsimp only
    rw [h.isDirectory_eq hnamed]
    rcases hdir : d.tree.isDirectory (directory ++ [name]) with - | -
    · rw [if_neg Bool.false_ne_true, if_neg Bool.false_ne_true]
      rcases d.refuses (.create (directory ++ [name])) with - | kind
      · dsimp only
        rw [FileTree.put_put, FileTree.put_put]
        rcases d.refuses (.write (directory ++ [name])) with - | kind
        · dsimp only
          rcases d.refuses (.flush (directory ++ [name])) with - | kind
          · exact ⟨rfl, h.put hdir hnamed content⟩
          · exact ⟨rfl, h.put hdir hnamed content⟩
        · exact ⟨rfl, h.put hdir hnamed []⟩
      · exact ⟨rfl, h⟩
    · exact ⟨rfl, h⟩

/-- Removing a file is local to its name. -/
theorem remove : Local path directory names (Disk.remove (Path.join path name)) := by
  have hslash : Path.endsWithSlash (Path.join path name) = false :=
    Path.endsWithSlash_join hfits.isFileName
  have hnamed : Named directory names (directory ++ [name]) := ⟨name, hname, rfl⟩
  -- First what stays on one disk, then that disks that agree on the names answer alike.
  refine ⟨fun d h ↦ ?_, fun d d' h ↦ ?_⟩
  · obtain hsame | ⟨place, hlocate, -, hremoved⟩ := remove_cases (Path.join path name) d
    · rw [hsame]
      exact .refl _ d
    · obtain rfl : directory ++ [name] = place :=
        Except.ok.inj ((h.locateSelf_eq hfits).symm.trans hlocate)
      rw [hremoved]
      refine .of_tree fun l hl ↦ FileTree.get?_erase_of_ne _ ?_
      rintro rfl
      exact hl hnamed
  · obtain ⟨tree', workDirectory', refuses'⟩ := d'
    obtain rfl : refuses' = d.refuses := h.refuses
    have hself := h.left.locateSelf_eq hfits
    have hself' := h.right.locateSelf_eq hfits
    rcases hentry : d.tree.get? (directory ++ [name]) with - | entry
    · rw [remove_eq, remove_eq, hself, hself']
      dsimp only
      rw [h.get? _ hnamed, hentry]
      exact ⟨rfl, h⟩
    · by_cases hdirectory : entry = .directory
      · rw [remove_eq, remove_eq, hself, hself']
        dsimp only
        rw [h.get? _ hnamed, hentry, hdirectory]
        exact ⟨rfl, h⟩
      · have hdir : d.tree.isDirectory (directory ++ [name]) = false := by
          rw [← Bool.not_eq_true, FileTree.isDirectory_iff, hentry, Option.some.injEq]
          exact hdirectory
        rw [remove_of_some hself hentry hdirectory,
          remove_of_some hself' ((h.get? _ hnamed).trans hentry) hdirectory, hslash,
          if_neg Bool.false_ne_true, if_neg Bool.false_ne_true, act_eq, act_eq]
        dsimp only
        rcases d.refuses (.remove (directory ++ [name])) with - | kind
        · exact ⟨rfl, h.erase hdir hnamed⟩
        · exact ⟨rfl, h⟩

end

/-- Renaming a file is local to its two names. -/
theorem rename {source target : String} (hsource : Path.Fits path source)
    (htarget : Path.Fits path target) (hmine : names source) (hmine' : names target) :
    Local path directory names (Disk.rename (Path.join path source) (Path.join path target)) := by
  have hplace : Named directory names (directory ++ [source]) := ⟨source, hmine, rfl⟩
  have hgoal : Named directory names (directory ++ [target]) := ⟨target, hmine', rfl⟩
  refine ⟨fun d h ↦ ?_, fun d d' h ↦ ?_⟩
  · have hchange (entry : Entry) (l : Location) (hl : ¬ Named directory names l) :
        ((d.tree.erase (directory ++ [source])).put (directory ++ [target]) entry).get? l =
          d.tree.get? l := by
      rw [FileTree.get?_put_of_ne, FileTree.get?_erase_of_ne]
      · rintro rfl
        exact hl hplace
      · rintro rfl
        exact hl hgoal
    rw [rename_eq, h.locateSelf_eq hsource, h.locateSelf_eq htarget]
    dsimp only
    split
    · exact .refl _ d
    · exact .refl _ d
    · split
      · exact .refl _ d
      · split
        · exact .refl _ d
        · split
          · exact .refl _ d
          · exact .of_tree (hchange _)
  · obtain ⟨tree', workDirectory', refuses'⟩ := d'
    obtain rfl : refuses' = d.refuses := h.refuses
    have hself := h.left.locateSelf_eq hsource
    have hself' := h.right.locateSelf_eq hsource
    rcases hentry : d.tree.get? (directory ++ [source]) with - | entry
    · rw [rename_eq, rename_eq, hself, hself']
      dsimp only
      rw [h.get? _ hplace, hentry]
      exact ⟨rfl, h⟩
    · cases entry with
      | directory =>
        rw [rename_eq, rename_eq, hself, hself']
        dsimp only
        rw [h.get? _ hplace, hentry]
        exact ⟨rfl, h⟩
      -- A link would be moved to the goal, where the names are to have none.
      | link link => exact absurd hentry (h.left.noLink _ hplace link)
      | file content =>
        have hdir : d.tree.isDirectory (directory ++ [source]) = false := by
          rw [FileTree.isDirectory, hentry]
          rfl
        rw [rename_of_some hself hentry Entry.noConfusion (h.left.locateSelf_eq htarget),
          rename_of_some hself' ((h.get? _ hplace).trans hentry) Entry.noConfusion
            (h.right.locateSelf_eq htarget), h.isDirectory_eq hgoal, act_eq, act_eq]
        dsimp only
        split
        · exact ⟨rfl, h⟩
        · next hne =>
          rcases hgoalDir : d.tree.isDirectory (directory ++ [target]) with - | -
          · rw [if_neg Bool.false_ne_true, if_neg Bool.false_ne_true]
            rcases d.refuses (.rename (directory ++ [source]) (directory ++ [target])) with
              - | kind
            · have herased : (d.tree.erase (directory ++ [source])).isDirectory
                  (directory ++ [target]) = false := by
                rw [FileTree.isDirectory, FileTree.get?_erase_of_ne _ hne]
                exact hgoalDir
              exact ⟨rfl, (h.erase hdir hplace).put herased hgoal content⟩
            · exact ⟨rfl, h⟩
          · exact ⟨rfl, h⟩

/-! ### Local operations change places -/

section

variable {op : Disk → α × Disk} {op' : Disk → β × Disk} (hop : Local path directory names op)
  (hop' : Local path directory names' op') (hdisjoint : ∀ name, names name → ¬ names' name)

include hop hdisjoint

/-- What is local to other names leaves a name as it is. -/
theorem agree (h : d.Clear path directory fun name ↦ names name ∨ names' name) :
    d.Agree (op d).2 path directory names' where
  left := h.mono fun _ hname ↦ .inr hname
  right := (hop.clear h fun _ hname ↦ .inl hname).mono fun _ hname ↦ .inr hname
  refuses := (hop.frame d (h.mono fun _ hname ↦ .inl hname)).refuses
  get? l hl := (hop.frame d (h.mono fun _ hname ↦ .inl hname)).get? l
    (hl.not_of_disjoint fun name hname' hname ↦ hdisjoint name hname hname')

include hop'

/-- **Operations that are local to different names can change places.** -/
theorem sameBut_swap (h : d.Clear path directory fun name ↦ names name ∨ names' name) :
    (op' (op d).2).2.SameBut (fun _ ↦ False) (op (op' d).2).2 := by
  have hswapped : d.Clear path directory fun name ↦ names' name ∨ names name :=
    h.mono fun _ hname ↦ hname.symm
  have hclear := hop.clear h fun _ hname ↦ .inl hname
  have hclear' := hop'.clear h fun _ hname ↦ .inr hname
  have hframe := hop'.frame _ (hclear.mono fun _ hname ↦ .inr hname)
  have hframe' := hop.frame _ (hclear'.mono fun _ hname ↦ .inl hname)
  have hfirst := hop.frame d (h.mono fun _ hname ↦ .inl hname)
  have hfirst' := hop'.frame d (h.mono fun _ hname ↦ .inr hname)
  have hdisjoint' : ∀ name, names' name → ¬ names name :=
    fun name hname' hname ↦ hdisjoint name hname hname'
  refine ⟨?_, ?_, fun l _ ↦ ?_⟩
  · rw [hframe.workDirectory, hframe'.workDirectory, hfirst.workDirectory, hfirst'.workDirectory]
  · rw [hframe.refuses, hframe'.refuses, hfirst.refuses, hfirst'.refuses]
  -- A location has one of the first names, one of the second names, or neither.
  · by_cases hl : Named directory names l
    · have hsame := (hop.congr d (op' d).2 (hop'.agree hdisjoint' hswapped)).2.get? l hl
      rw [hsame, hframe.get? l (hl.not_of_disjoint hdisjoint)]
    · by_cases hl' : Named directory names' l
      · have hsame := (hop'.congr d (op d).2 (hop.agree hdisjoint h)).2.get? l hl'
        rw [hsame, hframe'.get? l hl]
      · rw [hframe.get? l hl', hframe'.get? l hl, hfirst.get? l hl, hfirst'.get? l hl']

end

end Local

end Disk

end ServerSetup
