import Mathlib.Data.String.Basic
import ServerSetup.Proofs.Disk.Inside

/-!
# The directories above a path

Where a path leads to a directory, the paths above it do so, too
(`LeadsTo.isDirectory_of_mem_pathsAbove`). So if a directory cannot be made together with the
directories above it, its path leads to no directory afterwards (`not_leadsTo_of_ensureDirectory`).

The paths above a path are texts, and a walk goes along names. The first half of the module connects
the two: the path above is put together from the first names, with the root in front if there was
one, so that it has these names again (`names_of_front`), starts at the same place and is not
longer. Dots, double slashes and a slash at the end vanish on the way. They matter to a walk only in
that a dot asks for a directory, which is there anyway if the walk goes on (`walk_filter`).

The second half goes through the loop that makes the directories. It starts at the path itself and
climbs as long as nothing is found, and the conclusion needs that the walk to every path above ends
at a directory if the walk to the path does.
-/

namespace ServerSetup

namespace Path

variable {path name : String} {names' : List String}

/-! ### Paths made of names -/

/-- A name in a path is not empty and has no slash in it. -/
theorem mem_names (h : name ∈ names path) : name.toList ≠ [] ∧ '/' ∉ name.toList := by
  rw [names, List.mem_map] at h
  obtain ⟨piece, hpiece, rfl⟩ := h
  obtain ⟨hpiece, hnonempty⟩ := List.mem_filter.1 hpiece
  rw [String.toList_ofList]
  refine ⟨by simpa using hnonempty, fun hslash ↦ ?_⟩
  exact absurd (Text.mem_of_mem_splitWhere hpiece '/' hslash).2 (by simp)

/-- A slash in front does not count among the names. -/
theorem names_slash_append (path : String) : names ("/" ++ path) = names path := by
  have hslash : ("/" ++ path).toList = [] ++ '/' :: path.toList := by simp
  rw [names_eq_splitOn, names_eq_splitOn, hslash, List.splitOn_append_cons_self, List.splitOn_nil]
  rfl

/-- The names of a path are those that it is made of. -/
theorem names_intercalate (h : ∀ name ∈ names', name.toList ≠ [] ∧ '/' ∉ name.toList) :
    names (String.intercalate "/" names') = names' := by
  rcases names' with - | ⟨first, rest⟩
  · rfl
  · have hpieces : ∀ piece ∈ (first :: rest).map String.toList, '/' ∉ piece := by
      intro piece hpiece
      obtain ⟨name, hname, rfl⟩ := List.mem_map.1 hpiece
      exact (h name hname).2
    have hnonempty : ((first :: rest).map String.toList).filter (! ·.isEmpty) =
        (first :: rest).map String.toList := by
      refine List.filter_eq_self.2 fun piece hpiece ↦ ?_
      obtain ⟨name, hname, rfl⟩ := List.mem_map.1 hpiece
      simpa using (h name hname).1
    have hslash : "/".toList = ['/'] := rfl
    rw [names_eq_splitOn, String.toList_intercalate, hslash,
      List.splitOn_intercalate '/' hpieces (List.cons_ne_nil _ _), hnonempty, List.map_map]
    simp

/-- Names joined by slashes do not start with one. -/
theorem isAbsolute_intercalate (h : ∀ name ∈ names', name.toList ≠ [] ∧ '/' ∉ name.toList) :
    isAbsolute (String.intercalate "/" names') = false := by
  rcases names' with - | ⟨first, rest⟩
  · rfl
  · obtain ⟨hfirst, hslash⟩ := h first List.mem_cons_self
    obtain ⟨c, cs, hc⟩ := List.exists_cons_of_ne_nil hfirst
    have hhead : (String.intercalate "/" (first :: rest)).toList.head? = some c := by
      rw [String.toList_intercalate, List.map_cons]
      rcases rest.map String.toList with - | ⟨next, others⟩
      · rw [List.intercalate_singleton, hc, List.head?_cons]
      · rw [List.intercalate_cons_cons, hc, List.append_assoc, List.cons_append, List.head?_cons]
    rw [isAbsolute, hhead, beq_eq_false_iff_ne]
    rintro ⟨⟩
    exact hslash (hc ▸ List.mem_cons_self)

/-- Fewer parts with the same separator give a shorter text. -/
theorem sublist_intercalate {α : Type} (separator : List α) {xs ys : List (List α)}
    (h : xs.Sublist ys) : (separator.intercalate xs).Sublist (separator.intercalate ys) := by
  induction h with
  | slnil => exact .refl _
  | @cons xs ys y h ih =>
    rcases ys with - | ⟨z, ys⟩
    · rw [List.sublist_nil.1 h]
      exact List.nil_sublist _
    · rw [List.intercalate_cons_cons]
      exact ih.trans (List.sublist_append_right _ _)
  | @cons_cons xs ys y h ih =>
    rcases ys with - | ⟨z, ys⟩
    · rw [List.sublist_nil.1 h]
    · rcases xs with - | ⟨x, xs⟩
      · rw [List.intercalate_singleton, List.intercalate_cons_cons, List.append_assoc]
        exact List.sublist_append_left _ _
      · rw [List.intercalate_cons_cons, List.intercalate_cons_cons]
        exact ih.append_left _

/-- What is made of some names of a path stands in the path. -/
theorem toList_intercalate_sublist (h : names'.Sublist (names path)) :
    (String.intercalate "/" names').toList.Sublist path.toList := by
  have hpieces : (names'.map String.toList).Sublist (path.toList.splitOn '/') := by
    refine (h.map String.toList).trans ?_
    rw [names_eq_splitOn, List.map_map]
    simp
  have hslash : "/".toList = ['/'] := rfl
  have hjoined := sublist_intercalate ['/'] hpieces
  rwa [List.intercalate_splitOn, ← hslash, ← String.toList_intercalate] at hjoined

/-! ### The paths above a path -/

/-- What a path starts with before its first name. -/
def root (path : String) : String := if isAbsolute path then "/" else ""

/-- A path above another one is the root, or is made of the first names. -/
theorem exists_of_mem_pathsAbove {above : String} (h : above ∈ Disk.pathsAbove path) :
    above = "/" ∨ ∃ front tail, (names path).filter (· ≠ ".") = front ++ tail ∧
      front.Sublist (names path) ∧ front ≠ [] ∧ tail ≠ [] ∧
      above = root path ++ String.intercalate "/" front := by
  rw [Disk.pathsAbove] at h
  obtain habove | hroot := List.mem_append.1 h
  · rw [List.mem_reverse, List.mem_map] at habove
    obtain ⟨n, hn, rfl⟩ := habove
    rw [List.mem_range] at hn
    refine .inr ⟨_, _, (List.take_append_drop (n + 1) _).symm, ?_, ?_, ?_, rfl⟩
    · exact (List.take_sublist _ _).trans List.filter_sublist
    · exact List.ne_nil_of_length_pos (by rw [List.length_take]; omega)
    · exact List.ne_nil_of_length_pos (by rw [List.length_drop]; omega)
  · split at hroot
    · exact .inl (List.mem_singleton.1 hroot)
    · exact absurd hroot List.not_mem_nil

section

variable {front : List String} (h : front.Sublist (names path))

include h

/-- The path that is made of the first names of a path has these names. -/
theorem names_of_front : names (root path ++ String.intercalate "/" front) = front := by
  have hfront := names_intercalate fun name hname ↦ mem_names (h.subset hname)
  rw [root]
  split
  · rw [names_slash_append, hfront]
  · rw [String.empty_append, hfront]

/-- It starts at the root exactly if the whole path does. -/
theorem isAbsolute_of_front :
    isAbsolute (root path ++ String.intercalate "/" front) = isAbsolute path := by
  rw [root]
  rcases hpath : isAbsolute path with - | -
  · rw [if_neg Bool.false_ne_true, String.empty_append]
    exact isAbsolute_intercalate fun name hname ↦ mem_names (h.subset hname)
  · rw [if_pos rfl, isAbsolute]
    simp

/-- It is the path with some characters left out, so that it is no longer. -/
theorem toList_front_sublist :
    (root path ++ String.intercalate "/" front).toList.Sublist path.toList := by
  rw [root]
  split
  · next habsolute =>
    obtain ⟨cs, hcs⟩ := List.head?_eq_some_iff.1 (beq_iff_eq.1 habsolute)
    obtain rfl : path = "/" ++ String.ofList cs := String.toList_inj.1 (by simp [hcs])
    rw [names_slash_append] at h
    rw [String.toList_append, String.toList_append]
    exact (toList_intercalate_sublist h).append_left _
  · rw [String.empty_append]
    exact toList_intercalate_sublist h

end

end Path

namespace FileTree

variable {t : FileTree} {follow : Bool} {tail : List String}

/-- A dot on the way does not matter. -/
theorem walk_dot (htail : tail ≠ []) (links : Nat) (here : Location) (front : List String) :
    t.walk follow links here (front ++ "." :: tail) = t.walk follow links here (front ++ tail) := by
  rcases front with - | ⟨name, front⟩
  · rw [List.nil_append, List.nil_append]
    rcases hdir : t.isDirectory here with - | -
    · obtain ⟨name, rest, rfl⟩ := List.exists_cons_of_ne_nil htail
      rw [walk, walk, hdir]
      rfl
    · exact walk_stay hdir
  · have hdotted : (front ++ "." :: tail).isEmpty = false := by simp
    have hempty : (front ++ tail).isEmpty = false := by simp [htail]
    rw [List.cons_append, List.cons_append, walk, walk, walk_dot htail links here front,
      walk_dot htail links here.dropLast front, walk_dot htail links (here ++ [name]) front,
      hdotted, hempty]
    rcases t.get? (here ++ [name]) with - | content | - | target
    · rfl
    · rfl
    · rfl
    · rcases hlinks : links with - | left
      · rfl
      · have hjump := walk_dot htail left (if Path.isAbsolute target then [] else here)
          (Path.steps target ++ front)
        rw [List.append_assoc, List.append_assoc] at hjump
        dsimp only
        rw [hjump]
termination_by (links, front.length)

/-- Dots on the way make no difference to a walk that goes on behind them. -/
theorem walk_filter (htail : tail ≠ []) (links : Nat) (here : Location) (steps : List String) :
    t.walk follow links here (steps.filter (· ≠ ".") ++ tail) =
      t.walk follow links here (steps ++ tail) := by
  -- The names that were walked already stand in front.
  suffices h : ∀ front, t.walk follow links here (front ++ (steps.filter (· ≠ ".") ++ tail)) =
      t.walk follow links here (front ++ (steps ++ tail)) from h []
  induction steps with
  | nil => exact fun _ ↦ rfl
  | cons name steps ih =>
    intro front
    by_cases hname : name = "."
    · have hbehind : steps ++ tail ≠ [] := List.append_ne_nil_of_right_ne_nil _ htail
      rw [hname, List.filter_cons_of_neg (by simp), ih, List.cons_append, walk_dot hbehind]
    · rw [List.filter_cons_of_pos (by simpa using hname), List.cons_append, List.cons_append,
        List.append_cons, ih, ← List.append_cons]

/-- **A walk to where there is nothing** ends in a directory, and finds nothing behind. -/
theorem Leads.of_none {links : Nat} {here place : Location} {steps : List String}
    (h : t.Leads follow links here steps place) (ht : t.WellFormed)
    (hhere : t.isDirectory here = true) (hnone : t.get? place = none) :
    (∃ directory name, place = directory ++ [name] ∧ t.isDirectory directory = true) ∧
      ∀ follow' tail, tail ≠ [] →
        t.walk follow' links here (steps ++ tail) = .error .notFound := by
  induction h with
  | here =>
    rw [isDirectory_iff, hnone] at hhere
    cases hhere
  | stay hdir _ ih =>
    obtain ⟨hplace, hbehind⟩ := ih hhere hnone
    exact ⟨hplace, fun follow' tail htail ↦ (walk_stay hdir).trans (hbehind follow' tail htail)⟩
  | up hdir _ ih =>
    obtain ⟨hplace, hbehind⟩ := ih (ht.isDirectory_dropLast hdir) hnone
    exact ⟨hplace, fun follow' tail htail ↦ (walk_up hdir).trans (hbehind follow' tail htail)⟩
  | missing henters _ =>
    refine ⟨⟨_, _, rfl, henters.directory⟩, fun follow' tail htail ↦ ?_⟩
    exact (walk_missing henters hnone).trans (if_neg (by simpa using htail))
  -- The walk stops at a link, which is there.
  | stop _ hlink =>
    rw [hlink] at hnone
    cases hnone
  | @jump links here place name target rest henters hlink _ _ ih =>
    have hbase : t.isDirectory (if Path.isAbsolute target then [] else here) = true := by
      split
      · rfl
      · exact hhere
    obtain ⟨hplace, hbehind⟩ := ih hbase hnone
    refine ⟨hplace, fun follow' tail htail ↦ ?_⟩
    rw [List.cons_append,
      walk_jump henters hlink (.inl (List.append_ne_nil_of_right_ne_nil _ htail)),
      ← List.append_assoc]
    exact hbehind follow' tail htail
  | @through links here place name entry rest henters hentry hnoLink hrest ih =>
    -- Nothing is at the place, so the walk cannot have gone through a link or end behind a file.
    cases entry with
    | link target => exact absurd rfl (hnoLink target)
    | directory =>
      obtain ⟨hplace, hbehind⟩ := ih (isDirectory_iff.2 hentry) hnone
      exact ⟨hplace, fun follow' tail htail ↦
        (walk_through henters hentry hnoLink).trans (hbehind follow' tail htail)⟩
    | file content =>
      obtain ⟨-, rfl⟩ := hrest.eq_of_file hentry
      rw [hentry] at hnone
      cases hnone

/-- A walk through a tree is never refused. -/
theorem walk_ne_permissionDenied (links : Nat) (here : Location) (steps : List String) :
    t.walk follow links here steps ≠ .error .permissionDenied := by
  fun_induction walk t follow links here steps with
  | case3 links here rest hdir ih => exact ih
  | case4 links here rest hdir hdot ih => exact ih
  | case10 here name rest hdir hdot hdots hlength target hlink hgoes links ih => exact ih
  | case11 links here name rest hdir hdot hdots hlength entry hnoLink hentry ih => exact ih
  | _ =>
    intro h
    cases h

end FileTree

namespace Disk

variable {d d' : Disk} {path name above : String} {directory : Location} {kind : IoKind}

/-- A path that is not refused for its text stays so when characters are left out, if it does not
become empty. -/
theorem Walkable.of_sublist (h : Walkable path) (hsub : above.toList.Sublist path.toList)
    (hne : ¬ above.isEmpty = true) : Walkable above where
  noNul := by
    have hnul := h.noNul
    rw [List.contains_iff_mem] at hnul ⊢
    exact fun hmem ↦ hnul (hsub.subset hmem)
  nonempty := hne
  short := by
    have hlength := String.utf8Len_le_of_sublist hsub
    have hshort := h.short
    rw [String.utf8Len_toList, String.utf8Len_toList] at hlength
    omega

/-- **The paths above the path of a directory lead to directories.** -/
theorem LeadsTo.isDirectory_of_mem_pathsAbove (h : d.LeadsTo path directory)
    (hwalkable : Walkable path) (habove : above ∈ pathsAbove path) :
    d.isDirectory above = true := by
  obtain rfl | ⟨front, tail, hnames, hsub, hfront, htail, rfl⟩ :=
    Path.exists_of_mem_pathsAbove habove
  · have hroot : d.LeadsTo "/" [] := by
      have hnames : Path.names "/" = [] := by decide
      have hbase : d.base "/" = [] := if_pos (by decide)
      refine ⟨?_, rfl⟩
      rw [hnames, hbase]
      exact .here ..
    exact hroot.isDirectory_eq (by decide)
  · -- The walk to the directory comes through the one above.
    obtain ⟨left, hleft⟩ := h.leads.walk_append h.isDirectory
    have hwalk := hleft true ["."] (List.cons_ne_nil _ _)
    rw [FileTree.walk_stay h.isDirectory, FileTree.walk,
      ← FileTree.walk_filter (List.cons_ne_nil _ _), hnames, List.append_assoc,
      FileTree.walk_eq_ok_iff] at hwalk
    obtain ⟨_, middle, hmiddle, hdir, -⟩ :=
      hwalk.exists_split (List.append_ne_nil_of_left_ne_nil htail _)
    have habove : d.LeadsTo (Path.root path ++ String.intercalate "/" front) middle := by
      refine ⟨?_, hdir⟩
      rw [Path.names_of_front hsub, base, Path.isAbsolute_of_front hsub]
      exact hmiddle
    refine habove.isDirectory_eq (hwalkable.of_sublist (Path.toList_front_sublist hsub) ?_)
    intro hempty
    have hnames' := Path.names_of_front hsub
    rw [String.isEmpty_iff.1 hempty] at hnames'
    exact hfront hnames'.symm

/-! ### Directories that cannot be made -/

/-- A directory that could not be made has changed nothing. -/
theorem eq_of_makeDirectory_eq_error (h : makeDirectory path d = (.error kind, d')) : d' = d := by
  rw [makeDirectory_eq] at h
  split at h
  · cases h
    rfl
  · split at h
    · cases h
      rfl
    · split at h
      · cases h
        rfl
      · cases h

/-- Where a list of directories cannot be made, one of them cannot, and is not there. -/
theorem exists_of_ensureUpwards {paths : List String}
    (h : ensureUpwards paths d = (.error kind, d')) : ∃ path ∈ paths,
      makeDirectory path d' = (.error kind, d') ∧ d'.isDirectory path = false := by
  induction paths generalizing d with
  | nil => cases h
  | cons path above ih =>
    rw [ensureUpwards_cons_eq] at h
    rcases hmake : makeDirectory path d with ⟨failure | ⟨⟩, d₁⟩
    · obtain rfl := eq_of_makeDirectory_eq_error hmake
      rw [hmake] at h
      dsimp only at h
      -- Making this directory failed. The directories above it are made only where something is
      -- missing; they fail by induction, or this one fails a second time.
      split at h
      · rw [StateExcept.bind_eq] at h
        rcases habove : ensureUpwards above d₁ with ⟨failure' | ⟨⟩, d₂⟩
        · rw [habove] at h
          cases h
          obtain ⟨other, hother, hfailed⟩ := ih habove
          exact ⟨other, List.mem_cons_of_mem _ hother, hfailed⟩
        · rw [habove] at h
          dsimp only at h
          rw [ensureOneDirectory_eq] at h
          rcases hlast : makeDirectory path d₂ with ⟨failure' | ⟨⟩, d₃⟩
          · obtain rfl := eq_of_makeDirectory_eq_error hlast
            rw [hlast] at h
            dsimp only at h
            split at h
            · cases h
            · next hdir =>
              cases h
              exact ⟨path, List.mem_cons_self, hlast, Bool.eq_false_iff.2 hdir⟩
          · rw [hlast] at h
            cases h
      · split at h
        · cases h
        · next hdir =>
          cases h
          exact ⟨path, List.mem_cons_self, hmake, Bool.eq_false_iff.2 hdir⟩
    · rw [hmake] at h
      cases h

/-- **Where a directory cannot be made, its path leads to none.** -/
theorem not_leadsTo_of_ensureDirectory (hwalkable : Walkable path)
    (h : ensureDirectory path d = (.error kind, d')) : ¬ d'.LeadsTo path directory := by
  intro hleads
  rw [ensureDirectory, if_neg hwalkable.nonempty] at h
  obtain ⟨above, habove, -, hdir⟩ := exists_of_ensureUpwards h
  refine Bool.eq_false_iff.1 hdir ?_
  rcases List.mem_cons.1 habove with rfl | habove
  · exact hleads.isDirectory_eq hwalkable
  · exact hleads.isDirectory_of_mem_pathsAbove hwalkable habove

/-- Where a directory is made, it stands in a directory. -/
theorem WellFormed.makeDirectory (h : d.WellFormed) (path : String) :
    (Disk.makeDirectory path d).2.WellFormed := by
  rw [makeDirectory_eq]
  split
  · exact h
  · next place hlocate =>
    split
    · exact h
    · next hnone =>
      split
      · exact h
      · rw [locateSelf, (walkable_of_locateSteps hlocate).locateSteps_eq, FileTree.walk_eq_ok_iff]
          at hlocate
        have hempty : d.tree.get? place = none := by simpa using hnone
        obtain ⟨⟨directory, name, rfl, hdir⟩, -⟩ :=
          hlocate.of_none h.tree (h.isDirectory_base path) hempty
        -- What was a directory is one still, since the new entry stands where nothing was.
        have hstays {here : Location} (hhere : d.tree.isDirectory here = true) :
            (d.tree.put (directory ++ [name]) .directory).isDirectory here = true := by
          have hne : here ≠ directory ++ [name] := by
            rintro rfl
            rw [FileTree.isDirectory_iff, hempty] at hhere
            cases hhere
          rw [FileTree.isDirectory_iff] at hhere ⊢
          rw [FileTree.get?_put_of_ne _ hne, hhere]
        refine ⟨fun here last entry hentry ↦ ?_, hstays h.workDirectory⟩
        -- The new entry stands in a directory because a walk led there, every other one as
        -- before.
        by_cases hlast : here ++ [last] = directory ++ [name]
        · rw [(List.append_inj' hlast rfl).1]
          exact hstays hdir
        · rw [FileTree.get?_put_of_ne _ hlast] at hentry
          exact hstays (h.tree here last entry hentry)

/-- Making directories leaves every entry with a directory above it. -/
theorem WellFormed.ensureDirectory (h : d.WellFormed) (path : String) :
    (Disk.ensureDirectory path d).2.WellFormed :=
  of_makeDirectory (fun path _ h ↦ h.makeDirectory path) path h

/-- A directory that can be walked to but not made is missing. -/
theorem exists_of_makeDirectory (h : makeDirectory path d = (.error .permissionDenied, d')) :
    ∃ place, d.locateSelf path = .ok place ∧ d.tree.get? place = none := by
  rw [makeDirectory_eq] at h
  split at h
  · next kind hlocate =>
    cases h
    rw [locateSelf, locateSteps] at hlocate
    split at hlocate
    · cases hlocate
    · split at hlocate
      · cases hlocate
      · split at hlocate
        · cases hlocate
        · exact absurd hlocate (FileTree.walk_ne_permissionDenied _ _ _)
  · next place hlocate =>
    split at h
    · cases h
    · next hnone => exact ⟨place, hlocate, by simpa using hnone⟩

/-- **Where making a directory is not permitted, no file is found in it.** -/
theorem locate_of_not_permitted (h : ensureDirectory path d = (.error .permissionDenied, d'))
    (hd : d'.WellFormed) (hname : Path.IsFileName name)
    (hwalkable : Walkable (Path.join path name)) :
    d'.locate (Path.join path name) = .error .notFound := by
  have hpath : ¬ path.isEmpty = true := by
    intro hempty
    rw [ensureDirectory, if_pos hempty] at h
    cases h
  rw [ensureDirectory, if_neg hpath] at h
  obtain ⟨above, habove, hmake, -⟩ := exists_of_ensureUpwards h
  obtain ⟨place, hlocate, hnone⟩ := exists_of_makeDirectory hmake
  have hlast : [name] ≠ [] := List.cons_ne_nil _ _
  have hbase (path : String) : d'.tree.isDirectory (d'.base path) = true := hd.isDirectory_base path
  rw [locateSelf, (walkable_of_locateSteps hlocate).locateSteps_eq, FileTree.walk_eq_ok_iff]
    at hlocate
  rw [locate, hwalkable.locateSteps_eq, Path.steps_join hname, base, Path.isAbsolute_join hname]
  -- The directory that could not be made is the one itself or one above it; in both cases the
  -- walk fails where it is missing.
  rcases List.mem_cons.1 habove with rfl | habove
  · exact (hlocate.of_none hd.tree (hbase _) hnone).2 true _ hlast
  · obtain rfl | ⟨front, tail, hnames, hsub, -, -, rfl⟩ := Path.exists_of_mem_pathsAbove habove
    · have hnames : Path.names "/" = [] := by decide
      have hroot : d'.base "/" = [] := if_pos (by decide)
      rw [hnames, hroot] at hlocate
      cases hlocate
      cases hnone
    · rw [Path.names_of_front hsub, base, Path.isAbsolute_of_front hsub] at hlocate
      rw [← FileTree.walk_filter hlast, hnames, List.append_assoc]
      exact (hlocate.of_none hd.tree (hbase path) hnone).2 true _
        (List.append_ne_nil_of_right_ne_nil _ hlast)

end Disk

end ServerSetup
