import Mathlib.Data.List.Induction
import ServerSetup.Path.Home
import ServerSetup.Proofs.Disk.Above

/-!
# The paths of places

A place has a path of its own: its names from the root on, with no link, no dot and no missing name
on the way. Whatever path leads to something, the path of the place where that is leads there, too
(`find?_path`), unless it is too long to be walked. So resolving a path a second time changes
nothing (`resolved_resolved`).

The names on the way to a place come from the names in paths and in the targets of links, and a step
upwards takes one away. `IsNamed` is what all of these keep: every name is the name of a file and
not too long. A place with such names is reached by a walk that meets a directory at each of them,
since every entry has directories above it (`WellFormed`), and no link, since the last entry is none
and the others are directories.

What can go wrong is the length. The path of a place may be longer than the path that led there
through links; where it cannot be walked, resolving gives the same text again all the same.
-/

namespace ServerSetup

/-- A place is named as places in a file tree are. -/
def Location.IsNamed (place : Location) : Prop :=
  ∀ name ∈ place, Path.IsFileName name ∧ name.utf8ByteSize ≤ FileTree.maxNameBytes

namespace Location

variable {place front : Location} {name : String}

theorem isNamed_nil : IsNamed [] := List.forall_mem_nil _

theorem IsNamed.dropLast (h : IsNamed place) : IsNamed place.dropLast :=
  fun name hname ↦ h name (List.dropLast_subset place hname)

/-- A further name of a file, if it is not too long, makes another such location. -/
theorem IsNamed.concat (h : IsNamed place) (hname : Path.IsFileName name)
    (hlength : ¬ FileTree.maxNameBytes < name.utf8ByteSize) : IsNamed (place ++ [name]) := by
  intro other hother
  obtain hfront | hlast := List.mem_append.1 hother
  · exact h other hfront
  · rw [List.mem_singleton.1 hlast]
    exact ⟨hname, Nat.not_lt.1 hlength⟩

/-! ### The text of the path -/

theorem names_path (h : IsNamed place) : Path.names place.path = place := by
  rw [path, Path.names_slash_append]
  exact Path.names_intercalate fun name hname ↦
    ⟨(h name hname).1.nonempty, (h name hname).1.noSlash⟩

theorem isAbsolute_path (place : Location) : Path.isAbsolute place.path = true := by
  rw [path, Path.isAbsolute, String.toList_append]
  rfl

/-- The path of a place ends with the last name. -/
theorem exists_toList_path (front : Location) (name : String) :
    ∃ cs, (path (front ++ [name])).toList = cs ++ name.toList := by
  suffices hnames : ∃ cs, (String.intercalate "/" (front ++ [name])).toList = cs ++ name.toList by
    obtain ⟨cs, hcs⟩ := hnames
    exact ⟨"/".toList ++ cs, by rw [path, String.toList_append, hcs, List.append_assoc]⟩
  induction front with
  | nil => exact ⟨[], by simp⟩
  | cons first front ih =>
    obtain ⟨cs, hcs⟩ := ih
    obtain ⟨next, rest, hrest⟩ := List.exists_cons_of_ne_nil
      (List.append_ne_nil_of_right_ne_nil front (List.cons_ne_nil name []))
    refine ⟨first.toList ++ "/".toList ++ cs, ?_⟩
    rw [String.toList_intercalate] at hcs ⊢
    rw [List.cons_append, hrest, List.map_cons, List.map_cons, List.intercalate_cons_cons,
      ← List.map_cons, ← hrest, hcs, List.append_assoc, List.append_assoc, List.append_assoc]

/-- To the path of a place below the root its names are walked. -/
theorem steps_path (h : IsNamed place) (hne : place ≠ []) : Path.steps place.path = place := by
  have hslash : Path.endsWithSlash place.path = false := by
    obtain ⟨front, name, rfl⟩ := (List.eq_nil_or_concat' place).resolve_left hne
    obtain ⟨cs, hcs⟩ := exists_toList_path front name
    have hname := (h name (List.mem_append_right _ (List.mem_singleton_self name))).1
    rw [Path.endsWithSlash, hcs, List.getLast?_append,
      List.getLast?_eq_some_getLast hname.nonempty, Option.some_or, beq_eq_false_iff_ne]
    exact fun hlast ↦ hname.noSlash (Option.some.inj hlast ▸ List.getLast_mem hname.nonempty)
  rw [Path.steps, hslash, names_path h]
  exact List.append_nil _

end Location

/-! ### Walks and names -/

/-- A step of a path is not empty and has no slash in it. -/
theorem Path.mem_steps {path name : String} (h : name ∈ steps path) :
    name.toList ≠ [] ∧ '/' ∉ name.toList := by
  obtain hname | hdot := List.mem_append.1 h
  · exact mem_names hname
  · split at hdot
    · rw [List.mem_singleton.1 hdot]
      decide
    · exact absurd hdot List.not_mem_nil

namespace FileTree

variable {t : FileTree} {follow : Bool} {links : Nat} {here place : Location}
  {rest steps tail : List String} {name : String} {entry : Entry}

/-- A walk from a location with names of its own enters such locations only. -/
theorem Enters.isNamed (h : t.Enters here name) (hhere : here.IsNamed)
    (hname : name.toList ≠ [] ∧ '/' ∉ name.toList) : Location.IsNamed (here ++ [name]) :=
  hhere.concat ⟨hname.1, hname.2, h.dot, h.dots⟩ h.length

/-- **A walk ends at a place with proper names.** -/
theorem Leads.isNamed (h : t.Leads follow links here steps place) (hhere : here.IsNamed)
    (hsteps : ∀ name ∈ steps, name.toList ≠ [] ∧ '/' ∉ name.toList) : place.IsNamed := by
  induction h with
  | here => exact hhere
  | stay _ _ ih => exact ih hhere (List.forall_mem_cons.1 hsteps).2
  | up _ _ ih => exact ih hhere.dropLast (List.forall_mem_cons.1 hsteps).2
  | missing henters _ => exact henters.isNamed hhere (List.forall_mem_cons.1 hsteps).1
  | stop henters _ _ => exact henters.isNamed hhere (List.forall_mem_cons.1 hsteps).1
  | jump _ _ _ _ ih =>
    refine ih ?_ fun name hname ↦ ?_
    · split
      · exact Location.isNamed_nil
      · exact hhere
    · obtain htarget | hrest := List.mem_append.1 hname
      · exact Path.mem_steps htarget
      · exact hsteps name (List.mem_cons_of_mem _ hrest)
  | through henters _ _ _ ih =>
    obtain ⟨hname, hrest⟩ := List.forall_mem_cons.1 hsteps
    exact ih (henters.isNamed hhere hname) hrest

/-- What stands above an entry is a directory. -/
theorem WellFormed.isDirectory_of_append (ht : t.WellFormed)
    (hentry : t.get? (here ++ tail) = some entry) (htail : tail ≠ []) :
    t.isDirectory here = true := by
  induction tail using List.reverseRecOn generalizing entry with
  | nil => exact absurd rfl htail
  | append_singleton tail name ih =>
    rw [← List.append_assoc] at hentry
    have hdir := ht _ _ _ hentry
    by_cases hnil : tail = []
    · rwa [hnil, List.append_nil] at hdir
    · exact ih (isDirectory_iff.1 hdir) hnil

/-- **The names of a place lead to it,** if there is something else than a link. -/
theorem WellFormed.leads_self (ht : t.WellFormed) (hentry : t.get? (here ++ rest) = some entry)
    (hnoLink : ∀ target, entry ≠ .link target) (hnamed : Location.IsNamed rest) (links : Nat) :
    t.Leads follow links here rest (here ++ rest) := by
  induction rest generalizing here with
  | nil =>
    rw [List.append_nil]
    exact .here ..
  | cons name rest ih =>
    obtain ⟨hname, hlength⟩ := hnamed name List.mem_cons_self
    have henters : t.Enters here name :=
      ⟨ht.isDirectory_of_append hentry (List.cons_ne_nil _ _), hname.dot, hname.dots,
        Nat.not_lt.2 hlength⟩
    rw [List.append_cons] at hentry ⊢
    have hrest := ih hentry fun other hother ↦ hnamed other (List.mem_cons_of_mem _ hother)
    -- the name on the way is that of a directory, or the last one
    by_cases hnil : rest = []
    · rw [hnil, List.append_nil] at hentry
      exact .through henters hentry hnoLink hrest
    · have hdir := ht.isDirectory_of_append hentry hnil
      exact .through henters (isDirectory_iff.1 hdir) (fun _ ↦ Entry.noConfusion) hrest

end FileTree

/-! ### Paths that are resolved -/

namespace Disk

variable {d : Disk} {path name : String} {place : Location} {entry : Entry} {rest : List String}

/-- What is found is what is at the place that the path leads to. -/
theorem find?_eq_some_iff : d.find? path = some (place, entry) ↔
    d.locate path = .ok place ∧ d.tree.get? place = some entry := by
  rw [find?]
  rcases d.locate path with kind | spot
  · constructor
    · intro h
      cases h
    · rintro ⟨h, -⟩
      cases h
  · constructor
    · intro h
      obtain ⟨found, hfound, heq⟩ := Option.map_eq_some_iff.1 h
      cases heq
      exact ⟨rfl, hfound⟩
    · rintro ⟨⟨rfl⟩, hentry⟩
      dsimp only
      rw [hentry, Option.map_some]

/-- A path whose first name is missing leads to nothing. -/
theorem find?_of_missing (hsteps : Path.steps path = name :: rest)
    (henters : d.tree.Enters (d.base path) name)
    (hnone : d.tree.get? (d.base path ++ [name]) = none) : d.find? path = none := by
  rw [Option.eq_none_iff_forall_ne_some]
  rintro ⟨place, entry⟩ hfind
  obtain ⟨hlocate, hentry⟩ := find?_eq_some_iff.1 hfind
  rw [locate, (walkable_of_locateSteps hlocate).locateSteps_eq, hsteps,
    FileTree.walk_missing henters hnone] at hlocate
  split at hlocate
  · cases hlocate
    rw [hnone] at hentry
    cases hentry
  · cases hlocate

/-- On a disk with nothing but the root, a path whose first name could be that of an entry leads to
nothing. -/
theorem find?_bare (hsteps : Path.steps path = name :: rest) (hdot : name ≠ ".")
    (hdots : name ≠ "..") (hlength : ¬ FileTree.maxNameBytes < name.utf8ByteSize) :
    Disk.find? { tree := .empty, workDirectory := [] } path = none := by
  have hbase : Disk.base { tree := .empty, workDirectory := [] } path = [] := ite_self _
  refine find?_of_missing hsteps ?_ ?_
  · rw [hbase]
    exact ⟨rfl, hdot, hdots, hlength⟩
  · rw [hbase]
    rfl

/-- **The path of a place leads to where the place is found,** or is too long to be walked. -/
theorem find?_path (hd : d.WellFormed) (hwork : d.workDirectory.IsNamed)
    (h : d.find? path = some (place, entry)) :
    d.find? place.path = some (place, entry) ∨ d.find? place.path = none := by
  obtain ⟨hlocate, hentry⟩ := find?_eq_some_iff.1 h
  have hnoLink (target : String) : entry ≠ .link target := by
    rintro rfl
    exact hd.noLink hlocate target hentry
  have hnamed : place.IsNamed := by
    rw [locate, (walkable_of_locateSteps hlocate).locateSteps_eq,
      FileTree.walk_eq_ok_iff] at hlocate
    refine hlocate.isNamed ?_ fun name ↦ Path.mem_steps
    rw [base]
    split
    · exact Location.isNamed_nil
    · exact hwork
  have hbase : d.base place.path = [] := if_pos (Location.isAbsolute_path place)
  -- The place has no link on its way, so its own path leads to it, unless this is too long to be
  -- walked.
  by_cases hwalkable : Walkable place.path
  · refine .inl (find?_eq_some_iff.2 ⟨?_, hentry⟩)
    rw [locate, hwalkable.locateSteps_eq, hbase, FileTree.walk_eq_ok_iff]
    by_cases hroot : place = []
    · have hsteps : Path.steps (Location.path []) = ["."] := by decide
      rw [hroot, hsteps]
      exact .stay rfl (.here ..)
    · have hself : d.tree.get? ([] ++ place) = some entry := hentry
      rw [Location.steps_path hnamed hroot]
      exact hd.tree.leads_self hself hnoLink hnamed _
  · refine .inr (Option.eq_none_iff_forall_ne_some.2 ?_)
    rintro ⟨spot, other⟩ hfind
    exact hwalkable (walkable_of_locateSteps (find?_eq_some_iff.1 hfind).1)

/-- **A path that was resolved is resolved for good.** -/
theorem resolved_resolved (hd : d.WellFormed) (hwork : d.workDirectory.IsNamed) (path : String) :
    d.resolved (d.resolved path) = d.resolved path := by
  rcases hfind : d.find? path with - | ⟨place, entry⟩
  · have hsame : d.resolved path = path := by rw [resolved, hfind]
    rw [hsame, hsame]
  · have hplace : d.resolved path = place.path := by rw [resolved, hfind]
    rw [hplace, resolved]
    obtain hagain | hagain := find?_path hd hwork hfind
    · rw [hagain]
    · rw [hagain]

end Disk

end ServerSetup
