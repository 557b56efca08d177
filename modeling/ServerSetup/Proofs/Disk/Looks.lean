import ServerSetup.Proofs.Disk.Copies

/-!
# What a walk looks at

A walk looks at directories and links, and whether there is anything at a location, but into no
file. `LooksAt` tells at which locations it looks; trees that have the same shape there lead it to
the same end (`walk_congr`). So a file is read alike on disks that differ in nothing that its path
comes by (`read_congr`). Where directories are made, whatever was read is read as before, a failure
as well, unless nothing was found (`Grows.read_eq`).

`LooksAt` is an inductive relation with one constructor for each way in which a walk takes its next
look, after a name, a dot, a step upwards or the target of a link. It says nothing about how the
walk ends, so it can be used for walks that fail, and `walk_congr` is an induction over the walk
itself. `ComesBy` is the same for the path of a disk, from where its walk starts.

For a disk that grows there is no such condition. Every step of the walk that found something finds
the same afterwards, so only a walk that found nothing can end differently.
-/

namespace ServerSetup

/-- What can be seen of an entry without reading a file. -/
def Entry.shape : Entry → Entry
  | file _ => file []
  | entry => entry

namespace FileTree

/-- The locations that a walk looks at. -/
inductive LooksAt (t : FileTree) (follow : Bool) : Nat → Location → List String → Location → Prop
  | here {links : Nat} {here : Location} {name : String} {rest : List String} :
      LooksAt t follow links here (name :: rest) here
  | next {links : Nat} {here : Location} {name : String} {rest : List String}
      (henters : t.Enters here name) : LooksAt t follow links here (name :: rest) (here ++ [name])
  | stay {links : Nat} {here l : Location} {rest : List String} (hdir : t.isDirectory here = true)
      (hrest : LooksAt t follow links here rest l) : LooksAt t follow links here ("." :: rest) l
  | up {links : Nat} {here l : Location} {rest : List String} (hdir : t.isDirectory here = true)
      (hrest : LooksAt t follow links here.dropLast rest l) :
      LooksAt t follow links here (".." :: rest) l
  | jump {links : Nat} {here l : Location} {name target : String} {rest : List String}
      (henters : t.Enters here name) (hlink : t.get? (here ++ [name]) = some (.link target))
      (hfollow : rest ≠ [] ∨ follow = true)
      (hrest : LooksAt t follow links (if Path.isAbsolute target then [] else here)
        (Path.steps target ++ rest) l) :
      LooksAt t follow (links + 1) here (name :: rest) l
  | through {links : Nat} {here l : Location} {name : String} {entry : Entry} {rest : List String}
      (henters : t.Enters here name) (hentry : t.get? (here ++ [name]) = some entry)
      (hnoLink : ∀ target, entry ≠ .link target)
      (hrest : LooksAt t follow links (here ++ [name]) rest l) :
      LooksAt t follow links here (name :: rest) l

/-- Two trees look the same at a location. -/
def SameShape (t t' : FileTree) (l : Location) : Prop :=
  (t'.get? l).map Entry.shape = (t.get? l).map Entry.shape

variable {t t' : FileTree} {follow : Bool} {links : Nat} {here l : Location} {steps : List String}

/-- Trees of the same shape have nothing at the same locations. -/
theorem SameShape.eq_none_iff (h : t.SameShape t' l) : t'.get? l = none ↔ t.get? l = none := by
  rw [← Option.map_eq_none_iff (f := Entry.shape), h, Option.map_eq_none_iff]

/-- They have the same directories and links. -/
theorem SameShape.eq_some_iff {entry : Entry} (h : t.SameShape t' l)
    (hfile : ∀ content, entry ≠ .file content) :
    t'.get? l = some entry ↔ t.get? l = some entry := by
  have hentry (found : Option Entry) : found.map Entry.shape = some entry ↔ found = some entry := by
    rcases found with - | content | - | target
    · rfl
    · exact iff_of_false (fun h ↦ hfile _ (Option.some.inj h).symm)
        fun h ↦ hfile _ (Option.some.inj h).symm
    · rfl
    · rfl
  rw [← hentry, h, hentry]

theorem SameShape.isDirectory_eq (h : t.SameShape t' l) : t'.isDirectory l = t.isDirectory l := by
  rw [Bool.eq_iff_iff, isDirectory_iff, isDirectory_iff]
  exact h.eq_some_iff fun _ ↦ Entry.noConfusion

theorem SameShape.eq_link_iff {target : String} (h : t.SameShape t' l) :
    t'.get? l = some (.link target) ↔ t.get? l = some (.link target) :=
  h.eq_some_iff fun _ ↦ Entry.noConfusion

/-- Where one has an entry that is no link, so has the other. -/
theorem SameShape.exists_of_noLink {entry : Entry} (h : t.SameShape t' l)
    (hentry : t.get? l = some entry) (hnoLink : ∀ target, entry ≠ .link target) :
    ∃ entry', t'.get? l = some entry' ∧ ∀ target, entry' ≠ .link target := by
  rcases hentry' : t'.get? l with - | entry'
  · rw [h.eq_none_iff.1 hentry'] at hentry
    cases hentry
  · refine ⟨entry', rfl, ?_⟩
    rintro target rfl
    rw [h.eq_link_iff.1 hentry'] at hentry
    exact hnoLink target (Option.some.inj hentry).symm

/-- A name can be entered in both or in none. -/
theorem Enters.congr {name : String} (henters : t.Enters here name) (h : t.SameShape t' here) :
    t'.Enters here name where
  directory := h.isDirectory_eq.trans henters.directory
  dot := henters.dot
  dots := henters.dots
  length := henters.length

/-- **A walk depends on nothing but the shape of what it looks at.** -/
theorem walk_congr (h : ∀ l, t.LooksAt follow links here steps l → t.SameShape t' l) :
    t'.walk follow links here steps = t.walk follow links here steps := by
  -- Each case of the walk asks only what the shape of the location it stands at answers, so the
  -- walk of the other tree takes the same case.
  fun_induction walk t follow links here steps with
  | case1 links here => rw [walk]
  | case2 links here name rest hdir => rw [walk, (h here .here).isDirectory_eq, if_pos hdir]
  | case3 links here rest hdir ih =>
    rw [Bool.not_eq_true', Bool.not_eq_false] at hdir
    have hdir' : t'.isDirectory here = true := (h here .here).isDirectory_eq.trans hdir
    rw [walk_stay hdir', ih fun l hl ↦ h l (.stay hdir hl)]
  | case4 links here rest hdir _ ih =>
    rw [Bool.not_eq_true', Bool.not_eq_false] at hdir
    have hdir' : t'.isDirectory here = true := (h here .here).isDirectory_eq.trans hdir
    rw [walk_up hdir', ih fun l hl ↦ h l (.up hdir hl)]
  | case5 links here name rest hdir hdot hdots hlength =>
    rw [walk, (h here .here).isDirectory_eq, if_neg hdir, if_neg hdot, if_neg hdots, if_pos hlength]
  | case6 links here name rest hdir hdot hdots hlength hnone hempty =>
    have henters : t.Enters here name := ⟨by simpa using hdir, hdot, hdots, hlength⟩
    rw [walk_missing (henters.congr (h here .here)) ((h _ (.next henters)).eq_none_iff.2 hnone),
      if_pos hempty]
  | case7 links here name rest hdir hdot hdots hlength hnone hmore =>
    have henters : t.Enters here name := ⟨by simpa using hdir, hdot, hdots, hlength⟩
    rw [walk_missing (henters.congr (h here .here)) ((h _ (.next henters)).eq_none_iff.2 hnone),
      if_neg hmore]
  | case8 links here name rest hdir hdot hdots hlength target hlink hlast =>
    have henters : t.Enters here name := ⟨by simpa using hdir, hdot, hdots, hlength⟩
    rw [Bool.and_eq_true, List.isEmpty_iff, Bool.not_eq_true'] at hlast
    obtain ⟨rfl, rfl⟩ := hlast
    exact walk_stop (henters.congr (h here .here)) ((h _ (.next henters)).eq_link_iff.2 hlink)
  -- No links are left: both walks give up.
  | case9 here name rest hdir hdot hdots hlength target hlink hgoes =>
    have henters : t.Enters here name := ⟨by simpa using hdir, hdot, hdots, hlength⟩
    rw [walk, (henters.congr (h here .here)).directory, if_neg hdot, if_neg hdots, if_neg hlength,
      (h _ (.next henters)).eq_link_iff.2 hlink]
    simp only [hgoes]
    rfl
  | case10 here name rest hdir hdot hdots hlength target hlink hgoes links ih =>
    have henters : t.Enters here name := ⟨by simpa using hdir, hdot, hdots, hlength⟩
    have hfollow : rest ≠ [] ∨ follow = true := by
      rw [Bool.and_eq_true, List.isEmpty_iff, Bool.not_eq_true', not_and_or] at hgoes
      exact hgoes.imp_right fun hfollow ↦ by simpa using hfollow
    have hlink' := (h _ (.next henters)).eq_link_iff.2 hlink
    rw [walk_jump (henters.congr (h here .here)) hlink' hfollow]
    exact ih fun l hl ↦ h l (.jump henters hlink hfollow hl)
  | case11 links here name rest hdir hdot hdots hlength entry hnoLink hentry ih =>
    have henters : t.Enters here name := ⟨by simpa using hdir, hdot, hdots, hlength⟩
    obtain ⟨entry', hentry', hnoLink'⟩ :=
      (h _ (.next henters)).exists_of_noLink hentry fun target ht ↦ hnoLink target ht
    rw [walk_through (henters.congr (h here .here)) hentry' hnoLink']
    exact ih fun l hl ↦ h l (.through henters hentry (fun target ht ↦ hnoLink target ht) hl)

/-- A walk that looks at a location where there is nothing comes to its end there. -/
theorem LooksAt.walk_eq (h : t.LooksAt follow links here steps l) (ht : t.WellFormed)
    (hhere : t.get? here ≠ none) (hnone : t.get? l = none) :
    t.walk follow links here steps = .ok l ∨
      t.walk follow links here steps = .error .notFound := by
  induction h with
  | here => exact absurd hnone hhere
  | next henters =>
    rw [walk_missing henters hnone]
    split
    · exact .inl rfl
    · exact .inr rfl
  | stay hdir _ ih =>
    rw [walk_stay hdir]
    exact ih hhere hnone
  | up hdir _ ih =>
    rw [walk_up hdir]
    refine ih ?_ hnone
    rw [isDirectory_iff.1 (ht.isDirectory_dropLast hdir)]
    exact Option.some_ne_none _
  -- The target of a link is walked from the root or from where the link is, and both are there.
  | jump henters hlink hfollow _ ih =>
    rw [walk_jump henters hlink hfollow]
    refine ih ?_ hnone
    split
    · exact Option.some_ne_none _
    · rw [isDirectory_iff.1 henters.directory]
      exact Option.some_ne_none _
  | through henters hentry hnoLink _ ih =>
    rw [walk_through henters hentry hnoLink]
    refine ih ?_ hnone
    rw [hentry]
    exact Option.some_ne_none _

/-- The location that a walk looks at is where it is, or the next one, or comes behind. -/
theorem LooksAt.cons_cases {name : String} {rest : List String}
    (h : t.LooksAt follow links here (name :: rest) l) :
    l = here ∨ (name = "." ∧ t.LooksAt follow links here rest l) ∨
      (name = ".." ∧ t.LooksAt follow links here.dropLast rest l) ∨
      t.Enters here name ∧ (l = here ++ [name] ∨
        (∃ left target, links = left + 1 ∧ t.get? (here ++ [name]) = some (.link target) ∧
          t.LooksAt follow left (if Path.isAbsolute target then [] else here)
            (Path.steps target ++ rest) l) ∨
        ∃ entry, t.get? (here ++ [name]) = some entry ∧ (∀ target, entry ≠ .link target) ∧
          t.LooksAt follow links (here ++ [name]) rest l) := by
  cases h with
  | here => exact .inl rfl
  | next henters => exact .inr (.inr (.inr ⟨henters, .inl rfl⟩))
  | stay _ hrest => exact .inr (.inl ⟨rfl, hrest⟩)
  | up _ hrest => exact .inr (.inr (.inl ⟨rfl, hrest⟩))
  | jump henters hlink _ hrest =>
    exact .inr (.inr (.inr ⟨henters, .inr (.inl ⟨_, _, rfl, hlink, hrest⟩)⟩))
  | through henters hentry hnoLink hrest =>
    exact .inr (.inr (.inr ⟨henters, .inr (.inr ⟨_, hentry, hnoLink, hrest⟩)⟩))

/-- On the way to a directory, a walk looks at directories and links only; then it goes on from
there. -/
theorem LooksAt.cases_append {front tail : List String} {middle : Location}
    (hfront : t.Leads true links here front middle) (hdir : t.isDirectory middle = true)
    (h : t.LooksAt follow links here (front ++ tail) l) :
    t.isDirectory l = true ∨ (∃ target, t.get? l = some (.link target)) ∨
      ∃ left, t.LooksAt follow left middle tail l := by
  -- The induction is on the walk along the front. Whatever is looked at there is a directory that
  -- was entered or a link that was followed.
  induction hfront with
  | here links => exact .inr (.inr ⟨links, h⟩)
  | stay hhere _ ih =>
    obtain rfl | ⟨-, hrest⟩ | ⟨hname, -⟩ | ⟨henters, -⟩ := h.cons_cases
    · exact .inl hhere
    · exact ih hdir hrest
    · exact absurd hname (by decide)
    · exact absurd rfl henters.dot
  | up hhere _ ih =>
    obtain rfl | ⟨hname, -⟩ | ⟨-, hrest⟩ | ⟨henters, -⟩ := h.cons_cases
    · exact .inl hhere
    · exact absurd hname (by decide)
    · exact ih hdir hrest
    · exact absurd rfl henters.dots
  -- A walk that ends at something missing does not end at a directory.
  | missing _ hnone =>
    rw [isDirectory_iff, hnone] at hdir
    cases hdir
  | stop _ _ hfollow => cases hfollow
  | jump henters hlink _ _ ih =>
    obtain rfl | ⟨hname, -⟩ | ⟨hname, -⟩ | ⟨-, rfl | ⟨left, target, hlinks, hlink', hrest⟩ |
      ⟨entry, hentry, hnoLink, -⟩⟩ := h.cons_cases
    · exact .inl henters.directory
    · exact absurd hname henters.dot
    · exact absurd hname henters.dots
    · exact .inr (.inl ⟨_, hlink⟩)
    · rw [hlink] at hlink'
      cases hlink'
      cases hlinks
      refine ih hdir ?_
      rwa [List.append_assoc]
    · rw [hlink] at hentry
      exact absurd (Option.some.inj hentry).symm (hnoLink _)
  | @through links here place name entry rest henters hentry hnoLink hleads ih =>
    obtain rfl | ⟨hname, -⟩ | ⟨hname, -⟩ | ⟨-, rfl | ⟨left, target, -, hlink, -⟩ |
      ⟨-, -, -, hrest⟩⟩ := h.cons_cases
    · exact .inl henters.directory
    · exact absurd hname henters.dot
    · exact absurd hname henters.dots
    · cases entry with
      | link target => exact absurd rfl (hnoLink target)
      | directory => exact .inl (isDirectory_iff.2 hentry)
      | file content =>
        obtain ⟨-, rfl⟩ := hleads.eq_of_file hentry
        exact .inl hdir
    · rw [hentry] at hlink
      exact absurd (Option.some.inj hlink) (hnoLink _)
    · exact ih hdir hrest

end FileTree

namespace Disk

variable {d d' : Disk} {path : String} {l : Location}

/-- A path comes by a location: it is looked at on the way, or it is the end. -/
def ComesBy (d : Disk) (path : String) (l : Location) : Prop :=
  d.tree.LooksAt true FileTree.maxLinks (d.base path) (Path.steps path) l ∨ d.locate path = .ok l

section

variable (hwork : d'.workDirectory = d.workDirectory)
  (h : ∀ l, d.ComesBy path l → d'.tree.get? l = d.tree.get? l)

include hwork h

/-- A path leads to the same place if the trees have the same shape along it. -/
theorem locate_congr : d'.locate path = d.locate path := by
  have hwalk : d'.tree.walk true FileTree.maxLinks (d.base path) (Path.steps path) =
      d.tree.walk true FileTree.maxLinks (d.base path) (Path.steps path) :=
    FileTree.walk_congr fun l hl ↦ congrArg (Option.map Entry.shape) (h l (.inl hl))
  rw [locate, locate, locateSteps, locateSteps, hwork]
  exact congrArg _ (congrArg _ (congrArg _ hwalk))

/-- **A file is read alike where nothing differs that its path comes by.** -/
theorem read_congr (hrefuses : d'.refuses = d.refuses) : d'.read path = d.read path := by
  rw [read, read, locate_congr hwork h, hrefuses]
  rcases hlocate : d.locate path with kind | place
  · rfl
  · dsimp only
    rw [h place (.inr hlocate)]

end

/-- A path that is refused for its text is refused on every disk. -/
theorem exists_locate_of_not_walkable (h : ¬ Walkable path) :
    ∃ kind, ∀ d : Disk, d.locate path = .error kind := by
  by_cases hnul : path.toList.contains '\x00' = true
  · exact ⟨.invalidInput, fun d ↦ if_pos hnul⟩
  · by_cases hempty : path.isEmpty = true
    · exact ⟨.notFound, fun d ↦ (if_neg hnul).trans (if_pos hempty)⟩
    · by_cases hlong : maxPathBytes < path.utf8ByteSize
      · exact ⟨.nameTooLong, fun d ↦
          (if_neg hnul).trans ((if_neg hempty).trans (if_pos hlong))⟩
      · exact absurd ⟨hnul, hempty, hlong⟩ h

/-- **What was read is read where directories were made, too.** Only where nothing was found the
answer may be another one. -/
theorem Grows.read_eq (hgrows : d.Grows d') (hd : d.WellFormed)
    (hread : d.read path ≠ .error .notFound) : d'.read path = d.read path := by
  by_cases hwalkable : Walkable path
  · refine read_congr hgrows.workDirectory (fun l hl ↦ ?_) hgrows.refuses
    rcases hentry : d.tree.get? l with - | entry
    · refine absurd ?_ hread
      rw [read]
      have hend : d.locate path = .ok l ∨ d.locate path = .error .notFound := by
        rcases hl with hlooks | hlocate
        · rw [locate, hwalkable.locateSteps_eq]
          refine hlooks.walk_eq hd.tree ?_ hentry
          rw [FileTree.isDirectory_iff.1 (hd.isDirectory_base path)]
          exact Option.some_ne_none _
        · exact .inl hlocate
      rcases hend with hlocate | hlocate
      · rw [hlocate]
        dsimp only
        rw [hentry]
      · rw [hlocate]
    · exact hgrows.get? l entry hentry
  · obtain ⟨kind, hlocate⟩ := exists_locate_of_not_walkable hwalkable
    rw [read, read, hlocate, hlocate]

end Disk

end ServerSetup
