import ServerSetup.Disk

/-!
# Walks through a file tree

`Leads` tells how a walk comes to its end. A walk that ends at a directory goes on from there with
whatever names come behind, and a walk to an entry ends at the same one in every tree that has the
directories and links of the first tree and that entry.

The function that walks counts down the links it may follow and takes one name at a time. `Leads` is
its graph where it succeeds (`walk_eq_ok_iff`), with one constructor for each case: the end, a dot,
two dots, a last name that is missing, a link at which the walk stops, a link that it follows, and
an entry that it goes through. Proofs about walks are inductions over this relation, and the
equations at the front (`walk_stay` to `walk_through`) are the only place where the function is
opened.

Whether a link at the end is followed is a parameter of the walk, since some operations on files
follow it and others act on the link itself.
-/

namespace ServerSetup.FileTree

/-- The walk can look for a name in a directory. -/
structure Enters (t : FileTree) (here : Location) (name : String) : Prop where
  directory : t.isDirectory here = true
  dot : name ≠ "."
  dots : name ≠ ".."
  length : ¬ maxNameBytes < name.utf8ByteSize

/-- The ways in which a walk comes to a location. -/
inductive Leads (t : FileTree) (follow : Bool) :
    Nat → Location → List String → Location → Prop
  | here (links : Nat) (place : Location) : Leads t follow links place [] place
  | stay {links : Nat} {here place : Location} {rest : List String}
      (hdir : t.isDirectory here = true) (hrest : Leads t follow links here rest place) :
      Leads t follow links here ("." :: rest) place
  | up {links : Nat} {here place : Location} {rest : List String}
      (hdir : t.isDirectory here = true) (hrest : Leads t follow links here.dropLast rest place) :
      Leads t follow links here (".." :: rest) place
  | missing {links : Nat} {here : Location} {name : String} (henters : t.Enters here name)
      (hnone : t.get? (here ++ [name]) = none) :
      Leads t follow links here [name] (here ++ [name])
  | stop {links : Nat} {here : Location} {name target : String} (henters : t.Enters here name)
      (hlink : t.get? (here ++ [name]) = some (.link target)) (hfollow : follow = false) :
      Leads t follow links here [name] (here ++ [name])
  | jump {links : Nat} {here place : Location} {name target : String} {rest : List String}
      (henters : t.Enters here name) (hlink : t.get? (here ++ [name]) = some (.link target))
      (hfollow : rest ≠ [] ∨ follow = true)
      (hrest : Leads t follow links (if Path.isAbsolute target then [] else here)
        (Path.steps target ++ rest) place) :
      Leads t follow (links + 1) here (name :: rest) place
  | through {links : Nat} {here place : Location} {name : String} {entry : Entry}
      {rest : List String} (henters : t.Enters here name)
      (hentry : t.get? (here ++ [name]) = some entry) (hnoLink : ∀ target, entry ≠ .link target)
      (hrest : Leads t follow links (here ++ [name]) rest place) :
      Leads t follow links here (name :: rest) place

variable {t t' : FileTree} {follow : Bool} {links : Nat} {here place : Location}
  {rest steps : List String} {name target : String} {entry : Entry}

/-! ### The steps of a walk -/

/-- A dot stays in the directory. -/
theorem walk_stay (hdir : t.isDirectory here = true) :
    t.walk follow links here ("." :: rest) = t.walk follow links here rest := by
  rw [walk, hdir]
  rfl

/-- Two dots go to the directory above, and stay at the root. -/
theorem walk_up (hdir : t.isDirectory here = true) :
    t.walk follow links here (".." :: rest) = t.walk follow links here.dropLast rest := by
  rw [walk, hdir]
  rfl

/-- A name that is missing ends the walk: at its place if it is the last name, with a failure
otherwise. -/
theorem walk_missing (h : t.Enters here name) (hnone : t.get? (here ++ [name]) = none) :
    t.walk follow links here (name :: rest) =
      if rest.isEmpty then .ok (here ++ [name]) else .error .notFound := by
  rw [walk, h.directory, if_neg h.dot, if_neg h.dots, if_neg h.length, hnone]
  rfl

/-- A link at the end is not followed where the walk is to stop at it. -/
theorem walk_stop (h : t.Enters here name) (hlink : t.get? (here ++ [name]) = some (.link target)) :
    t.walk false links here [name] = .ok (here ++ [name]) := by
  rw [walk, h.directory, if_neg h.dot, if_neg h.dots, if_neg h.length, hlink]
  rfl

/-- A link is replaced by its target, from the root or from where the link is. -/
theorem walk_jump (h : t.Enters here name) (hlink : t.get? (here ++ [name]) = some (.link target))
    (hfollow : rest ≠ [] ∨ follow = true) : t.walk follow (links + 1) here (name :: rest) =
      t.walk follow links (if Path.isAbsolute target then [] else here)
        (Path.steps target ++ rest) := by
  have hgoes : (rest.isEmpty && !follow) = false := by
    obtain hrest | rfl := hfollow
    · rw [List.isEmpty_eq_false_iff.2 hrest, Bool.false_and]
    · rw [Bool.not_true, Bool.and_false]
  rw [walk, h.directory, if_neg h.dot, if_neg h.dots, if_neg h.length, hlink]
  simp only [hgoes]
  rfl

/-- Any other entry is walked through. -/
theorem walk_through (h : t.Enters here name) (hentry : t.get? (here ++ [name]) = some entry)
    (hnoLink : ∀ target, entry ≠ .link target) : t.walk follow links here (name :: rest) =
      t.walk follow links (here ++ [name]) rest := by
  rw [walk, h.directory, if_neg h.dot, if_neg h.dots, if_neg h.length, hentry]
  cases entry with
  | link target => exact absurd rfl (hnoLink target)
  | _ => rfl

/-- A walk ends at a location exactly if it leads there. -/
theorem walk_eq_ok_iff : t.walk follow links here steps = .ok place ↔
    t.Leads follow links here steps place := by
  constructor
  · intro h
    fun_induction walk t follow links here steps with
    | case1 links here =>
      cases h
      exact .here ..
    | case3 links here rest hdir ih => exact .stay (by simpa using hdir) (ih h)
    | case4 links here rest hdir _ ih => exact .up (by simpa using hdir) (ih h)
    | case6 links here name rest hdir hdot hdots hlength hnone hempty =>
      cases h
      rw [List.isEmpty_iff.1 hempty]
      exact .missing ⟨by simpa using hdir, hdot, hdots, hlength⟩ hnone
    | case8 links here name rest hdir hdot hdots hlength target hlink hlast =>
      cases h
      rw [Bool.and_eq_true, List.isEmpty_iff, Bool.not_eq_true'] at hlast
      rw [hlast.1]
      exact .stop ⟨by simpa using hdir, hdot, hdots, hlength⟩ hlink hlast.2
    | case10 here name rest hdir hdot hdots hlength target hlink hgoes links ih =>
      refine .jump ⟨by simpa using hdir, hdot, hdots, hlength⟩ hlink ?_ (ih h)
      rw [Bool.and_eq_true, List.isEmpty_iff, Bool.not_eq_true'] at hgoes
      rcases follow with - | -
      · exact .inl fun hrest ↦ hgoes ⟨hrest, rfl⟩
      · exact .inr rfl
    | case11 links here name rest hdir hdot hdots hlength entry hnoLink hentry ih =>
      exact .through ⟨by simpa using hdir, hdot, hdots, hlength⟩ hentry
        (fun target h ↦ hnoLink target h) (ih h)
    -- In the other cases the walk fails.
    | _ => cases h
  · intro h
    induction h with
    | here links place => rw [walk]
    | stay hdir _ ih => rw [walk_stay hdir, ih]
    | up hdir _ ih => rw [walk_up hdir, ih]
    | missing henters hnone => rw [walk_missing henters hnone]; rfl
    | stop henters hlink hfollow => rw [hfollow, walk_stop henters hlink]
    | jump henters hlink hfollow _ ih => rw [walk_jump henters hlink hfollow, ih]
    | through henters hentry hnoLink _ ih => rw [walk_through henters hentry hnoLink, ih]

/-! ### Walks that go on -/

theorem isDirectory_iff : t.isDirectory here = true ↔ t.get? here = some .directory := by
  rw [isDirectory, beq_iff_eq]

/-- **A walk to a directory goes on from there.** -/
theorem Leads.walk_append (h : t.Leads true links here steps place)
    (hdir : t.isDirectory place = true) : ∃ left, ∀ follow tail, tail ≠ [] →
      t.walk follow links here (steps ++ tail) = t.walk follow left place tail := by
  induction h with
  | here links place => exact ⟨links, fun _ _ _ ↦ rfl⟩
  | stay hhere _ ih =>
    obtain ⟨left, hleft⟩ := ih hdir
    exact ⟨left, fun follow tail htail ↦ (walk_stay hhere).trans (hleft follow tail htail)⟩
  | up hhere _ ih =>
    obtain ⟨left, hleft⟩ := ih hdir
    exact ⟨left, fun follow tail htail ↦ (walk_up hhere).trans (hleft follow tail htail)⟩
  | missing henters hnone =>
    rw [isDirectory_iff, hnone] at hdir
    cases hdir
  | stop henters hlink hfollow => cases hfollow
  | jump henters hlink hfollow _ ih =>
    obtain ⟨left, hleft⟩ := ih hdir
    refine ⟨left, fun follow tail htail ↦ ?_⟩
    have hbehind (front : List String) : front ++ tail ≠ [] :=
      List.append_ne_nil_of_right_ne_nil front htail
    rw [List.cons_append, walk_jump henters hlink (.inl (hbehind _)), ← List.append_assoc]
    exact hleft follow tail htail
  | through henters hentry hnoLink _ ih =>
    obtain ⟨left, hleft⟩ := ih hdir
    exact ⟨left, fun follow tail htail ↦
      (walk_through henters hentry hnoLink).trans (hleft follow tail htail)⟩

/-- What a path names, without following a link there, is what it leads to or a link. -/
theorem Leads.exists_self (h : t.Leads true links here steps place) :
    ∃ spot, t.Leads false links here steps spot ∧
      (spot = place ∨ ∃ target, t.get? spot = some (.link target)) := by
  induction h with
  | here links place => exact ⟨place, .here .., .inl rfl⟩
  | stay hhere _ ih =>
    obtain ⟨spot, hspot, hself⟩ := ih
    exact ⟨spot, .stay hhere hspot, hself⟩
  | up hhere _ ih =>
    obtain ⟨spot, hspot, hself⟩ := ih
    exact ⟨spot, .up hhere hspot, hself⟩
  | missing henters hnone => exact ⟨_, .missing henters hnone, .inl rfl⟩
  | stop henters hlink hfollow => cases hfollow
  | @jump links here place name target rest henters hlink hfollow _ ih =>
    rcases rest with - | ⟨next, rest⟩
    · exact ⟨here ++ [name], .stop henters hlink rfl, .inr ⟨target, hlink⟩⟩
    · obtain ⟨spot, hspot, hself⟩ := ih
      exact ⟨spot, .jump henters hlink (.inl (List.cons_ne_nil _ _)) hspot, hself⟩
  | through henters hentry hnoLink _ ih =>
    obtain ⟨spot, hspot, hself⟩ := ih
    exact ⟨spot, .through henters hentry hnoLink hspot, hself⟩

/-- An entry stands in a directory. -/
def WellFormed (t : FileTree) : Prop :=
  ∀ here name entry, t.get? (here ++ [name]) = some entry → t.isDirectory here = true

/-- It is enough to look at the entries of the list. -/
theorem wellFormed_of_forall (h : ∀ e ∈ t.entries, t.isDirectory e.1.dropLast = true) :
    t.WellFormed := by
  intro here name entry hentry
  rw [get?, if_neg (List.append_ne_nil_of_right_ne_nil _ (List.cons_ne_nil _ _))] at hentry
  obtain ⟨front, behind, hentries, -⟩ := List.lookup_eq_some_iff.1 hentry
  have hmem : (here ++ [name], entry) ∈ t.entries := by
    rw [hentries]
    exact List.mem_append_right _ List.mem_cons_self
  simpa using h _ hmem

/-- Above a directory there is a directory. -/
theorem WellFormed.isDirectory_dropLast (h : t.WellFormed) (hdir : t.isDirectory here = true) :
    t.isDirectory here.dropLast = true := by
  by_cases hnil : here = []
  · rw [hnil]
    rfl
  · refine h here.dropLast (here.getLast hnil) .directory ?_
    rw [List.dropLast_concat_getLast hnil]
    exact isDirectory_iff.1 hdir

theorem ne_link_of_isDirectory (hdir : t.isDirectory here = true) :
    t.get? here ≠ some (.link target) := by
  rw [isDirectory_iff.1 hdir]
  exact fun h ↦ Entry.noConfusion (Option.some.inj h)

/-- **A walk that follows links does not end at one.** -/
theorem Leads.ne_link (h : t.Leads true links here steps place) (ht : t.WellFormed)
    (hhere : ∀ target, t.get? here ≠ some (.link target)) (target : String) :
    t.get? place ≠ some (.link target) := by
  induction h with
  | here => exact hhere target
  | stay _ _ ih => exact ih hhere
  | up hdir _ ih => exact ih fun _ ↦ ne_link_of_isDirectory (ht.isDirectory_dropLast hdir)
  | missing _ hnone =>
    rw [hnone]
    exact nofun
  | stop _ _ hfollow => cases hfollow
  | jump henters _ _ _ ih =>
    refine ih fun _ ↦ ?_
    split
    · exact ne_link_of_isDirectory rfl
    · exact ne_link_of_isDirectory henters.directory
  | through _ hentry hnoLink _ ih =>
    refine ih fun target hlink ↦ ?_
    rw [hentry] at hlink
    exact hnoLink target (Option.some.inj hlink)

/-! ### Walks in another tree -/

/-- A tree has the directories and links of another one. -/
def Extends (t' t : FileTree) : Prop :=
  ∀ l entry, t.get? l = some entry → (∀ content, entry ≠ .file content) → t'.get? l = some entry

theorem Extends.isDirectory (h : t'.Extends t) (hdir : t.isDirectory here = true) :
    t'.isDirectory here = true := by
  rw [isDirectory_iff] at hdir ⊢
  exact h here .directory hdir fun _ ↦ Entry.noConfusion

/-- What can be entered in a tree can be entered in one that extends it. -/
theorem Extends.enters (h : t'.Extends t) (henters : t.Enters here name) : t'.Enters here name where
  directory := h.isDirectory henters.directory
  dot := henters.dot
  dots := henters.dots
  length := henters.length

/-- Behind a file there is nothing. -/
theorem Leads.eq_of_file {content : List UInt8} (h : t.Leads follow links here steps place)
    (hfile : t.get? here = some (.file content)) : steps = [] ∧ place = here := by
  have hdir : t.isDirectory here ≠ true := by
    rw [Ne, isDirectory_iff, hfile]
    simp
  cases h with
  | here => exact ⟨rfl, rfl⟩
  | stay hhere => exact absurd hhere hdir
  | up hhere => exact absurd hhere hdir
  | missing henters => exact absurd henters.directory hdir
  | stop henters => exact absurd henters.directory hdir
  | jump henters => exact absurd henters.directory hdir
  | through henters => exact absurd henters.directory hdir

/-- **A walk to an entry ends there as well in a tree that has the directories and links of the
first one, and the entry.** -/
theorem Leads.of_extends (h : t.Leads follow links here steps place) (hextends : t'.Extends t)
    (hplace : t.get? place = some entry) (hplace' : t'.get? place = some entry) :
    t'.Leads follow links here steps place := by
  induction h with
  | here => exact .here ..
  | stay hhere _ ih => exact .stay (hextends.isDirectory hhere) (ih hplace hplace')
  | up hhere _ ih => exact .up (hextends.isDirectory hhere) (ih hplace hplace')
  | missing henters hnone =>
    rw [hnone] at hplace
    cases hplace
  | stop henters hlink hfollow =>
    exact .stop (hextends.enters henters) (hextends _ _ hlink fun _ ↦ Entry.noConfusion) hfollow
  | jump henters hlink hfollow _ ih =>
    exact .jump (hextends.enters henters) (hextends _ _ hlink fun _ ↦ Entry.noConfusion) hfollow
      (ih hplace hplace')
  | @through links here place name found rest henters hentry hnoLink hrest ih =>
    have hentry' : t'.get? (here ++ [name]) = some found := by
      cases found with
      | link target => exact absurd rfl (hnoLink target)
      | directory => exact hextends _ _ hentry fun _ ↦ Entry.noConfusion
      | file content =>
        obtain ⟨-, rfl⟩ := hrest.eq_of_file hentry
        rw [hplace', ← hplace, hentry]
    exact .through (hextends.enters henters) hentry' hnoLink (ih hplace hplace')

/-- A walk to a place ends there as well in a tree that has the directories and links of the first
one, and a file at the place. -/
theorem Leads.of_extends_file {content : List UInt8} (h : t.Leads follow links here steps place)
    (hextends : t'.Extends t) (hplace : t'.get? place = some (.file content)) :
    t'.Leads follow links here steps place := by
  induction h with
  | here => exact .here ..
  | stay hhere _ ih => exact .stay (hextends.isDirectory hhere) (ih hplace)
  | up hhere _ ih => exact .up (hextends.isDirectory hhere) (ih hplace)
  | missing henters _ =>
    exact .through (hextends.enters henters) hplace (fun _ ↦ Entry.noConfusion) (.here ..)
  | stop henters hlink hfollow =>
    exact .stop (hextends.enters henters) (hextends _ _ hlink fun _ ↦ Entry.noConfusion) hfollow
  | jump henters hlink hfollow _ ih =>
    exact .jump (hextends.enters henters) (hextends _ _ hlink fun _ ↦ Entry.noConfusion) hfollow
      (ih hplace)
  | @through links here place name found rest henters hentry hnoLink hrest ih =>
    cases found with
    | link target => exact absurd rfl (hnoLink target)
    | directory =>
      exact .through (hextends.enters henters) (hextends _ _ hentry fun _ ↦ Entry.noConfusion)
        hnoLink (ih hplace)
    | file content =>
      obtain ⟨rfl, rfl⟩ := hrest.eq_of_file hentry
      exact .through (hextends.enters henters) hplace (fun _ ↦ Entry.noConfusion) (.here ..)

/-- **In a tree that has less in it, a walk comes to its end or finds nothing on the way.** -/
theorem Leads.walk_of_fewer (h : t.Leads follow links here steps place) (ht : t'.WellFormed)
    (hfewer : ∀ l entry, t'.get? l = some entry → t.get? l = some entry)
    (hhere : t'.isDirectory here = true) :
    (∃ spot, t'.walk follow links here steps = .ok spot) ∨
      t'.walk follow links here steps = .error .notFound := by
  have hmissing {here : Location} {name : String} (links : Nat) (rest : List String)
      (henters : t'.Enters here name) (hnone : t'.get? (here ++ [name]) = none) :
      (∃ spot, t'.walk follow links here (name :: rest) = .ok spot) ∨
        t'.walk follow links here (name :: rest) = .error .notFound := by
    rw [walk_missing henters hnone]
    split
    · exact .inl ⟨_, rfl⟩
    · exact .inr rfl
  have henter {here : Location} {name : String} (henters : t.Enters here name)
      (hhere : t'.isDirectory here = true) : t'.Enters here name :=
    ⟨hhere, henters.dot, henters.dots, henters.length⟩
  induction h with
  | here links place => exact .inl ⟨place, by rw [walk]⟩
  | stay _ _ ih =>
    rw [walk_stay hhere]
    exact ih hhere
  | up _ _ ih =>
    rw [walk_up hhere]
    exact ih (ht.isDirectory_dropLast hhere)
  | @missing links here name henters hnone =>
    refine hmissing links [] (henter henters hhere) ?_
    rcases hentry : t'.get? (here ++ [name]) with - | entry
    · rfl
    · rw [hfewer _ _ hentry] at hnone
      cases hnone
  | @stop links here name target henters hlink hfollow =>
    rcases hentry : t'.get? (here ++ [name]) with - | entry
    · exact hmissing links [] (henter henters hhere) hentry
    · obtain rfl : entry = .link target := Option.some.inj ((hfewer _ _ hentry).symm.trans hlink)
      rw [hfollow]
      exact .inl ⟨_, walk_stop (henter henters hhere) hentry⟩
  | @jump links here place name target rest henters hlink hfollow _ ih =>
    rcases hentry : t'.get? (here ++ [name]) with - | entry
    · exact hmissing _ rest (henter henters hhere) hentry
    · obtain rfl : entry = .link target := Option.some.inj ((hfewer _ _ hentry).symm.trans hlink)
      rw [walk_jump (henter henters hhere) hentry hfollow]
      refine ih ?_
      split
      · rfl
      · exact hhere
  | @through links here place name entry rest henters hentry hnoLink hrest ih =>
    rcases hfound : t'.get? (here ++ [name]) with - | found
    · exact hmissing _ rest (henter henters hhere) hfound
    · obtain rfl : found = entry := Option.some.inj ((hfewer _ _ hfound).symm.trans hentry)
      rw [walk_through (henter henters hhere) hfound hnoLink]
      cases found with
      | link target => exact absurd rfl (hnoLink target)
      | directory => exact ih (isDirectory_iff.2 hfound)
      | file content =>
        obtain ⟨rfl, -⟩ := hrest.eq_of_file hentry
        exact .inl ⟨_, by rw [walk]⟩

/-- Directories stay where a file or a link is taken away. -/
theorem isDirectory_erase (hhere : t.isDirectory here = true)
    (hplace : t.isDirectory place = false) : (t.erase place).isDirectory here = true := by
  have hne : here ≠ place := by
    rintro rfl
    rw [hhere] at hplace
    cases hplace
  rw [isDirectory_iff] at hhere ⊢
  rw [get?_erase_of_ne t hne, hhere]

/-- What can be entered can be entered after something else than a directory was erased. -/
theorem Enters.erase (h : t.Enters here name) (hplace : t.isDirectory place = false) :
    (t.erase place).Enters here name where
  directory := isDirectory_erase h.directory hplace
  dot := h.dot
  dots := h.dots
  length := h.length

/-- **Where a file or a link was taken away, a walk to it finds nothing:** it ends at the place, if
it does not need the entry already on the way there. -/
theorem Leads.walk_erase (h : t.Leads false links here steps place)
    (hplace : t.isDirectory place = false) (follow : Bool) :
    (t.erase place).walk follow links here steps = .ok place ∨
      (t.erase place).walk follow links here steps = .error .notFound := by
  have hnone : (t.erase place).get? place = none := by
    refine get?_erase_self t fun hroot ↦ ?_
    rw [hroot] at hplace
    cases hplace
  -- A link may lead on by way of itself: then the walk comes to the place before its end.
  have hmissing {here : Location} {name : String} (links : Nat) (rest : List String)
      (henters : t.Enters here name) (heq : here ++ [name] = place) :
      (t.erase place).walk follow links here (name :: rest) = .ok place ∨
        (t.erase place).walk follow links here (name :: rest) = .error .notFound := by
    rw [walk_missing (henters.erase hplace) (by rw [heq, hnone]), heq]
    split
    · exact .inl rfl
    · exact .inr rfl
  induction h with
  | here links place => exact .inl (by rw [walk])
  | stay hhere _ ih =>
    rw [walk_stay (isDirectory_erase hhere hplace)]
    exact ih hplace hnone hmissing
  | up hhere _ ih =>
    rw [walk_up (isDirectory_erase hhere hplace)]
    exact ih hplace hnone hmissing
  | missing henters _ => exact hmissing _ _ henters rfl
  | stop henters _ _ => exact hmissing _ _ henters rfl
  | @jump links here place name target rest henters hlink hfollow _ ih =>
    by_cases heq : here ++ [name] = place
    · exact hmissing _ _ henters heq
    · rw [walk_jump (henters.erase hplace) (by rw [get?_erase_of_ne t heq, hlink])
        (.inl (hfollow.resolve_right Bool.false_ne_true))]
      exact ih hplace hnone hmissing
  | @through links here place name entry rest henters hentry hnoLink _ ih =>
    by_cases heq : here ++ [name] = place
    · exact hmissing _ _ henters heq
    · rw [walk_through (henters.erase hplace) (by rw [get?_erase_of_ne t heq, hentry]) hnoLink]
      exact ih hplace hnone hmissing

end ServerSetup.FileTree
