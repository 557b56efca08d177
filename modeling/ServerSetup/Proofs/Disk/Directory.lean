import Mathlib.Data.List.TakeWhile
import Mathlib.Logic.Function.Basic
import ServerSetup.Path.Join
import ServerSetup.Proofs.Disk.Operations
import ServerSetup.Proofs.Text.Split

/-!
# The files in a directory

A path may lead to a directory in which nothing but files is used. The laws of this module say what
reading, writing, renaming and removing these files do, as long as the disk does not refuse.

`Holds` describes such a directory by a function from names to contents, so that the laws can be
read as those of a map: what was written is read back, what was removed is not found, renaming moves
a content, and other names are not touched. They are stated for calls that succeed. A failure other
than that nothing is found may have any reason, a disk that refuses or a path that is too long, and
nothing is concluded from it; that is why `Holds` asks that the disk does not refuse a file as if it
were missing.

Joining a name to the path of the directory gives the path of the file (`Path.join`). Names that are
no names of files, such as two dots, would lead elsewhere, so they are excluded everywhere
(`Path.IsFileName`). A directory that is made on demand may be missing at first, and what is found
missing then is missing as well in the directory once it is there (`read_ne_ok_of_grows`).
-/

namespace ServerSetup

/-! ### Paths of files in a directory -/

namespace Path

/-- The name of a file, as opposed to a path with several names in it. -/
structure IsFileName (name : String) : Prop where
  nonempty : name.toList ≠ []
  noSlash : '/' ∉ name.toList
  dot : name ≠ "."
  dots : name ≠ ".."

theorem isFileName_iff {name : String} : IsFileName name ↔
    name.toList ≠ [] ∧ '/' ∉ name.toList ∧ name ≠ "." ∧ name ≠ ".." :=
  ⟨fun h ↦ ⟨h.nonempty, h.noSlash, h.dot, h.dots⟩, fun h ↦ ⟨h.1, h.2.1, h.2.2.1, h.2.2.2⟩⟩

instance (name : String) : Decidable (IsFileName name) := decidable_of_iff' _ isFileName_iff

variable {path name : String}

/-- A file in a directory: for the empty path it is the name, otherwise the name stands behind a
slash, which may belong to the path. -/
theorem toList_join (path : String) (h : IsFileName name) :
    path.toList = [] ∧ (join path name).toList = name.toList ∨
    ∃ front, (join path name).toList = front ++ '/' :: name.toList ∧
      (path.toList = front ++ ['/'] ∨ path.toList = front ∧ front ≠ []) := by
  have hhead : name.toList.head? ≠ some '/' := fun hhead ↦ h.noSlash (List.mem_of_head? hhead)
  rw [join, if_neg hhead]
  split
  · next hempty =>
    rw [Bool.or_eq_true, decide_eq_true_eq, String.isEmpty_iff] at hempty
    obtain rfl | hlast := hempty
    · exact .inl ⟨rfl, by simp⟩
    · obtain ⟨front, hfront⟩ := List.getLast?_eq_some_iff.1 hlast
      exact .inr ⟨front, by simp [hfront], .inl hfront⟩
  · next hempty =>
    rw [Bool.or_eq_true, decide_eq_true_eq, String.isEmpty_iff, not_or] at hempty
    refine .inr ⟨path.toList, by simp, .inr ⟨rfl, fun hnil ↦ hempty.1 ?_⟩⟩
    rwa [String.toList_eq_nil_iff] at hnil

/-- The names in a path are the parts between its slashes that are not empty. -/
theorem names_eq_splitOn (path : String) :
    names path = ((path.toList.splitOn '/').filter (! ·.isEmpty)).map String.ofList := by
  rw [names, Text.splitWhere_eq_splitOnP, List.splitOn_eq_splitOnP]

/-- What a path ends with stands at the end of its last name. -/
theorem exists_names_append {ending : String} (path : String) (hne : ending.toList ≠ [])
    (hslash : '/' ∉ ending.toList) :
    ∃ front name, names (path ++ ending) = front ++ [name ++ ending] := by
  have hlast {cs : List Char} (hcs : '/' ∉ cs) :
      ((cs ++ ending.toList).splitOn '/').filter (! ·.isEmpty) = [cs ++ ending.toList] := by
    have hplain : '/' ∉ cs ++ ending.toList := by
      rw [List.mem_append]
      exact fun h ↦ h.elim hcs hslash
    rw [List.splitOn_eq_singleton hplain, List.filter_cons_of_pos (by simp [hne])]
    rfl
  by_cases hmem : '/' ∈ path.toList
  · obtain ⟨behind, front, hpath, hbehind⟩ :=
      List.eq_append_cons_of_mem (List.mem_reverse.2 hmem)
    have hpath' : path.toList = front.reverse ++ '/' :: behind.reverse := by
      rw [← List.reverse_reverse path.toList, hpath]
      simp
    refine ⟨names (String.ofList front.reverse), String.ofList behind.reverse, ?_⟩
    rw [names_eq_splitOn, names_eq_splitOn, String.toList_append, hpath', List.append_assoc,
      List.cons_append, List.splitOn_append_cons_self, List.filter_append,
      hlast (by simpa using hbehind), List.map_append, List.map_singleton, String.toList_ofList,
      String.ofList_append, String.ofList_toList]
  · refine ⟨[], path, ?_⟩
    rw [names_eq_splitOn, String.toList_append, hlast hmem, List.map_singleton,
      String.ofList_append, String.ofList_toList, String.ofList_toList]
    rfl

/-- A name that is joined to a path becomes its last name. -/
theorem names_join (h : IsFileName name) : names (join path name) = names path ++ [name] := by
  have hname : (name.toList.splitOn '/').filter (! ·.isEmpty) = [name.toList] := by
    rw [List.splitOn_eq_singleton h.noSlash, List.filter_cons_of_pos (by simpa using h.nonempty)]
    rfl
  rw [names_eq_splitOn, names_eq_splitOn]
  obtain ⟨hpath, hjoin⟩ | ⟨front, hjoin, hpath | ⟨hpath, -⟩⟩ := toList_join path h
  · rw [hjoin, hpath, hname, List.map_singleton, String.ofList_toList, List.splitOn_nil]
    rfl
  · rw [hjoin, hpath, List.splitOn_append_cons_self, List.splitOn_append_cons_self,
      List.filter_append, List.filter_append, hname]
    simp
  · rw [hjoin, hpath, List.splitOn_append_cons_self, List.filter_append, hname]
    simp

/-- The path of a file does not end in a slash. -/
theorem endsWithSlash_join (h : IsFileName name) : endsWithSlash (join path name) = false := by
  have hlast (front : List Char) : (front ++ name.toList).getLast? ≠ some '/' := by
    rw [List.getLast?_append, List.getLast?_eq_some_getLast h.nonempty, Option.some_or]
    exact fun hlast ↦ h.noSlash (Option.some.inj hlast ▸ List.getLast_mem h.nonempty)
  rw [endsWithSlash, beq_eq_false_iff_ne]
  obtain ⟨-, hjoin⟩ | ⟨front, hjoin, -⟩ := toList_join path h
  · rw [hjoin]
    exact hlast []
  · rw [hjoin, List.append_cons]
    exact hlast (front ++ ['/'])

/-- A walk to a file goes along the names of the directory, and then to the name. -/
theorem steps_join (h : IsFileName name) : steps (join path name) = names path ++ [name] := by
  rw [steps, endsWithSlash_join h, names_join h]
  exact List.append_nil _

/-- Whether a path starts at the root does not depend on the name that is joined to it. -/
theorem isAbsolute_join (h : IsFileName name) :
    isAbsolute (join path name) = isAbsolute path := by
  rw [isAbsolute, isAbsolute]
  obtain ⟨hpath, hjoin⟩ | ⟨front, hjoin, hpath | ⟨hpath, hfront⟩⟩ := toList_join path h
  · rw [hpath, hjoin]
    exact beq_eq_false_iff_ne.2 fun hhead ↦ h.noSlash (List.mem_of_head? hhead)
  · rw [hpath, hjoin]
    cases front <;> rfl
  · obtain ⟨c, rest, rfl⟩ := List.exists_cons_of_ne_nil hfront
    rw [hpath, hjoin]
    rfl

/-- What stands behind the last slash. -/
theorem lastName_join (h : IsFileName name) :
    ((join path name).toList.reverse.takeWhile (· != '/')).reverse = name.toList := by
  have hplain : ∀ c ∈ name.toList.reverse, (c != '/') = true :=
    fun c hc ↦ bne_iff_ne.2 fun heq ↦ h.noSlash (heq ▸ List.mem_reverse.1 hc)
  obtain ⟨-, hjoin⟩ | ⟨front, hjoin, -⟩ := toList_join path h
  · rw [hjoin, List.takeWhile_eq_self_iff.2 hplain, List.reverse_reverse]
  · rw [hjoin, List.reverse_append, List.reverse_cons, List.append_assoc,
      List.takeWhile_append_of_pos hplain]
    simp

/-- An ending may be put behind the path or behind the name. -/
theorem join_append {ending : String} (h : IsFileName name) :
    join path name ++ ending = join path (name ++ ending) := by
  have hhead : name.toList.head? ≠ some '/' := fun hhead ↦ h.noSlash (List.mem_of_head? hhead)
  have hhead' : (name ++ ending).toList.head? ≠ some '/' := by
    obtain ⟨c, rest, hname⟩ := List.exists_cons_of_ne_nil h.nonempty
    rw [String.toList_append, hname]
    rwa [hname] at hhead
  rw [join, join, if_neg hhead, if_neg hhead']
  split
  · exact String.append_assoc
  · rw [String.append_assoc]

theorem isEmpty_join (h : IsFileName name) : (join path name).isEmpty = false := by
  rw [← Bool.not_eq_true, String.isEmpty_iff, ← String.toList_eq_nil_iff]
  obtain ⟨-, hjoin⟩ | ⟨front, hjoin, -⟩ := toList_join path h
  · rw [hjoin]
    exact h.nonempty
  · rw [hjoin]
    simp

end Path

namespace Disk

variable {d d' : Disk} {path : String} {place spot : Location} {kind : IoKind}
  {content : List UInt8}

/-! ### The files -/

/-- Where the walk of a path starts. -/
def base (d : Disk) (path : String) : Location :=
  if Path.isAbsolute path then [] else d.workDirectory

/-- A path leads to a directory at a location. -/
structure LeadsTo (d : Disk) (path : String) (directory : Location) : Prop where
  leads : d.tree.Leads true FileTree.maxLinks (d.base path) (Path.names path) directory
  isDirectory : d.tree.isDirectory directory = true

/-- A directory that is there cannot be made. -/
theorem LeadsTo.makeDirectory (h : d.LeadsTo path place) (hempty : ¬ path.isEmpty = true) :
    ∃ kind, Disk.makeDirectory path d = (.error kind, d) ∧ kind ≠ .notFound := by
  have hself : (∃ kind, d.locateSelf path = .error kind ∧ kind ≠ .notFound) ∨
      ∃ spot, d.locateSelf path = .ok spot ∧ (d.tree.get? spot).isSome = true := by
    rw [Disk.locateSelf, Disk.locateSteps, if_neg hempty]
    split
    · exact .inl ⟨.invalidInput, rfl, IoKind.noConfusion⟩
    · split
      · exact .inl ⟨.nameTooLong, rfl, IoKind.noConfusion⟩
      · obtain ⟨spot, hspot, hself⟩ := h.leads.exists_self
        refine .inr ⟨spot, FileTree.walk_eq_ok_iff.2 hspot, ?_⟩
        obtain rfl | ⟨target, hlink⟩ := hself
        · rw [FileTree.isDirectory_iff.1 h.isDirectory]
          rfl
        · rw [hlink]
          rfl
  rw [makeDirectory_eq]
  obtain ⟨kind, hlocate, hkind⟩ | ⟨spot, hlocate, hsome⟩ := hself
  · rw [hlocate]
    exact ⟨kind, rfl, hkind⟩
  · rw [hlocate]
    exact ⟨.alreadyExists, if_pos hsome, IoKind.noConfusion⟩

/-- Nothing is made where the directory is there. -/
theorem LeadsTo.eq_of_ensureDirectory {result : Except IoKind Unit} (h : d.LeadsTo path place)
    (hensure : Disk.ensureDirectory path d = (result, d')) : d' = d := by
  rw [Disk.ensureDirectory] at hensure
  split at hensure
  · cases hensure
    rfl
  · next hempty =>
    obtain ⟨kind, hmake, hkind⟩ := h.makeDirectory hempty
    rw [ensureUpwards_cons_eq, hmake] at hensure
    dsimp only at hensure
    rw [if_neg hkind] at hensure
    split at hensure
    · cases hensure
      rfl
    · cases hensure
      rfl

/-- A path leads to a directory in which there is nothing but the given files, and the disk does not
refuse a file as if it were missing. -/
structure Holds (d : Disk) (path : String) (place : Location)
    (files : String → Option (List UInt8)) : Prop where
  leads : d.tree.Leads true FileTree.maxLinks (d.base path) (Path.names path) place
  directory : d.tree.isDirectory place = true
  content : ∀ name, d.tree.get? (place ++ [name]) = (files name).map .file
  honest : ∀ action, d.refuses action ≠ some .notFound

namespace Holds

variable {files files' : String → Option (List UInt8)} {name source target : String}

theorem leadsTo (h : d.Holds path place files) : d.LeadsTo path place := ⟨h.leads, h.directory⟩

theorem not_isDirectory (h : d.Holds path place files) :
    d.tree.isDirectory (place ++ [name]) = false := by
  rw [← Bool.not_eq_true, FileTree.isDirectory_iff, h.content]
  cases files name <;> simp

/-- The location of a file, whether or not there is one. -/
theorem locateSteps_eq (h : d.Holds path place files) (hname : Path.IsFileName name)
    (follow : Bool) :
    d.locateSteps follow (Path.join path name) (Path.names path ++ [name]) =
      if (Path.join path name).toList.contains '\x00' then .error .invalidInput
      else if maxPathBytes < (Path.join path name).utf8ByteSize ∨
        FileTree.maxNameBytes < name.utf8ByteSize then .error .nameTooLong
      else .ok (place ++ [name]) := by
  rw [Disk.locateSteps, Path.isEmpty_join hname, Path.isAbsolute_join hname]
  split
  · rfl
  · rw [if_neg Bool.false_ne_true]
    by_cases hpath : maxPathBytes < (Path.join path name).utf8ByteSize
    · rw [if_pos hpath, if_pos (.inl hpath)]
    · obtain ⟨left, hleft⟩ := h.leads.walk_append h.directory
      rw [base] at hleft
      rw [if_neg hpath, hleft follow [name] (List.cons_ne_nil _ _)]
      by_cases hlength : FileTree.maxNameBytes < name.utf8ByteSize
      · rw [if_pos (.inr hlength), FileTree.walk, h.directory, if_neg hname.dot, if_neg hname.dots,
          if_pos hlength]
        rfl
      · have henters : d.tree.Enters place name := ⟨h.directory, hname.dot, hname.dots, hlength⟩
        have hcontent := h.content name
        rw [if_neg (not_or.2 ⟨hpath, hlength⟩)]
        -- The name may be missing, being the last one; a file ends the walk as well.
        rcases hfile : files name with - | content
        · rw [hfile] at hcontent
          exact FileTree.walk_missing henters hcontent
        · rw [hfile] at hcontent
          rw [FileTree.walk_through henters hcontent fun _ ↦ Entry.noConfusion, FileTree.walk]

/-- Where a file cannot be located, this is not because it is missing. -/
theorem locateSteps (h : d.Holds path place files) (hname : Path.IsFileName name) (follow : Bool) :
    d.locateSteps follow (Path.join path name) (Path.names path ++ [name]) = .ok (place ++ [name]) ∨
      ∃ kind, d.locateSteps follow (Path.join path name) (Path.names path ++ [name]) =
        .error kind ∧ kind ≠ .notFound := by
  rw [h.locateSteps_eq hname]
  split
  · exact .inr ⟨.invalidInput, rfl, IoKind.noConfusion⟩
  · split
    · exact .inr ⟨.nameTooLong, rfl, IoKind.noConfusion⟩
    · exact .inl rfl

/-- The path of a file leads to its place, unless it is refused for its text. -/
theorem locate (h : d.Holds path place files) (hname : Path.IsFileName name) :
    d.locate (Path.join path name) = .ok (place ++ [name]) ∨
      ∃ kind, d.locate (Path.join path name) = .error kind ∧ kind ≠ .notFound := by
  rw [Disk.locate, Path.steps_join hname]
  exact h.locateSteps hname true

theorem locateSelf (h : d.Holds path place files) (hname : Path.IsFileName name) :
    d.locateSelf (Path.join path name) = .ok (place ++ [name]) ∨
      ∃ kind, d.locateSelf (Path.join path name) = .error kind ∧ kind ≠ .notFound := by
  rw [Disk.locateSelf, Path.names_join hname]
  exact h.locateSteps hname false

/-- A change of nothing but the files. -/
theorem change {t : FileTree} (h : d.Holds path place files)
    (hother : ∀ l, (∀ name, l ≠ place ++ [name]) → t.get? l = d.tree.get? l)
    (hcontent : ∀ name, t.get? (place ++ [name]) = (files' name).map .file) :
    Holds { d with tree := t } path place files' := by
  have hplace : t.get? place = d.tree.get? place := hother place fun name heq ↦ by
    simpa using congrArg List.length heq
  have hextends : t.Extends d.tree := by
    intro l entry hentry hfile
    rw [hother l, hentry]
    rintro name rfl
    rw [h.content, Option.map_eq_some_iff] at hentry
    obtain ⟨content, -, rfl⟩ := hentry
    exact hfile content rfl
  have hdir := FileTree.isDirectory_iff.1 h.directory
  exact {
    leads := h.leads.of_extends hextends hdir (hplace.trans hdir)
    directory := FileTree.isDirectory_iff.2 (hplace.trans hdir)
    content := hcontent
    honest := h.honest }

/-- The directory holds a file that was put there. -/
theorem put (h : d.Holds path place files) (name : String) (content : List UInt8) :
    Holds { d with tree := d.tree.put (place ++ [name]) (.file content) } path place
      (Function.update files name (some content)) := by
  have hne : place ++ [name] ≠ [] := List.append_ne_nil_of_right_ne_nil _ (List.cons_ne_nil _ _)
  refine h.change (fun l hl ↦ FileTree.get?_put_of_ne _ (hl name) _) fun other ↦ ?_
  by_cases hother : other = name
  · rw [hother, FileTree.get?_put_self _ hne, Function.update_self]
    rfl
  · rw [FileTree.get?_put_of_ne _ (by simpa using hother), h.content,
      Function.update_of_ne hother]

/-- The directory holds all files but the one that was erased. -/
theorem erase (h : d.Holds path place files) (name : String) :
    Holds { d with tree := d.tree.erase (place ++ [name]) } path place
      (Function.update files name none) := by
  have hne : place ++ [name] ≠ [] := List.append_ne_nil_of_right_ne_nil _ (List.cons_ne_nil _ _)
  refine h.change (fun l hl ↦ FileTree.get?_erase_of_ne _ (hl name)) fun other ↦ ?_
  by_cases hother : other = name
  · rw [hother, FileTree.get?_erase_self _ hne, Function.update_self]
    rfl
  · rw [FileTree.get?_erase_of_ne _ (by simpa using hother), h.content,
      Function.update_of_ne hother]

/-! ### Laws of the operations -/

/-- What reading one of the files can come to: it is absent exactly if that is the answer. -/
theorem read_cases (h : d.Holds path place files) (hname : Path.IsFileName name) :
    (files name = none ∧ d.read (Path.join path name) = .error .notFound) ∨
      (∃ content, files name = some content ∧ d.read (Path.join path name) = .ok content) ∨
      ∃ kind, kind ≠ .notFound ∧ d.read (Path.join path name) = .error kind := by
  rw [read]
  rcases h.locate hname with hlocate | ⟨kind, hlocate, hkind⟩
  · rw [hlocate]
    dsimp only
    rw [h.content]
    rcases hfile : files name with - | content
    · exact .inl ⟨rfl, rfl⟩
    · dsimp only [Option.map_some]
      rcases hrefuses : d.refuses (.read (place ++ [name])) with - | kind
      · exact .inr (.inl ⟨content, rfl, rfl⟩)
      · refine .inr (.inr ⟨kind, ?_, rfl⟩)
        rintro rfl
        exact h.honest _ hrefuses
  · rw [hlocate]
    exact .inr (.inr ⟨kind, hkind, rfl⟩)

/-- What is read is what the directory holds. -/
theorem read_eq_ok (h : d.Holds path place files) (hname : Path.IsFileName name)
    (hread : d.read (Path.join path name) = .ok content) : files name = some content := by
  obtain ⟨-, habsent⟩ | ⟨found, hfile, hfound⟩ | ⟨kind, -, hfailed⟩ := h.read_cases hname
  · cases hread.symm.trans habsent
  · cases hread.symm.trans hfound
    exact hfile
  · cases hread.symm.trans hfailed

/-- What is not found is not there. -/
theorem read_eq_notFound (h : d.Holds path place files) (hname : Path.IsFileName name)
    (hread : d.read (Path.join path name) = .error .notFound) : files name = none := by
  obtain ⟨hfile, -⟩ | ⟨found, -, hfound⟩ | ⟨kind, hkind, hfailed⟩ := h.read_cases hname
  · exact hfile
  · cases hread.symm.trans hfound
  · cases hread.symm.trans hfailed
    exact absurd rfl hkind

/-- A file that was written is there with its content, and the others are as before. -/
theorem write (h : d.Holds path place files) (hname : Path.IsFileName name)
    (hwrite : Disk.write (Path.join path name) content d = (.ok (), d')) :
    d'.Holds path place (Function.update files name (some content)) := by
  rw [write_eq, create_eq (Path.endsWithSlash_join hname)] at hwrite
  rcases h.locate hname with hlocate | ⟨kind, hlocate, -⟩
  · rw [hlocate] at hwrite
    dsimp only at hwrite
    rw [h.not_isDirectory, if_neg Bool.false_ne_true] at hwrite
    rcases hcreate : d.refuses (.create (place ++ [name])) with - | kind
    · rw [hcreate] at hwrite
      dsimp only at hwrite
      split at hwrite
      · cases hwrite
      · split at hwrite
        · cases hwrite
        · cases hwrite
          have hput := (h.put name []).put name content
          rwa [Function.update_idem] at hput
    · rw [hcreate] at hwrite
      cases hwrite
  · rw [hlocate] at hwrite
    cases hwrite

/-- What removing one of the files can come to: a failure leaves the disk as it was. -/
theorem remove_cases (h : d.Holds path place files) (hname : Path.IsFileName name) :
    (files name = none ∧ Disk.remove (Path.join path name) d = (.error .notFound, d)) ∨
      (∃ content, files name = some content ∧ Disk.remove (Path.join path name) d =
        (.ok (), { d with tree := d.tree.erase (place ++ [name]) })) ∨
      ∃ kind, kind ≠ .notFound ∧ Disk.remove (Path.join path name) d = (.error kind, d) := by
  rw [remove_eq]
  rcases h.locateSelf hname with hlocate | ⟨kind, hlocate, hkind⟩
  · rw [hlocate]
    dsimp only
    rw [h.content, Path.endsWithSlash_join hname, if_neg Bool.false_ne_true]
    rcases hfile : files name with - | content
    · exact .inl ⟨rfl, rfl⟩
    · dsimp only [Option.map_some]
      rcases hrefuses : d.refuses (.remove (place ++ [name])) with - | kind
      · exact .inr (.inl ⟨content, rfl, rfl⟩)
      · refine .inr (.inr ⟨kind, ?_, rfl⟩)
        rintro rfl
        exact h.honest _ hrefuses
  · rw [hlocate]
    exact .inr (.inr ⟨kind, hkind, rfl⟩)

/-- A file that was removed is gone, and the others are as before. -/
theorem remove (h : d.Holds path place files) (hname : Path.IsFileName name)
    (hremove : Disk.remove (Path.join path name) d = (.ok (), d')) :
    d'.Holds path place (Function.update files name none) := by
  obtain ⟨-, habsent⟩ | ⟨content, -, hremoved⟩ | ⟨kind, -, hfailed⟩ := h.remove_cases hname
  · cases hremove.symm.trans habsent
  · cases hremove.symm.trans hremoved
    exact h.erase name
  · cases hremove.symm.trans hfailed

/-- What can be removed is there. -/
theorem exists_of_remove (h : d.Holds path place files) (hname : Path.IsFileName name)
    (hremove : Disk.remove (Path.join path name) d = (.ok (), d')) :
    ∃ content, files name = some content := by
  obtain ⟨-, habsent⟩ | ⟨content, hfile, -⟩ | ⟨kind, -, hfailed⟩ := h.remove_cases hname
  · cases hremove.symm.trans habsent
  · exact ⟨content, hfile⟩
  · cases hremove.symm.trans hfailed

/-- A file that is not found when it is to be removed is not there, and nothing changes. -/
theorem remove_eq_notFound (h : d.Holds path place files) (hname : Path.IsFileName name)
    (hremove : Disk.remove (Path.join path name) d = (.error .notFound, d')) :
    files name = none ∧ d' = d := by
  obtain ⟨hfile, habsent⟩ | ⟨content, -, hremoved⟩ | ⟨kind, hkind, hfailed⟩ := h.remove_cases hname
  · cases hremove.symm.trans habsent
    exact ⟨hfile, rfl⟩
  · cases hremove.symm.trans hremoved
  · cases hremove.symm.trans hfailed
    exact absurd rfl hkind

/-- A file that was renamed is there under the new name alone, in place of what was there. -/
theorem rename (h : d.Holds path place files) (hsource : Path.IsFileName source)
    (htarget : Path.IsFileName target) (hne : target ≠ source) (hfile : files source = some content)
    (hrename : Disk.rename (Path.join path source) (Path.join path target) d = (.ok (), d')) :
    d'.Holds path place
      (Function.update (Function.update files source none) target (some content)) := by
  rw [rename_eq] at hrename
  rcases h.locateSelf hsource with hplace | ⟨kind, hplace, -⟩
  · rw [hplace] at hrename
    dsimp only at hrename
    rw [h.content, hfile] at hrename
    dsimp only [Option.map_some] at hrename
    rcases h.locateSelf htarget with hgoal | ⟨kind, hgoal, -⟩
    · rw [hgoal] at hrename
      dsimp only at hrename
      rw [if_neg (by simpa using hne), h.not_isDirectory, if_neg Bool.false_ne_true] at hrename
      split at hrename
      · cases hrename
      · cases hrename
        exact (h.erase source).put target content
    · rw [hgoal] at hrename
      cases hrename
  · rw [hplace] at hrename
    cases hrename

/-! ### Before the directory is made -/

/-- A path leads to nothing if it does not after its directory was made. -/
theorem get?_eq_none_of_grows (h : d'.Holds path place files) (hname : Path.IsFileName name)
    (hnone : files name = none) (hgrows : d.Grows d') {follow : Bool}
    (hlocate : d.locateSteps follow (Path.join path name) (Path.names path ++ [name]) = .ok spot) :
    d.tree.get? spot = none := by
  rcases hentry : d.tree.get? spot with - | entry
  · rfl
  · have hspot := hgrows.locateSteps hlocate hentry
    have hentry' := hgrows.get? spot entry hentry
    rcases h.locateSteps hname follow with hplace | ⟨kind, hplace, -⟩
    · rw [hspot] at hplace
      rw [Except.ok.inj hplace, h.content, hnone] at hentry'
      cases hentry'
    · rw [hspot] at hplace
      cases hplace

/-- Before the directory was made nothing could be read that it does not hold. -/
theorem read_ne_ok_of_grows (h : d'.Holds path place files) (hname : Path.IsFileName name)
    (hnone : files name = none) (hgrows : d.Grows d') :
    d.read (Path.join path name) ≠ .ok content := by
  intro hread
  rw [read, Disk.locate, Path.steps_join hname] at hread
  split at hread
  · cases hread
  · next spot hlocate =>
    rw [h.get?_eq_none_of_grows hname hnone hgrows hlocate] at hread
    cases hread

/-- Before the directory was made nothing could be removed that it does not hold. -/
theorem remove_ne_ok_of_grows (h : d'.Holds path place files) (hname : Path.IsFileName name)
    (hnone : files name = none) (hgrows : d.Grows d') {d₁ : Disk} :
    Disk.remove (Path.join path name) d ≠ (.ok (), d₁) := by
  intro hremove
  rw [remove_eq, Disk.locateSelf, Path.names_join hname] at hremove
  split at hremove
  · cases hremove
  · next spot hlocate =>
    rw [h.get?_eq_none_of_grows hname hnone hgrows hlocate] at hremove
    cases hremove

end Holds

end Disk

end ServerSetup
