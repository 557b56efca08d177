import Mathlib
import ServerSetup.Search
import ServerSetup.Proofs.Catalog
import ServerSetup.Proofs.Disk.Copies
import ServerSetup.Proofs.Operation
import ServerSetup.Proofs.Rehearsal

/-!
# What a search finds

A search looks in five places. This module says of each place which homes it gives, without saying
how they are looked for (`Search.Found`). On a host that answers the same way throughout, a search
adds to the catalog the keys of exactly these homes, in whatever order the finds on the volumes
arrive, and it selects the recorded home, or else the one above the program (`run_finds`).

What the host answers is an `Outlook`: the volumes, the recorded home, the services and their
records. `Outlook.Steady` says that a host gives these answers in all its calm states, stays calm,
and touches nothing of the world but its own state. A host may therefore keep a log or count its
calls. The disk is read and never written, so that it is the same for all places.

Each place is first given as an equation on the world (`searchVolumes_eq` and the others), with a
list of homes or a single one as a function of the outlook and the disk. These functions are then
described by relations that do not mention the order of the search: `FindsNamed` and
`FindsContained` for what is found on volumes, `NearestHome` for the climb above the program. The
volumes are searched side by side, and their finds are merged in an order that is a parameter,
`Search.merge`; that it only permutes them is all that is used.
-/

namespace ServerSetup

open CommandLine

/-- A word occurs in a text exactly if it is a part of it. -/
theorem Text.occurs_iff {word cs : List Char} : occurs word cs = true ↔ word <:+: cs := by
  induction cs with
  | nil => simp [occurs]
  | cons c cs ih => simp [occurs, ih, List.infix_cons_iff]

/-! ### The nearest home above a path -/

/-- The nearest home above a path: the path one level up is one, or it is none and the home is the
nearest one above it. -/
inductive Path.NearestHome (test : String → Option HomePath) : String → HomePath → Prop
  | here {path parent : String} {home : HomePath} (habove : above? path = some parent)
      (hhome : test parent = some home) : NearestHome test path home
  | up {path parent : String} {home : HomePath} (habove : above? path = some parent)
      (hnone : test parent = none) (hhome : NearestHome test parent home) :
      NearestHome test path home

/-- The first home among the paths above a path is the nearest one. -/
theorem Path.findSome?_ancestors_iff {test : String → Option HomePath} {path : String}
    {home : HomePath} :
    (ancestors path).findSome? test = some home ↔ NearestHome test path home := by
  -- along the recursion of `ancestors`, one level at a time
  induction path using ancestors.induct with
  | case1 path habove =>
    rw [ancestors, habove]
    constructor
    · intro h
      cases h
    · intro h
      cases h with
      | here habove' => rw [habove] at habove'; cases habove'
      | up habove' => rw [habove] at habove'; cases habove'
  | case2 path parent habove ih =>
    rw [ancestors, habove]
    simp only [List.findSome?_cons]
    rcases htest : test parent with - | found
    · refine ih.trans ⟨.up habove htest, fun h ↦ ?_⟩
      cases h with
      | here habove' hhome =>
        rw [habove] at habove'
        cases habove'
        rw [htest] at hhome
        cases hhome
      | up habove' _ hhome =>
        rw [habove] at habove'
        cases habove'
        exact hhome
    · constructor
      · intro h
        cases h
        exact .here habove htest
      · intro h
        cases h with
        | here habove' hhome =>
          rw [habove] at habove'
          cases habove'
          exact htest.symm.trans hhome
        | up habove' hnone =>
          rw [habove] at habove'
          cases habove'
          rw [htest] at hnone
          cases hnone

/-! ### Directories on volumes -/

/-- A directory, or a link to one, directly below a directory that can be listed. -/
def Disk.HasDirectory (d : Disk) (parent name : String) : Prop :=
  (∃ names, d.list parent = .ok names ∧ name ∈ names) ∧ d.isDirectory (Path.join parent name) = true

namespace HomeTest

variable {test : HomeTest} {disk : Disk} {product : ProductSettings} {volume name : String}
  {home : HomePath}

/-- A directory directly below a volume is a home, and its name starts like that of an installation,
in any letter case. -/
structure FindsNamed (test : HomeTest) (disk : Disk) (product : ProductSettings)
    (volume name : String) (home : HomePath) : Prop where
  there : disk.HasDirectory volume name
  start : Text.lowercaseText product.directoryStart.toList <+: Text.lowercaseText name.toList
  isHome : test disk (Path.join volume name) = some home

/-- A directory is a home and is directly below a container: a directory below a volume whose name
contains the mark, in any letter case, and that is not found by its own name. -/
structure FindsContained (test : HomeTest) (disk : Disk) (product : ProductSettings)
    (volume name child : String) (home : HomePath) : Prop where
  there : disk.HasDirectory volume name
  hasMark : Text.lowercaseText product.containerMark.toList ≠ []
  marked : Text.lowercaseText product.containerMark.toList <:+: Text.lowercaseText name.toList
  notNamed : ∀ home, ¬ test.FindsNamed disk product volume name home
  below : disk.HasDirectory (Path.join volume name) child
  isHome : test disk (Path.join (Path.join volume name) child) = some home

/-- The homes below a directory are those that its listed directories are. -/
theorem mem_homesBelow {directory : String} : home ∈ test.homesBelow disk directory ↔
    ∃ child, disk.HasDirectory directory child ∧
      test disk (Path.join directory child) = some home := by
  rw [homesBelow]
  rcases hlist : disk.list directory with kind | names
  · simp [Disk.HasDirectory, hlist]
  · simp [Disk.HasDirectory, hlist, List.mem_filterMap, and_assoc]

/-- An entry at the top of a volume that can be listed gives what is found by its name, or else what
is found in it. -/
theorem mem_homesAt (hlisted : ∃ names, disk.list volume = .ok names ∧ name ∈ names) :
    home ∈ test.homesAt disk product volume name ↔
      test.FindsNamed disk product volume name home ∨
        ∃ child, test.FindsContained disk product volume name child home := by
  have hown : ∀ found, (if (Text.lowercaseText product.directoryStart.toList).isPrefixOf
      (Text.lowercaseText name.toList) then test disk (Path.join volume name) else none) =
        some found ↔
      Text.lowercaseText product.directoryStart.toList <+: Text.lowercaseText name.toList ∧
        test disk (Path.join volume name) = some found := by
    intro found
    rw [Option.ite_none_right_eq_some, List.isPrefixOf_iff_prefix]
  rw [homesAt]
  -- Not a directory: nothing is found by either test, as both ask for one.
  rcases hdir : disk.isDirectory (Path.join volume name) with - | -
  · simp only [Bool.not_false, if_true, List.not_mem_nil, false_iff, not_or, not_exists]
    refine ⟨fun h ↦ ?_, fun child h ↦ ?_⟩
    · rw [h.there.2] at hdir
      cases hdir
    · rw [h.there.2] at hdir
      cases hdir
  · have hthere : disk.HasDirectory volume name := ⟨hlisted, hdir⟩
    have hnamed (found : HomePath) : test.FindsNamed disk product volume name found ↔ _ :=
      Iff.trans ⟨fun h ↦ ⟨h.start, h.isHome⟩, fun h ↦ ⟨hthere, h.1, h.2⟩⟩ (hown found).symm
    simp only [Bool.not_true, Bool.false_eq_true, if_false]
    -- The directory itself comes first, and if it is a home, nothing below it is looked at.
    split
    · next found hfound =>
      have hfinds := (hnamed found).2 hfound
      rw [List.mem_singleton]
      constructor
      · rintro rfl
        exact Or.inl hfinds
      · rintro (h | ⟨child, h⟩)
        · exact Option.some.inj (h.isHome.symm.trans hfinds.isHome)
        · exact absurd hfinds (h.notNamed found)
    · next hnone =>
      have hnot (found : HomePath) : ¬ test.FindsNamed disk product volume name found := by
        rw [hnamed, hnone]
        exact fun h ↦ by cases h
      rw [List.mem_ite_nil_right, mem_homesBelow, Bool.and_eq_true, Text.occurs_iff,
        Bool.not_eq_true', List.isEmpty_eq_false_iff]
      constructor
      · rintro ⟨⟨hmark, hmarked⟩, child, hbelow, hhome⟩
        exact Or.inr ⟨child, hthere, hmark, hmarked, hnot, hbelow, hhome⟩
      · rintro (h | ⟨child, h⟩)
        · exact absurd h (hnot home)
        · exact ⟨⟨h.hasMark, h.marked⟩, child, h.below, h.isHome⟩

/-- The homes on a volume are those found by name and those found in containers. -/
theorem mem_homesOn : home ∈ test.homesOn disk product volume ↔ ∃ name,
    test.FindsNamed disk product volume name home ∨
      ∃ child, test.FindsContained disk product volume name child home := by
  rw [homesOn]
  rcases hlist : disk.list volume with kind | names
  · have hnone (name : String) : ¬ disk.HasDirectory volume name := by
      simp [Disk.HasDirectory, hlist]
    simp only [List.not_mem_nil, false_iff, not_exists, not_or]
    exact fun name ↦ ⟨fun h ↦ hnone name h.there, fun child h ↦ hnone name h.there⟩
  · have hmem {name : String} (h : disk.HasDirectory volume name) : name ∈ names := by
      obtain ⟨⟨names', hlist', hname⟩, -⟩ := h
      rw [hlist] at hlist'
      cases hlist'
      exact hname
    simp only [List.mem_flatMap]
    constructor
    · rintro ⟨name, hname, hhome⟩
      exact ⟨name, (mem_homesAt ⟨names, hlist, hname⟩).1 hhome⟩
    · rintro ⟨name, hfinds⟩
      have hname : name ∈ names := by
        rcases hfinds with h | ⟨child, h⟩
        · exact hmem h.there
        · exact hmem h.there
      exact ⟨name, hname, (mem_homesAt ⟨names, hlist, hname⟩).2 hfinds⟩

end HomeTest

namespace Search

variable {η : Type} {s : Search η} {w w' : World η}

/-! ### What is found -/

/-- What a host answers to the questions of a search. -/
structure Outlook where
  volumes : Except Fault (List String)
  recordedHome : Except Fault (Option String)
  services : Except Fault (List String)
  record : String → Except Fault (Option String)

/-- A host answers the questions of a search in the same way in all calm states. A call leaves the
host calm and acts on nothing else. -/
structure Outlook.Steady (a : Outlook) (host : Host η) (calm : η → Prop) : Prop where
  volumes : ∀ w, calm w.host → ∃ h, host.volumes w = (a.volumes, { w with host := h }) ∧ calm h
  recordedHome : ∀ w, calm w.host →
    ∃ h, host.recordedHome w = (a.recordedHome, { w with host := h }) ∧ calm h
  services : ∀ w, calm w.host →
    ∃ h, host.records.list w = (a.services, { w with host := h }) ∧ calm h
  record : ∀ w service, calm w.host →
    ∃ h, host.records.record service w = (a.record service, { w with host := h }) ∧ calm h

/-- The recorded home, if it can be read and is not blank. -/
def Outlook.Records (a : Outlook) (disk : Disk) (home : HomePath) : Prop :=
  ∃ written, a.recordedHome = .ok (some written) ∧ Text.isBlankText written = false ∧
    disk.canonical written = home

/-- The nearest home above the place of the program, if that is known. -/
def FindsAbove (s : Search η) (disk : Disk) (home : HomePath) : Prop :=
  ∃ location, s.host.ownLocation = some location ∧
    Path.NearestHome (s.test disk) (disk.canonical location).shown home

/-- The homes that there are to find. -/
inductive Found (s : Search η) (a : Outlook) (disk : Disk) : HomePath → Prop
  /-- A directory on a volume that is found by its name. -/
  | named {volumes : List String} {volume name : String} {home : HomePath}
      (hvolumes : a.volumes = .ok volumes) (hvolume : volume ∈ volumes)
      (hfinds : s.test.FindsNamed disk s.product volume name home) : Found s a disk home
  /-- A directory in a container on a volume. -/
  | contained {volumes : List String} {volume name child : String} {home : HomePath}
      (hvolumes : a.volumes = .ok volumes) (hvolume : volume ∈ volumes)
      (hfinds : s.test.FindsContained disk s.product volume name child home) : Found s a disk home
  /-- The recorded home. -/
  | recorded {home : HomePath} (hrecords : a.Records disk home) : Found s a disk home
  /-- The home of a service whose record can be read and starts the launcher. -/
  | service {names : List String} {name record home : String} {args : Arguments}
      (hservices : a.services = .ok names) (hname : name ∈ names)
      (hrecord : a.record name = .ok (some record))
      (hargs : launcherArguments? record s.product.launcher = some args)
      (hhome : homeOf? s.test disk args = some home) : Found s a disk (disk.canonical home)
  /-- The nearest home above the program. -/
  | above {home : HomePath} (habove : s.FindsAbove disk home) : Found s a disk home

/-! ### The five places, one after the other -/

/-- The finds on the volumes, in the order in which they arrive. -/
def volumeHomes (s : Search η) (a : Outlook) (disk : Disk) : List HomePath :=
  match a.volumes with
  | .ok volumes => s.merge (volumes.map (s.test.homesOn disk s.product))
  | .error _ => []

/-- The recorded home. -/
def Outlook.recordedHome? (a : Outlook) (disk : Disk) : Option HomePath :=
  match a.recordedHome with
  | .ok (some written) => if Text.isBlankText written then none else some (disk.canonical written)
  | _ => none

/-- The home that the record of a service gives. -/
def serviceHome? (s : Search η) (a : Outlook) (disk : Disk) (name : String) : Option HomePath :=
  match a.record name with
  | .ok (some record) => ((launcherArguments? record s.product.launcher).bind
      (homeOf? s.test disk)).map disk.canonical
  | _ => none

/-- The home above the program. -/
def homeAbove? (s : Search η) (disk : Disk) : Option HomePath :=
  s.host.ownLocation.bind fun location ↦
    (Path.ancestors (disk.canonical location).shown).findSome? (s.test disk)

/-- A home is taken from the record exactly if it is the recorded one. -/
theorem Outlook.recordedHome?_eq_some_iff {a : Outlook} {disk : Disk} {home : HomePath} :
    a.recordedHome? disk = some home ↔ a.Records disk home := by
  rw [recordedHome?, Records]
  rcases a.recordedHome with why | - | written
  · simp
  · simp
  · simp

/-- A home is found above the program exactly if it is the nearest one there. -/
theorem homeAbove?_eq_some_iff {disk : Disk} {home : HomePath} :
    s.homeAbove? disk = some home ↔ s.FindsAbove disk home := by
  simp only [homeAbove?, FindsAbove, Option.bind_eq_some_iff, Path.findSome?_ancestors_iff]

/-- Selecting a home acts on the catalog only. -/
theorem selectHome_eq (home : HomePath) :
    selectHome home w = ((), { w with catalog := w.catalog.selecting home }) := by
  simp only [selectHome, World.onCatalog, Catalog.selecting]
  rcases w.catalog.makeCurrent ⟨home, []⟩ with e | ⟨stored, c⟩
  · rfl
  · rfl

/-- The volumes add their homes in the order in which these arrive. -/
theorem searchVolumes_eq {a : Outlook} {calm : η → Prop} (hhost : a.Steady s.host calm)
    (hcalm : calm w.host) : ∃ h, calm h ∧ s.searchVolumes w = ((), { w with
      host := h, catalog := w.catalog.addHomes (s.volumeHomes a w.disk) }) := by
  obtain ⟨h, hvolumes, hcalm'⟩ := hhost.volumes w hcalm
  refine ⟨h, hcalm', ?_⟩
  rw [volumeHomes]
  simp only [searchVolumes, bind, StateT.bind, hvolumes]
  rcases a.volumes with why | volumes
  · rfl
  · rfl

/-- The recorded home is selected, if there is one. -/
theorem takeRecordedHome_eq {a : Outlook} {calm : η → Prop} (hhost : a.Steady s.host calm)
    (hcalm : calm w.host) : ∃ h, calm h ∧ s.takeRecordedHome w = ((), { w with
      host := h
      catalog := (a.recordedHome? w.disk).elim w.catalog w.catalog.selecting }) := by
  obtain ⟨h, hrecorded, hcalm'⟩ := hhost.recordedHome w hcalm
  refine ⟨h, hcalm', ?_⟩
  rw [Outlook.recordedHome?]
  simp only [takeRecordedHome, bind, StateT.bind, hrecorded]
  rcases a.recordedHome with why | - | written
  · rfl
  · rfl
  · dsimp only
    rcases Text.isBlankText written with - | -
    · exact selectHome_eq _
    · rfl

/-- The records of services add the homes that they give. -/
theorem searchRecords_eq {a : Outlook} {calm : η → Prop} (hhost : a.Steady s.host calm)
    (names : List String) (hcalm : calm w.host) :
    ∃ h, calm h ∧ s.searchRecords names w = ((), { w with
      host := h, catalog := w.catalog.addHomes (names.filterMap (s.serviceHome? a w.disk)) }) := by
  induction names generalizing w with
  | nil => exact ⟨w.host, hcalm, rfl⟩
  | cons name names ih =>
    obtain ⟨h, hrecord, hcalm'⟩ := hhost.record w name hcalm
    -- what the record of the first service adds
    have hfirst : s.searchRecords (name :: names) w = s.searchRecords names { w with
        host := h
        catalog := w.catalog.addHomes (s.serviceHome? a w.disk name).toList } := by
      simp only [searchRecords, bind, StateT.bind, hrecord, serviceHome?]
      rcases a.record name with why | - | record
      · rfl
      · rfl
      · dsimp only
        rcases hhome : (launcherArguments? record s.product.launcher).bind
            (homeOf? s.test w.disk) with - | home
        all_goals
          simp only [bind, StateT.bind, get, getThe, MonadStateOf.get, StateT.get, pure, hhome]
          rfl
    obtain ⟨h', hcalm'', hrest⟩ := ih (w := { w with
      host := h
      catalog := w.catalog.addHomes (s.serviceHome? a w.disk name).toList }) hcalm'
    have hhomes :
        (s.serviceHome? a w.disk name).toList ++ names.filterMap (s.serviceHome? a w.disk) =
          (name :: names).filterMap (s.serviceHome? a w.disk) := by
      rw [List.filterMap_cons]
      rcases s.serviceHome? a w.disk name with - | home
      · rfl
      · rfl
    refine ⟨h', hcalm'', ?_⟩
    rw [hfirst, hrest, ← Catalog.addHomes_append, hhomes]

/-- The home above the program is added and selected, if there is one. -/
theorem searchUpwards_eq : s.searchUpwards w = ((), { w with
    catalog := (s.homeAbove? w.disk).elim w.catalog fun home ↦
      (w.catalog.addHomes [home]).selecting home }) := by
  rw [homeAbove?]
  simp only [searchUpwards]
  rcases s.host.ownLocation with - | location
  · rfl
  · rw [Option.bind_some]
    rcases hhome : (Path.ancestors (w.disk.canonical location).shown).findSome? (s.test w.disk)
      with - | home
    · simp only [bind, StateT.bind, get, getThe, MonadStateOf.get, StateT.get, pure, hhome]
      rfl
    · simp only [bind, StateT.bind, get, getThe, MonadStateOf.get, StateT.get, pure, hhome]
      exact selectHome_eq _

/-- The services add their homes if they can be listed, and otherwise the search fails here. -/
theorem searchServices_eq_ok_iff {a : Outlook} {calm : η → Prop} (hhost : a.Steady s.host calm)
    (hcalm : calm w.host) : ∃ h, calm h ∧ ∀ u w', s.searchServices w = (.ok u, w') ↔
      ∃ names, a.services = .ok names ∧ w' = { w with
        host := h, catalog := w.catalog.addHomes (names.filterMap (s.serviceHome? a w.disk)) } := by
  obtain ⟨h₁, hlist, hcalm₁⟩ := hhost.services w hcalm
  rcases hservices : a.services with why | names
  · refine ⟨h₁, hcalm₁, fun u w' ↦ ⟨fun hrun ↦ ?_, ?_⟩⟩
    · obtain ⟨names, w₂, hcall, -⟩ := SetupM.bind_eq_ok_iff.1 hrun
      rw [SetupM.call_eq_ok_iff, hlist, hservices] at hcall
      cases hcall
    · rintro ⟨names, hnames, -⟩
      cases hnames
  · rw [hservices] at hlist
    obtain ⟨h, hcalm', hrecords⟩ := searchRecords_eq hhost names (w := { w with host := h₁ }) hcalm₁
    have hrun : s.searchServices w = (.ok (), { w with
        host := h, catalog := w.catalog.addHomes (names.filterMap (s.serviceHome? a w.disk)) }) :=
      SetupM.bind_eq_ok_iff.2 ⟨_, _, SetupM.call_eq_ok_iff.2 hlist, SetupM.lift_eq_ok hrecords⟩
    refine ⟨h, hcalm', fun u w' ↦ ⟨fun hok ↦ ?_, ?_⟩⟩
    · cases hrun.symm.trans hok
      exact ⟨names, rfl, rfl⟩
    · rintro ⟨names', hnames, rfl⟩
      cases hnames
      exact hrun

/-- The catalog after a search that finds the given services. -/
def gathered (s : Search η) (a : Outlook) (w : World η) (names : List String) : Catalog :=
  w.catalog.gather (s.volumeHomes a w.disk) (a.recordedHome? w.disk)
    (names.filterMap (s.serviceHome? a w.disk)) (s.homeAbove? w.disk)

/-- A search succeeds exactly if the services can be listed, and then has gathered the homes of the
five places. -/
theorem run_eq_ok_iff {a : Outlook} {calm : η → Prop} (hhost : a.Steady s.host calm)
    (hcalm : calm w.host) : ∃ h, calm h ∧ ∀ found w', s.run w = (.ok found, w') ↔
      ∃ names, a.services = .ok names ∧ found = (s.gathered a w names).installations ∧
        w' = { w with host := h, catalog := s.gathered a w names } := by
  obtain ⟨h₁, hcalm₁, hvolumes⟩ := searchVolumes_eq hhost hcalm
  obtain ⟨h₂, hcalm₂, hrecorded⟩ := takeRecordedHome_eq hhost (w := { w with
    host := h₁, catalog := w.catalog.addHomes (s.volumeHomes a w.disk) }) hcalm₁
  obtain ⟨h₃, hcalm₃, hservices⟩ := searchServices_eq_ok_iff hhost (w := { w with
    host := h₂
    catalog := (a.recordedHome? w.disk).elim (w.catalog.addHomes (s.volumeHomes a w.disk))
      (w.catalog.addHomes (s.volumeHomes a w.disk)).selecting }) hcalm₂
  refine ⟨h₃, hcalm₃, fun found w' ↦ ?_⟩
  have hstart : s.run w = (s.searchServices >>= fun _ ↦ do
      s.searchUpwards
      return (← get).catalog.installations) { w with
        host := h₂
        catalog := (a.recordedHome? w.disk).elim (w.catalog.addHomes (s.volumeHomes a w.disk))
          (w.catalog.addHomes (s.volumeHomes a w.disk)).selecting } :=
    (SetupM.lift_bind_eq hvolumes).trans (SetupM.lift_bind_eq hrecorded)
  rw [hstart, SetupM.bind_eq_ok_iff]
  constructor
  · rintro ⟨_, w₁, hok, hend⟩
    obtain ⟨names, hnames, rfl⟩ := (hservices _ _).1 hok
    cases (SetupM.lift_bind_eq searchUpwards_eq).symm.trans hend
    exact ⟨names, hnames, rfl, rfl⟩
  · rintro ⟨names, hnames, rfl, rfl⟩
    exact ⟨(), _, (hservices _ _).2 ⟨names, hnames, rfl⟩, SetupM.lift_bind_eq searchUpwards_eq⟩

/-! ### All that is found -/

/-- In whatever order they arrive, the finds on the volumes are the homes on the listed volumes. -/
theorem mem_volumeHomes {a : Outlook} {disk : Disk} {home : HomePath}
    (hmerge : ∀ finds, (s.merge finds).Perm finds.flatten) :
    home ∈ s.volumeHomes a disk ↔ ∃ volumes volume, a.volumes = .ok volumes ∧ volume ∈ volumes ∧
      home ∈ s.test.homesOn disk s.product volume := by
  rw [volumeHomes]
  rcases a.volumes with why | volumes
  · simp
  · simp only [(hmerge _).mem_iff, List.mem_flatten, List.mem_map, Except.ok.injEq]
    constructor
    · rintro ⟨_, ⟨volume, hvolume, rfl⟩, hhome⟩
      exact ⟨volumes, volume, rfl, hvolume, hhome⟩
    · rintro ⟨_, volume, rfl, hvolume, hhome⟩
      exact ⟨_, ⟨volume, hvolume, rfl⟩, hhome⟩

/-- The record of a service gives a home if it starts the launcher and names a home that is one. -/
theorem serviceHome?_eq_some_iff {a : Outlook} {disk : Disk} {name : String} {home : HomePath} :
    s.serviceHome? a disk name = some home ↔ ∃ record args written,
      a.record name = .ok (some record) ∧
      launcherArguments? record s.product.launcher = some args ∧
      homeOf? s.test disk args = some written ∧ disk.canonical written = home := by
  rw [serviceHome?]
  rcases a.record name with why | - | record
  · simp
  · simp
  · simp [Option.bind_eq_some_iff]

/-- The homes that a search gathers are those that there are to find. -/
theorem found_iff {a : Outlook} {disk : Disk} {names : List String} {home : HomePath}
    (hmerge : ∀ finds, (s.merge finds).Perm finds.flatten) (hservices : a.services = .ok names) :
    s.Found a disk home ↔ home ∈ s.volumeHomes a disk ∨ a.recordedHome? disk = some home ∨
      home ∈ names.filterMap (s.serviceHome? a disk) ∨ s.homeAbove? disk = some home := by
  rw [mem_volumeHomes hmerge, Outlook.recordedHome?_eq_some_iff, List.mem_filterMap,
    homeAbove?_eq_some_iff]
  constructor
  · rintro (⟨hvolumes, hvolume, hfinds⟩ | ⟨hvolumes, hvolume, hfinds⟩ | hrecords |
      ⟨hservices', hname, hrecord, hargs, hhome⟩ | habove)
    · exact Or.inl ⟨_, _, hvolumes, hvolume, HomeTest.mem_homesOn.2 ⟨_, Or.inl hfinds⟩⟩
    · exact Or.inl ⟨_, _, hvolumes, hvolume, HomeTest.mem_homesOn.2 ⟨_, Or.inr ⟨_, hfinds⟩⟩⟩
    · exact Or.inr (Or.inl hrecords)
    · rw [hservices] at hservices'
      cases hservices'
      exact Or.inr (Or.inr (Or.inl ⟨_, hname,
        serviceHome?_eq_some_iff.2 ⟨_, _, _, hrecord, hargs, hhome, rfl⟩⟩))
    · exact Or.inr (Or.inr (Or.inr habove))
  · rintro (⟨volumes, volume, hvolumes, hvolume, hhome⟩ | hrecords | ⟨name, hname, hhome⟩ | habove)
    · obtain ⟨name, hfinds | ⟨child, hfinds⟩⟩ := HomeTest.mem_homesOn.1 hhome
      · exact .named hvolumes hvolume hfinds
      · exact .contained hvolumes hvolume hfinds
    · exact .recorded hrecords
    · obtain ⟨record, args, written, hrecord, hargs, hwritten, rfl⟩ :=
        serviceHome?_eq_some_iff.1 hhome
      exact .service hservices hname hrecord hargs hwritten
    · exact .above habove

/-- What a search has done to the world of a session: it has added what there is to find to the
catalog, has selected the recorded home, or else the one above the program, and has changed nothing
outside the catalog and the host. -/
structure Completed (s : Search η) (a : Outlook) (w w' : World η) : Prop where
  elsewhere : w' = { w with host := w'.host, catalog := w'.catalog }
  kept : w.catalog.installations <+: w'.catalog.installations
  once : w'.catalog.keys.Nodup
  keys : ∀ key, key ∈ w'.catalog.keys ↔
    key ∈ w.catalog.keys ∨ ∃ home, s.Found a w.disk home ∧ home.key = key
  recorded : ∀ home, a.Records w.disk home →
    w'.catalog.current?.map (·.home.key) = some home.key
  above : (∀ home, ¬ a.Records w.disk home) → ∀ home, s.FindsAbove w.disk home →
    w'.catalog.current?.map (·.home.key) = some home.key
  unselected : (∀ home, ¬ a.Records w.disk home) → (∀ home, ¬ s.FindsAbove w.disk home) →
    w'.catalog.current? = none

/-- **A search finds what there is to find, and nothing else.** On a host that answers in the same
way throughout, and for every order in which the finds on the volumes arrive, a search in a session
without a selection succeeds exactly if the services can be listed. Then the catalog holds its
earlier keys and those of the homes there are to find, each once. -/
theorem run_finds {a : Outlook} {calm : η → Prop} (hhost : a.Steady s.host calm)
    (hmerge : ∀ finds, (s.merge finds).Perm finds.flatten) (hcalm : calm w.host)
    (honce : w.catalog.keys.Nodup) (hcurrent : w.catalog.current = none) :
    ((∃ found w', s.run w = (.ok found, w')) ↔ ∃ names, a.services = .ok names) ∧
      ∀ found w', s.run w = (.ok found, w') →
        found = w'.catalog.installations ∧ s.Completed a w w' := by
  obtain ⟨h, -, hrun⟩ := run_eq_ok_iff hhost hcalm
  refine ⟨⟨?_, ?_⟩, fun found w' hok ↦ ?_⟩
  · rintro ⟨found, w', hok⟩
    obtain ⟨names, hservices, -⟩ := (hrun found w').1 hok
    exact ⟨names, hservices⟩
  · rintro ⟨names, hservices⟩
    exact ⟨_, _, (hrun _ _).2 ⟨names, hservices, rfl, rfl⟩⟩
  -- The end of the search is known as a whole; what remains is to read off what it holds and what
  -- is selected.
  · obtain ⟨names, hservices, rfl, rfl⟩ := (hrun found w').1 hok
    have hselected : (s.gathered a w names).current?.map (·.home.key) =
        ((a.recordedHome? w.disk).or (s.homeAbove? w.disk)).map HomePath.key :=
      Catalog.current?_gather hcurrent
    have hnotRecorded (hnone : ∀ home, ¬ a.Records w.disk home) : a.recordedHome? w.disk = none :=
      Option.eq_none_iff_forall_ne_some.2 fun home hhome ↦
        hnone home (Outlook.recordedHome?_eq_some_iff.1 hhome)
    refine ⟨rfl, rfl, Catalog.prefix_gather, Catalog.nodup_keys_gather honce, fun key ↦ ?_,
      fun home hrecords ↦ ?_, fun hnone home habove ↦ ?_, fun hnone hnotAbove ↦ ?_⟩
    · rw [gathered, Catalog.mem_keys_gather hcurrent]
      simp only [found_iff hmerge hservices]
    · refine hselected.trans ?_
      rw [Outlook.recordedHome?_eq_some_iff.2 hrecords, Option.some_or, Option.map_some]
    · refine hselected.trans ?_
      rw [hnotRecorded hnone, Option.none_or, homeAbove?_eq_some_iff.2 habove, Option.map_some]
    · have habove : s.homeAbove? w.disk = none :=
        Option.eq_none_iff_forall_ne_some.2 fun home hhome ↦
          hnotAbove home (homeAbove?_eq_some_iff.1 hhome)
      rw [hnotRecorded hnone, habove, Option.none_or, Option.map_none] at hselected
      exact Option.map_eq_none_iff.1 hselected

/-! ### A rehearsed search -/

/-- What a machine that is not told to fail answers. -/
def rehearsed (m : Rehearsal.Machine Unit) : Outlook where
  volumes := .ok m.volumes
  recordedHome := .ok m.recordedHome
  services := .ok ((m.services.map Prod.fst).mergeSort (· ≤ ·))
  record service := .ok (m.services.lookup service).join

/-- A rehearsed host on which nothing fails answers in the same way throughout. -/
theorem steady_rehearsed (ownLocation : Option String)
    (interrupt : StateM (World (Rehearsal.Machine Unit)) Unit) {m : Rehearsal.Machine Unit}
    (hm : m.failing = []) :
    (rehearsed m).Steady (Rehearsal.host ownLocation interrupt) (· = m) := by
  have hcalm {w : World (Rehearsal.Machine Unit)} (h : w.host = m) :
      w = { w with host := { m with failing := [] } } := by
    rw [← hm, ← h]
  have hm' : { m with failing := [] } = m := by
    rw [← hm]
  refine ⟨fun w h ↦ ⟨_, ?_, hm'⟩, fun w h ↦ ⟨_, ?_, hm'⟩, fun w h ↦ ⟨_, ?_, hm'⟩,
    fun w service h ↦ ⟨_, ?_, hm'⟩⟩
  · rw [hcalm h]
    rfl
  · rw [hcalm h]
    rfl
  · rw [hcalm h]
    rfl
  · rw [hcalm h]
    rfl

/-- A volume with a link to an installation, whose name starts with the right letters in capitals,
and with a directory that has another name. -/
def sampleDisk : Disk where
  tree := ⟨[(["vol"], .directory), (["vol", "RESIN-4"], .link "../opt"),
    (["vol", "tools"], .directory), (["opt"], .directory), (["opt", "lib"], .directory)]⟩
  workDirectory := []

/-- A world with one volume and a blank record of the current installation. -/
def sampleWorld : World (Rehearsal.Machine Unit) where
  disk := sampleDisk
  environment := ⟨[]⟩
  host := { volumes := ["/vol"], recordedHome := some " ", notes := () }

/-- A search for directories with a `lib` in them. -/
def sample : Search (Rehearsal.Machine Unit) where
  product := {}
  test := HomeTest.byMarkers ["lib"]
  host := Rehearsal.host none (pure ())

/-- Through the link a walk gets into the installation, and goes on from there. -/
theorem leads_sampleDisk {rest : List String} {place : Location}
    (h : sampleDisk.tree.Leads true 39 ["opt"] rest place) :
    sampleDisk.tree.Leads true 40 [] ("vol" :: "RESIN-4" :: rest) place := by
  have hvol : sampleDisk.tree.Enters [] "vol" := ⟨rfl, by decide, by decide, by decide⟩
  have hlink : sampleDisk.tree.Enters ["vol"] "RESIN-4" := ⟨rfl, by decide, by decide, by decide⟩
  have hopt : sampleDisk.tree.Enters [] "opt" := ⟨rfl, by decide, by decide, by decide⟩
  have htarget : Path.steps "../opt" = ["..", "opt"] := by decide +kernel
  refine .through hvol rfl (fun _ ↦ Entry.noConfusion) (.jump hlink rfl (.inr rfl) ?_)
  rw [if_neg (by decide +kernel), htarget]
  exact .up rfl (.through hopt rfl (fun _ ↦ Entry.noConfusion) h)

/-- The link on the volume leads to the directory. -/
theorem find?_sampleDisk : sampleDisk.find? "/vol/RESIN-4" = some (["opt"], .directory) := by
  have hlocate : sampleDisk.locate "/vol/RESIN-4" = .ok ["opt"] := by
    have hsteps : Path.steps "/vol/RESIN-4" = ["vol", "RESIN-4"] := by decide +kernel
    have hwalkable : Disk.Walkable "/vol/RESIN-4" := by decide +kernel
    rw [Disk.locate, hsteps, hwalkable.locateSteps_eq, FileTree.walk_eq_ok_iff]
    exact leads_sampleDisk (.here ..)
  rw [Disk.find?, hlocate]
  decide

theorem pathExists_sampleDisk : sampleDisk.pathExists "/vol/RESIN-4/lib" = true := by
  have hlocate : sampleDisk.locate "/vol/RESIN-4/lib" = .ok ["opt", "lib"] := by
    have hsteps : Path.steps "/vol/RESIN-4/lib" = ["vol", "RESIN-4", "lib"] := by decide +kernel
    have hwalkable : Disk.Walkable "/vol/RESIN-4/lib" := by decide +kernel
    rw [Disk.locate, hsteps, hwalkable.locateSteps_eq, FileTree.walk_eq_ok_iff]
    exact leads_sampleDisk (.through ⟨rfl, by decide, by decide, by decide⟩ rfl
      (fun _ ↦ Entry.noConfusion) (.here ..))
  rw [Disk.pathExists, Disk.find?, hlocate]
  decide

/-- The link is found by its name, and the home is where it leads. -/
theorem sample_finds_link : ∃ found w', sample.run sampleWorld = (.ok found, w') ∧
    "\\opt" ∈ w'.catalog.keys ∧ w'.catalog.current? = none := by
  have hsteady := steady_rehearsed none (pure ()) (m := sampleWorld.host) rfl
  obtain ⟨hsucceeds, hfinds⟩ := run_finds hsteady (s := sample) (w := sampleWorld)
    (fun finds ↦ List.Perm.refl _) rfl List.nodup_nil rfl
  obtain ⟨found, w', hrun⟩ := hsucceeds.2 ⟨_, rfl⟩
  obtain ⟨-, hcompleted⟩ := hfinds found w' hrun
  have hdirectory : sampleDisk.isDirectory "/vol/RESIN-4" = true := by
    rw [Disk.isDirectory, find?_sampleDisk]
  have hcanonical : sampleDisk.canonical "/vol/RESIN-4" = ⟨"/opt"⟩ := by
    have hwritten : String.ofList (Path.trimSeparators (Text.trim "/vol/RESIN-4".toList)) =
        "/vol/RESIN-4" := by decide +kernel
    rw [Disk.canonical, hwritten, Disk.resolved, find?_sampleDisk]
    decide +kernel
  have hhome : HomeTest.byMarkers ["lib"] sampleDisk "/vol/RESIN-4" = some ⟨"/opt"⟩ := by
    have hmarker : markerPath "/vol/RESIN-4" "lib" = "/vol/RESIN-4/lib" := by decide +kernel
    rw [HomeTest.byMarkers, hdirectory, List.all_cons, hmarker, pathExists_sampleDisk, hcanonical]
    rfl
  have hfinds : sample.test.FindsNamed sampleDisk sample.product "/vol" "RESIN-4" ⟨"/opt"⟩ :=
    { there := ⟨⟨["RESIN-4", "tools"], by cbv, by decide⟩, hdirectory⟩
      start := by decide +kernel
      isHome := hhome }
  have hfound : sample.Found (rehearsed sampleWorld.host) sampleWorld.disk ⟨"/opt"⟩ :=
    .named rfl (List.mem_singleton_self "/vol") hfinds
  refine ⟨found, w', hrun, (hcompleted.keys _).2 (Or.inr ⟨_, hfound, by decide +kernel⟩), ?_⟩
  refine hcompleted.unselected ?_ ?_
  · rintro home ⟨written, hwritten, hblank, -⟩
    cases hwritten
    revert hblank
    decide
  · rintro home ⟨location, hlocation, -⟩
    cases hlocation

end Search

end ServerSetup
