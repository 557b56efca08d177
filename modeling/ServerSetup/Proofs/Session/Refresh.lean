import ServerSetup.Proofs.Catalog.Operations
import ServerSetup.Proofs.Search
import ServerSetup.Proofs.ServiceScan
import ServerSetup.Session

/-!
# What a refresh leaves

A refresh searches for installations, scans the services, and notes the servers of each
installation. The search and the scan go through the same records by different rules. On a host that
answers the same way throughout they agree: the home of every service that the scan finds is among
the homes that the search has added, so that each service belongs to one installation
(`refresh_coherent`).

The three steps are given as equations. The search adds homes to the catalog (`Search.gathered`),
the scan replaces the services by those that the listed names stand for (`rescan_eq_ok`), and noting
replaces the servers of each installation (`noteServers_eq`). `Refreshed` then says of the resulting
catalog what matters to a user of it, in terms of what the host answers: `Describes` says when a
name stands for a service, without mention of how a scan goes about it.

Nothing of the catalog before the refresh has to be right but one thing. There must be no two
installations with one key, as the servers of an installation are noted under its key. That this
holds at any time of a session is a result about the whole session.
-/

namespace ServerSetup

open CommandLine

/-! ### Lists without repetitions -/

/-- Of elements with a name, the first of each name are those of the first occurrences of the
names. -/
theorem eraseDupsBy_filterMap {named : String → Option ServiceProfile}
    (hnamed : ∀ name d, named name = some d → d.name = name) (names : List String) :
    ((names.filterMap named).eraseDupsBy fun s s' ↦ s.name == s'.name) =
      names.eraseDups.filterMap named := by
  rcases names with - | ⟨name, rest⟩
  · rfl
  · have hrest := eraseDupsBy_filterMap hnamed (rest.filter fun other ↦ !other == name)
    rw [List.eraseDups_cons]
    -- The first name either makes no service, and then its repetitions make none; or it makes
    -- one, whose name no other name gives.
    rcases hname : named name with - | d
    · have hfilter : (rest.filter fun other ↦ !other == name).filterMap named =
          rest.filterMap named := by
        rw [List.filterMap_filter]
        refine List.filterMap_congr fun other _ ↦ ?_
        by_cases hother : other = name
        · rw [hother, hname, ite_self]
        · rw [if_pos (by simpa using hother)]
      rw [List.filterMap_cons_none hname, List.filterMap_cons_none hname, ← hfilter, hrest]
    · have hfilter : (rest.filterMap named).filter (fun s ↦ decide ((s.name == d.name) = false)) =
          (rest.filter fun other ↦ !other == name).filterMap named := by
        rw [List.filter_filterMap, List.filterMap_filter]
        refine List.filterMap_congr fun other _ ↦ ?_
        rcases hother : named other with - | s
        · rw [Option.filter_none, ite_self]
        · rw [Option.filter_some, hnamed other s hother, hnamed name d hname]
          simp
      rw [List.filterMap_cons_some hname, List.filterMap_cons_some hname, List.eraseDupsBy_cons,
        hfilter, hrest]
termination_by names.length
decreasing_by exact Nat.lt_succ_of_le (List.length_filter_le _ _)

/-- Adding elements one by one, unless they are there, adds each new one once. -/
theorem foldl_append_new (xs ids : List String) :
    xs.foldl (fun ids id ↦ if ids.contains id then ids else ids ++ [id]) ids =
      ids ++ (xs.filter (! ids.contains ·)).eraseDups := by
  induction xs generalizing ids with
  | nil => exact (List.append_nil ids).symm
  | cons x xs ih =>
    rw [List.foldl_cons, ih]
    -- The later elements are held against what is there by then, which a new one adds to.
    by_cases hx : ids.contains x = true
    · rw [if_pos hx, List.filter_cons_of_neg (by rw [hx]; exact Bool.false_ne_true)]
    · have hids (y : String) : (!(ids ++ [x]).contains y) = (!y == x && !ids.contains y) := by
        rw [Bool.eq_iff_iff]
        simp [and_comm]
      rw [if_neg hx, List.filter_cons_of_pos (by simpa using hx), List.eraseDups_cons,
        List.filter_filter, List.append_assoc, List.singleton_append]
      simp only [hids]

namespace Session

variable {η : Type} {s : Session η} {a : Search.Outlook} {calm : η → Prop} {w w' : World η}
  {disk : Disk} {name : String} {names : List String} {d : ServiceProfile}

/-- The server ids are the distinct fixed ones. -/
theorem serverIds_eq (services : List ServiceProfile) :
    serverIds services = (services.filterMap ServiceProfile.fixedServer?).eraseDups := by
  rw [serverIds, foldl_append_new, List.nil_append]
  exact congrArg List.eraseDups (List.filter_eq_self.2 fun _ _ ↦ rfl)

/-! ### The services -/

/-- The service of this product that a name stands for: its record can be read and is not blank, it
starts the launcher as a service, and it gives a home. -/
def Describes (s : Session η) (a : Search.Outlook) (disk : Disk) (name : String)
    (d : ServiceProfile) : Prop :=
  ∃ record args home, a.record name = .ok (some record) ∧ Text.isBlankText record = false ∧
    launcherArguments? record s.settings.product.launcher = some args ∧ args.service = true ∧
    homeOf? s.homeTest disk args = some home ∧ d = .ofArguments name home args

/-- What a scan makes of the record of a service. -/
def described? (s : Session η) (a : Search.Outlook) (disk : Disk) (name : String) :
    Option ServiceProfile :=
  match a.record name with
  | .ok (some record) => scanned s.homeTest s.settings.product.launcher disk name record
  | _ => none

/-- A scan makes of the record the service that the name stands for. -/
theorem described?_eq_some_iff :
    s.described? a disk name = some d ↔ s.Describes a disk name d := by
  rw [described?, Describes]
  rcases a.record name with why | - | record
  · simp
  · simp
  · simp only [scanned, describedService?, Except.ok.injEq, Option.some.injEq, exists_and_left,
      Option.ite_none_left_eq_some, Option.bind_eq_some_iff, Option.ite_none_right_eq_some,
      Option.map_eq_some_iff, exists_eq_left', Bool.not_eq_true, eq_comm (a := d)]

theorem name_of_described? (h : s.described? a disk name = some d) : d.name = name := by
  obtain ⟨record, args, home, -, -, -, -, -, rfl⟩ := described?_eq_some_iff.1 h
  rfl

/-- On a host that answers the same way throughout, reading the records of some services makes of
each what its record says. -/
theorem readRecords_eq (hhost : a.Steady s.host calm) (names : List String)
    (hcalm : calm w.host) : ∃ h, calm h ∧
      readRecords s.host.records (scanned s.homeTest s.settings.product.launcher) names w =
        (names.filterMap (s.described? a w.disk), { w with host := h }) := by
  induction names generalizing w with
  | nil => exact ⟨w.host, hcalm, rfl⟩
  | cons name names ih =>
    obtain ⟨h, hrecord, hcalm'⟩ := hhost.record w name hcalm
    obtain ⟨h', hcalm'', hrest⟩ := @ih { w with host := h } hcalm'
    refine ⟨h', hcalm'', ?_⟩
    have hfirst : readRecords s.host.records (scanned s.homeTest s.settings.product.launcher)
        (name :: names) w = ((s.described? a w.disk name).toList ++
          (names.filterMap (s.described? a w.disk)), { w with host := h' }) := by
      simp only [readRecords, bind, StateT.bind, hrecord, described?]
      rcases a.record name with why | - | record
      · exact congrArg (fun r ↦ ([] ++ r.1, r.2)) hrest
      · exact congrArg (fun r ↦ ([] ++ r.1, r.2)) hrest
      · exact congrArg (fun r ↦ ((scanned s.homeTest s.settings.product.launcher w.disk name
          record).toList ++ r.1, r.2)) hrest
    rw [hfirst, List.filterMap_cons]
    rcases s.described? a w.disk name with - | d
    · rfl
    · rfl

/-- A scan forgets the services first. -/
theorem rescan_start (s : Session η) (w : World η) : s.rescan w =
    (describedServices s.host.records s.homeTest s.settings.product.launcher >>= fun found ↦ do
      SetupM.catalog fun c ↦ ((), c.setServices found)
      return (← get).catalog.services) { w with catalog := w.catalog.forgetServices } := rfl

/-- A scan that cannot list the services has forgotten them. -/
theorem rescan_eq_error {why : Fault} {h : η}
    (hlist : s.host.records.list { w with catalog := w.catalog.forgetServices } =
      (.error why, { w with host := h, catalog := w.catalog.forgetServices })) :
    s.rescan w = (.error (.failed (.accessDenied .serviceList why)),
      { w with host := h, catalog := { w.catalog with services := [] } }) := by
  have hscan : describedServices s.host.records s.homeTest s.settings.product.launcher
      { w with catalog := w.catalog.forgetServices } =
        (.error (.failed (.accessDenied .serviceList why)),
          { w with host := h, catalog := w.catalog.forgetServices }) := by
    rw [describedServices, SetupM.call_bind_eq, hlist]
  rw [rescan_start, StateExcept.bind_eq, hscan]
  rfl

/-- A scan knows the services that the listed names stand for, each once, in the order of the
list, and forgets all others. -/
theorem rescan_eq_ok (hhost : a.Steady s.host calm) (hservices : a.services = .ok names)
    (hcalm : calm w.host) : ∃ h, calm h ∧
      s.rescan w = (.ok (names.eraseDups.filterMap (s.described? a w.disk)), { w with
        host := h
        catalog := { w.catalog with
          services := names.eraseDups.filterMap (s.described? a w.disk) } }) := by
  let w₁ : World η := { w with catalog := w.catalog.forgetServices }
  obtain ⟨h, hlist, hcalm'⟩ := hhost.services w₁ hcalm
  rw [hservices] at hlist
  obtain ⟨h', hcalm'', hread⟩ := readRecords_eq hhost names (w := { w₁ with host := h }) hcalm'
  have hscan : describedServices s.host.records s.homeTest s.settings.product.launcher w₁ =
      (.ok (names.filterMap (s.described? a w.disk)), { w₁ with host := h' }) :=
    SetupM.bind_eq_ok_iff.2 ⟨_, _, SetupM.call_eq_ok_iff.2 hlist, SetupM.lift_eq_ok hread⟩
  have hset : w₁.catalog.setServices (names.filterMap (s.described? a w.disk)) =
      { w.catalog with services := names.eraseDups.filterMap (s.described? a w.disk) } := by
    rw [Catalog.setServices_eq, eraseDupsBy_filterMap fun _ _ ↦ name_of_described?]
    rfl
  refine ⟨h', hcalm'', ?_⟩
  rw [rescan_start, StateExcept.bind_eq, hscan]
  show (Except.ok (w₁.catalog.setServices _).services, ({ w₁ with
    host := h', catalog := w₁.catalog.setServices _ } : World η)) = _
  rw [hset]

/-! ### The servers -/

/-- An installation with the servers of its services. -/
def noted (disk : Disk) (c : Catalog) (i : Installation) : Installation :=
  { i with servers := serverIds (c.servicesOf disk i.home) }

/-- Of entries with different keys, the first with a key is the one that has it. -/
theorem modifyFirst_append {f : Installation → Installation} {front rest : List Installation}
    {i : Installation} (h : i.home.key ∉ front.map (·.home.key)) :
    Catalog.modifyFirst (·.home.same i.home) f (front ++ i :: rest) = front ++ f i :: rest := by
  induction front with
  | nil => exact if_pos (beq_self_eq_true i.home.key)
  | cons j front ih =>
    rw [List.map_cons, List.mem_cons, not_or] at h
    have hother : ¬ j.home.same i.home = true := fun hsame ↦ h.1 (beq_iff_eq.1 hsame).symm
    rw [List.cons_append, Catalog.modifyFirst, if_neg hother, ih h.2, List.cons_append]

/-- Noting the servers of the last installations, one by one, leaves the services and with them the
servers of the others alone. -/
theorem noteServers_append {c : Catalog} (front rest : List Installation)
    (hrest : c.installations = front ++ rest) (honce : c.keys.Nodup) :
    noteServers disk c rest = { c with installations := front ++ rest.map (noted disk c) } := by
  induction rest generalizing c front with
  | nil =>
    rw [List.map_nil, ← hrest]
    rfl
  | cons i rest ih =>
    have hkey : i.home.key ∉ front.map (·.home.key) := by
      rw [Catalog.keys, hrest, List.map_append, List.map_cons] at honce
      exact fun hmem ↦ (List.nodup_append.1 honce).2.2 _ hmem _ List.mem_cons_self rfl
    have hnote : (c.noteServers i.home (serverIds (c.servicesOf disk i.home))).2 =
        { c with installations := front ++ noted disk c i :: rest } := by
      rw [Catalog.noteServers, hrest]
      exact congrArg (fun is ↦ { c with installations := is }) (modifyFirst_append hkey)
    have honce' : (c.noteServers i.home (serverIds (c.servicesOf disk i.home))).2.keys.Nodup := by
      rw [← Catalog.map_key_homes, Catalog.homes_noteServers, Catalog.map_key_homes]
      exact honce
    rw [noteServers]
    rw [hnote] at honce' ⊢
    rw [ih (front ++ [noted disk c i]) (by simp) honce']
    simp only [List.append_assoc, List.singleton_append, List.map_cons]
    rfl

/-- Every installation gets the servers of its services, whatever was noted before. -/
theorem noteServers_eq {c : Catalog} (honce : c.keys.Nodup) :
    noteServers disk c c.installations =
      { c with installations := c.installations.map (noted disk c) } :=
  noteServers_append [] c.installations rfl honce

/-! ### A refresh -/

/-- What a session looks for installations with. -/
def lookout (s : Session η) : Search η where
  product := s.settings.product
  test := s.homeTest
  host := s.host
  merge := s.merge

/-- The catalog after a search and a scan that find the given services. -/
def rescanned (s : Session η) (a : Search.Outlook) (w : World η) (names : List String) : Catalog :=
  { s.lookout.gathered a w names with
    services := names.eraseDups.filterMap (s.described? a w.disk) }

/-- The catalog after a refresh that finds the given services. -/
def refreshed (s : Session η) (a : Search.Outlook) (w : World η) (names : List String) : Catalog :=
  { s.rescanned a w names with
    installations := (s.rescanned a w names).installations.map
      (noted w.disk (s.rescanned a w names)) }

/-- A refresh succeeds exactly if the services can be listed. -/
theorem refresh_eq_ok_iff (hhost : a.Steady s.host calm) (hcalm : calm w.host)
    (honce : w.catalog.keys.Nodup) : ∃ h, calm h ∧ ∀ found w', s.refresh w = (.ok found, w') ↔
      ∃ names, a.services = .ok names ∧ found = (s.refreshed a w names).installations ∧
        w' = { w with host := h, catalog := s.refreshed a w names } := by
  obtain ⟨h₁, hcalm₁, hsearch⟩ := Search.run_eq_ok_iff (s := s.lookout) hhost hcalm
  -- Without a list of services the search fails already. With one, the search, the scan and the
  -- noting of the servers all succeed.
  rcases hservices : a.services with why | names
  · refine ⟨h₁, hcalm₁, fun found w' ↦ ⟨fun hrun ↦ ?_, ?_⟩⟩
    · obtain ⟨_, w₁, hok, -⟩ := SetupM.bind_eq_ok_iff.1 hrun
      obtain ⟨names, hnames, -⟩ := (hsearch _ _).1 hok
      rw [hservices] at hnames
      cases hnames
    · rintro ⟨names, hnames, -⟩
      cases hnames
  · have hsearched := (hsearch _ _).2 ⟨names, hservices, rfl, rfl⟩
    obtain ⟨h, hcalm', hrescan⟩ := rescan_eq_ok hhost hservices (w := { w with
      host := h₁, catalog := s.lookout.gathered a w names }) hcalm₁
    have hnoted : noteServers w.disk (s.rescanned a w names)
        (s.rescanned a w names).installations = s.refreshed a w names :=
      noteServers_eq (Catalog.nodup_keys_gather honce)
    have hrun : s.refresh w = (.ok (s.refreshed a w names).installations,
        { w with host := h, catalog := s.refreshed a w names }) := by
      refine SetupM.bind_eq_ok_iff.2 ⟨_, _, hsearched, SetupM.bind_eq_ok_iff.2 ⟨_, _, hrescan, ?_⟩⟩
      rw [← hnoted]
      rfl
    refine ⟨h, hcalm', fun found w' ↦ ⟨fun hok ↦ ?_, ?_⟩⟩
    · cases hrun.symm.trans hok
      exact ⟨names, rfl, rfl, rfl⟩
    · rintro ⟨names', hnames, rfl, rfl⟩
      cases hnames
      exact hrun

/-! ### A coherent catalog -/

/-- What a refresh has done to the world of a session. It has changed nothing outside the host and
the catalog. Of what earlier scans found nothing is left: there is one service for each listed name
that stands for one, in the order of the list. Each service belongs to one installation, so that the
services of the installations are all services, each once; and the servers of an installation are
those of its services, in their order. -/
structure Refreshed (s : Session η) (a : Search.Outlook) (names : List String) (w w' : World η) :
    Prop where
  elsewhere : w' = { w with host := w'.host, catalog := w'.catalog }
  services : ∀ d, d ∈ w'.catalog.services ↔ ∃ name ∈ names, s.Describes a w.disk name d
  once : w'.catalog.names.Nodup
  order : w'.catalog.names.Sublist names.eraseDups
  belongs : ∀ d ∈ w'.catalog.services, ∃! i, i ∈ w'.catalog.installations ∧
    (w.disk.canonical d.home).same i.home = true
  partition : (w'.catalog.installations.flatMap fun i ↦
    w'.catalog.servicesOf w.disk i.home).Perm w'.catalog.services
  servers : ∀ i ∈ w'.catalog.installations, i.servers =
    ((w'.catalog.servicesOf w.disk i.home).filterMap ServiceProfile.fixedServer?).eraseDups

/-- The names of what is found under names are among these, in their order. -/
theorem names_described_sublist (names : List String) :
    ((names.filterMap (s.described? a disk)).map (·.name)).Sublist names := by
  induction names with
  | nil => exact .slnil
  | cons name names ih =>
    rcases hname : s.described? a disk name with - | d
    · rw [List.filterMap_cons_none hname]
      exact ih.cons name
    · rw [List.filterMap_cons_some hname, List.map_cons, name_of_described? hname]
      exact ih.cons_cons name

/-- Noting servers keeps the homes. -/
theorem keys_refreshed :
    (s.refreshed a w names).keys = (s.lookout.gathered a w names).keys := List.map_map

/-- The home of each service that the scan finds is a home that the search finds. -/
theorem serviceHome?_of_describes (h : s.Describes a disk name d) :
    s.lookout.serviceHome? a disk name = some (disk.canonical d.home) := by
  obtain ⟨record, args, home, hrecord, -, hargs, -, hhome, rfl⟩ := h
  exact Search.serviceHome?_eq_some_iff.2 ⟨record, args, home, hrecord, hargs, hhome, rfl⟩

/-- In a catalog that has the home of each service once, the services of the installations are all
services. -/
theorem perm_servicesOf {c : Catalog} (honce : c.keys.Nodup) (hnames : c.names.Nodup)
    (hhomes : ∀ d ∈ c.services, (disk.canonical d.home).key ∈ c.keys) :
    (c.installations.flatMap fun i ↦ c.servicesOf disk i.home).Perm c.services := by
  have hservices : c.services.Nodup := hnames.of_map _
  have hdisjoint : c.installations.Pairwise
      (Function.onFun List.Disjoint fun i ↦ c.servicesOf disk i.home) := by
    refine (List.pairwise_map.1 honce).imp fun {i j} hne d hi hj ↦ hne ?_
    have hkey := beq_iff_eq.1 (List.mem_filter.1 hi).2
    exact hkey.symm.trans (beq_iff_eq.1 (List.mem_filter.1 hj).2)
  refine (List.perm_ext_iff_of_nodup
    (List.nodup_flatMap.2 ⟨fun i _ ↦ hservices.filter _, hdisjoint⟩) hservices).2 fun d ↦ ?_
  rw [List.mem_flatMap]
  constructor
  · rintro ⟨i, -, hd⟩
    exact (List.mem_filter.1 hd).1
  · intro hd
    obtain ⟨i, hi, hkey⟩ := List.mem_map.1 (hhomes d hd)
    exact ⟨i, hi, List.mem_filter.2 ⟨hd, beq_iff_eq.2 hkey.symm⟩⟩

/-- The catalog after a refresh has one installation for each service, with its server. -/
theorem refreshed_of_once {h : η} (honce : w.catalog.keys.Nodup) :
    s.Refreshed a names w { w with host := h, catalog := s.refreshed a w names } := by
  have hscan : (w.catalog.setServices (names.filterMap (s.described? a w.disk))).names =
      (s.refreshed a w names).names := by
    rw [Catalog.setServices_eq, eraseDupsBy_filterMap fun _ _ ↦ name_of_described?]
    rfl
  have honce' : (s.refreshed a w names).keys.Nodup := by
    rw [keys_refreshed]
    exact Catalog.nodup_keys_gather honce
  have hnames : (s.refreshed a w names).names.Nodup :=
    hscan ▸ Catalog.nodup_names_setServices _ _
  have hdescribed (d : ServiceProfile) : d ∈ (s.refreshed a w names).services ↔
      ∃ name ∈ names, s.Describes a w.disk name d := by
    show d ∈ names.eraseDups.filterMap (s.described? a w.disk) ↔ _
    simp only [List.mem_filterMap, List.mem_eraseDups, described?_eq_some_iff]
  -- Every described service has a home that the search finds, since the search asks the same
  -- records.
  have hhomes : ∀ d ∈ (s.refreshed a w names).services,
      (w.disk.canonical d.home).key ∈ (s.refreshed a w names).keys := by
    intro d hd
    obtain ⟨name, hname, hd⟩ := (hdescribed d).1 hd
    rw [keys_refreshed]
    exact Catalog.mem_keys_gather_of_mem
      (List.mem_filterMap.2 ⟨name, hname, serviceHome?_of_describes hd⟩)
  refine ⟨rfl, hdescribed, hnames, names_described_sublist _, ?_,
    perm_servicesOf honce' hnames hhomes, ?_⟩
  · intro d hd
    obtain ⟨i, hi, hkey⟩ := List.mem_map.1 (hhomes d hd)
    refine ⟨i, ⟨hi, beq_iff_eq.2 hkey.symm⟩, fun j hj ↦ ?_⟩
    exact List.inj_on_of_nodup_map honce' hj.1 hi ((beq_iff_eq.1 hj.2).symm.trans hkey.symm)
  · intro i hi
    obtain ⟨j, -, rfl⟩ := List.mem_map.1 hi
    exact serverIds_eq _

/-- A refresh leaves a coherent catalog, if no installation was known twice before it and the host
answers in the same way throughout. It succeeds exactly if the services can be listed. Of what it
leaves, the services are those that the listed names stand for, each service belongs to exactly one
installation, and each installation has the servers of its services. A scan on any host that cannot
list the services forgets them and leaves the rest of the catalog alone. -/
theorem refresh_coherent (hhost : a.Steady s.host calm) (hcalm : calm w.host)
    (honce : w.catalog.keys.Nodup) :
    ((∃ found w', s.refresh w = (.ok found, w')) ↔ ∃ names, a.services = .ok names) ∧
      (∀ found w', s.refresh w = (.ok found, w') → found = w'.catalog.installations ∧
        ∃ names, a.services = .ok names ∧ s.Refreshed a names w w') ∧
      ∀ (s' : Session η) (w₁ : World η) why h,
        s'.host.records.list { w₁ with catalog := w₁.catalog.forgetServices } =
            (.error why, { w₁ with host := h, catalog := w₁.catalog.forgetServices }) →
          s'.rescan w₁ = (.error (.failed (.accessDenied .serviceList why)),
            { w₁ with host := h, catalog := { w₁.catalog with services := [] } }) := by
  obtain ⟨h, -, hrun⟩ := refresh_eq_ok_iff hhost hcalm honce
  refine ⟨⟨?_, ?_⟩, fun found w' hok ↦ ?_, fun s' w₁ why h hlist ↦ ?_⟩
  · rintro ⟨found, w', hok⟩
    obtain ⟨names, hservices, -⟩ := (hrun found w').1 hok
    exact ⟨names, hservices⟩
  · rintro ⟨names, hservices⟩
    exact ⟨_, _, (hrun _ _).2 ⟨names, hservices, rfl, rfl⟩⟩
  · obtain ⟨names, hservices, rfl, rfl⟩ := (hrun found w').1 hok
    exact ⟨rfl, names, hservices, refreshed_of_once honce⟩
  · exact rescan_eq_error hlist

end Session

end ServerSetup
