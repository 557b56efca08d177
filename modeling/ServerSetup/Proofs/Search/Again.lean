import ServerSetup.Proofs.Search.RecordedHome

/-!
# Searching again

A search adds what it finds where it is not known yet, and makes a selection where there is none. So
a second search on a host that answers in the same way meets only keys that the first one has put
there, in whatever order the finds on the volumes arrive, and a selection wherever it would make one
(`run_again`). This holds also where the services cannot be listed and the first search stops half
way.

The catalog after a search is divided at the point where it may stop: `begin` is what the volumes
and the recorded home make of it, and `complete` what the services and the home above the program
add. `Knows` is what is needed for a part to change nothing, and what the part brings about. It says
that the keys are there and that a selection is there if one is to be made, and it survives every
later step since a catalog only grows (`Knows.of_grows`).

The order of the finds may differ between the two searches. It decides under which spelling a home
is stored if two finds have one key, but the second search finds the key there and stores nothing.
-/

namespace ServerSetup

namespace Catalog

variable {c c' : Catalog} {homes homes' more : List HomePath} {recorded above : Option HomePath}

/-- Homes whose keys are there change nothing. -/
theorem addHomes_eq_self (h : ∀ home ∈ homes, home.key ∈ c.keys) : c.addHomes homes = c := by
  induction homes with
  | nil => rfl
  | cons home homes ih =>
    obtain ⟨n, stored, hadd, -⟩ :=
      exists_addInstallation_of_mem (i := ⟨home, []⟩) (h home List.mem_cons_self)
    rw [addHomes_cons, hadd]
    exact ih fun home hhome ↦ h home (List.mem_cons_of_mem _ hhome)

/-- The catalog after homes were added and a recorded home was selected. -/
def begin (c : Catalog) (homes : List HomePath) (recorded : Option HomePath) : Catalog :=
  recorded.elim (c.addHomes homes) (c.addHomes homes).selecting

/-- The catalog after more homes were added, and the home above was added and selected. -/
def complete (c : Catalog) (more : List HomePath) (above : Option HomePath) : Catalog :=
  above.elim (c.addHomes more) fun home ↦ ((c.addHomes more).addHomes [home]).selecting home

/-- What a search gathers is begun with the volumes and completed with the rest. -/
theorem gather_eq (c : Catalog) (homes : List HomePath) (recorded : Option HomePath)
    (more : List HomePath) (above : Option HomePath) :
    c.gather homes recorded more above = (c.begin homes recorded).complete more above := rfl

/-- What is found is known already, and where a home is to be selected there is a selection. -/
structure Knows (c : Catalog) (homes : List HomePath) (chosen : Option HomePath) : Prop where
  homes : ∀ home ∈ homes, home.key ∈ c.keys
  chosen : ∀ home, chosen = some home → ∃ i, c.current? = some i

/-- What is known stays known when the catalog grows. -/
theorem Knows.of_grows (h : c.Knows homes recorded) (hgrows : c.Grows c') :
    c'.Knows homes recorded where
  homes home hhome := hgrows.mem_keys (h.homes home hhome)
  chosen home hhome := by
    obtain ⟨i, hi⟩ := h.chosen home hhome
    exact ⟨i, hgrows.selection i hi⟩

/-- There is a selection after a home was selected, whichever it is. -/
theorem exists_current?_selecting (c : Catalog) (home : HomePath) :
    ∃ i, (c.selecting home).current? = some i := by
  rcases hcurrent : c.current? with - | i
  · obtain ⟨i, hi, -⟩ := Option.map_eq_some_iff.1 (selecting_of_none home hcurrent).2
    exact ⟨i, hi⟩
  · exact ⟨i, by rw [selecting_of_current? hcurrent, hcurrent]⟩

/-- After a beginning everything it began with is known. -/
theorem knows_begin (c : Catalog) (homes : List HomePath) (recorded : Option HomePath) :
    (c.begin homes recorded).Knows homes recorded := by
  have hadded : ∀ home ∈ homes, home.key ∈ (c.addHomes homes).keys :=
    fun home hhome ↦ mem_keys_addHomes.2 (.inr ⟨home, hhome, rfl⟩)
  rcases recorded with - | home
  · exact ⟨hadded, nofun⟩
  · refine ⟨fun home' hhome ↦ ?_, fun _ _ ↦ exists_current?_selecting _ home⟩
    exact (Grows.selecting _ home).mem_keys (hadded home' hhome)

/-- The home above is one of the homes that are known. -/
theorem knows_complete (c : Catalog) (more : List HomePath) (above : Option HomePath) :
    (c.complete more above).Knows (more ++ above.toList) above := by
  have hmore : ∀ home ∈ more, home.key ∈ (c.addHomes more).keys :=
    fun home hhome ↦ mem_keys_addHomes.2 (.inr ⟨home, hhome, rfl⟩)
  rcases above with - | home
  · exact ⟨fun home hhome ↦ hmore home (by simpa using hhome), nofun⟩
  · have hadded : (c.addHomes more).Grows ((c.addHomes more).addHomes [home]) := .addHomes _ _
    have hselected := Grows.selecting ((c.addHomes more).addHomes [home]) home
    refine ⟨fun home' hhome ↦ hselected.mem_keys ?_, fun _ _ ↦ exists_current?_selecting _ home⟩
    rcases List.mem_append.1 hhome with hhome | hhome
    · exact hadded.mem_keys (hmore home' hhome)
    · exact mem_keys_addHomes.2 (.inr ⟨home', by simpa using hhome, rfl⟩)

theorem grows_complete (c : Catalog) (more : List HomePath) (above : Option HomePath) :
    c.Grows (c.complete more above) := by
  rcases above with - | home
  · exact .addHomes c more
  · exact ((Grows.addHomes c more).trans (.addHomes _ [home])).trans (.selecting _ home)

/-- **Beginning with what is known changes nothing.** -/
theorem Knows.begin_eq (h : c.Knows homes recorded) : c.begin homes recorded = c := by
  rw [begin, addHomes_eq_self h.homes]
  rcases recorded with - | home
  · rfl
  · obtain ⟨i, hi⟩ := h.chosen home rfl
    exact selecting_of_current? hi

/-- **Completing with what is known changes nothing.** -/
theorem Knows.complete_eq (h : c.Knows (more ++ above.toList) above) :
    c.complete more above = c := by
  rw [complete, addHomes_eq_self fun home hhome ↦ h.homes home (List.mem_append_left _ hhome)]
  rcases above with - | home
  · rfl
  · obtain ⟨i, hi⟩ := h.chosen home rfl
    rw [Option.elim_some, addHomes_eq_self fun home hhome ↦ h.homes home
      (List.mem_append_right _ (by simpa using hhome))]
    exact selecting_of_current? hi

theorem Knows.of_perm (h : c.Knows homes recorded) (hperm : homes'.Perm homes) :
    c.Knows homes' recorded :=
  ⟨fun home hhome ↦ h.homes home (hperm.mem_iff.1 hhome), h.chosen⟩

end Catalog

namespace Search

variable {η : Type} {s : Search η} {w : World η} {a : Outlook} {calm : η → Prop}

/-- The catalog after the volumes were searched and the recorded home was taken up. -/
def begun (s : Search η) (a : Outlook) (w : World η) : Catalog :=
  w.catalog.begin (s.volumeHomes a w.disk) (a.recordedHome? w.disk)

/-- A search that cannot list the services ends there. -/
theorem run_eq_error (hhost : a.Steady s.host calm) (hcalm : calm w.host) {why : Fault}
    (hservices : a.services = .error why) : ∃ h, calm h ∧ s.run w =
      (.error (.failed (.accessDenied .serviceList why)),
        { w with host := h, catalog := s.begun a w }) := by
  obtain ⟨h₁, hcalm₁, hvolumes⟩ := searchVolumes_eq hhost hcalm
  obtain ⟨h₂, hcalm₂, hrecorded⟩ := takeRecordedHome_eq hhost (w := { w with
    host := h₁, catalog := w.catalog.addHomes (s.volumeHomes a w.disk) }) hcalm₁
  obtain ⟨h₃, hlist, hcalm₃⟩ := hhost.services { w with
    host := h₂, catalog := s.begun a w } hcalm₂
  refine ⟨h₃, hcalm₃, ?_⟩
  rw [run_eq, hvolumes, hrecorded]
  show s.runOn { w with host := h₂, catalog := s.begun a w } = _
  rw [hservices] at hlist
  have hfails : s.searchServices { w with host := h₂, catalog := s.begun a w } =
      (.error (.failed (.accessDenied .serviceList why)),
        { w with host := h₃, catalog := s.begun a w }) := by
    rw [searchServices, SetupM.call_bind_eq, hlist]
  rw [runOn, SetupM.bind_eq, hfails]
  rfl

/-- A search that can list the services goes to its end. -/
theorem run_eq_ok (hhost : a.Steady s.host calm) (hcalm : calm w.host) {names : List String}
    (hservices : a.services = .ok names) : ∃ h, calm h ∧ s.run w =
      (.ok (s.gathered a w names).installations,
        { w with host := h, catalog := s.gathered a w names }) := by
  obtain ⟨h, hcalm', hrun⟩ := run_eq_ok_iff hhost hcalm
  exact ⟨h, hcalm', (hrun _ _).2 ⟨names, hservices, rfl, rfl⟩⟩

/-- Another order of arrival brings the same homes. -/
theorem perm_volumeHomes {merge : List (List HomePath) → List HomePath}
    (hmerge : ∀ finds, (s.merge finds).Perm finds.flatten)
    (hmerge' : ∀ finds, (merge finds).Perm finds.flatten) (disk : Disk) :
    (({ s with merge := merge } : Search η).volumeHomes a disk).Perm (s.volumeHomes a disk) := by
  rw [volumeHomes, volumeHomes]
  rcases a.volumes with why | volumes
  · exact .nil
  · exact (hmerge' _).trans (hmerge _).symm

/-- **A search that is repeated finds nothing new.** Let the host answer in the same way throughout.
A search lists the installations that are known then, or it cannot list the services. In either case
a second search ends as the first one did and leaves everything outside the host as the first one
left it: the installations in their order, with their spelling and their servers, the services and
the selection. The finds on the volumes may arrive in another order than in the first search. -/
theorem run_again (hhost : a.Steady s.host calm)
    (hmerge : ∀ finds, (s.merge finds).Perm finds.flatten)
    {merge : List (List HomePath) → List HomePath}
    (hmerge' : ∀ finds, (merge finds).Perm finds.flatten) (hcalm : calm w.host) :
    let first := s.run w
    let second := { s with merge := merge }.run first.2
    (first.1 = .ok first.2.catalog.installations ∨
      ∃ why, first.1 = .error (.failed (.accessDenied .serviceList why))) ∧
    second.1 = first.1 ∧ second.2.catalog = first.2.catalog ∧
      second.2 = { first.2 with host := second.2.host } := by
  intro first second
  have hperm := perm_volumeHomes (a := a) hmerge hmerge' w.disk
  -- what the second search begins with is known since the first one has begun
  have hbegun : (s.begun a w).Knows
      (({ s with merge := merge } : Search η).volumeHomes a w.disk) (a.recordedHome? w.disk) :=
    (Catalog.knows_begin _ _ _).of_perm hperm
  rcases hservices : a.services with why | names
  · obtain ⟨h₁, hcalm₁, hfirst⟩ := run_eq_error (w := w) hhost hcalm hservices
    obtain ⟨h₂, -, hsecond⟩ := run_eq_error (s := { s with merge := merge })
      (w := { w with host := h₁, catalog := s.begun a w }) hhost hcalm₁ hservices
    have hsame : ({ s with merge := merge } : Search η).begun a
        { w with host := h₁, catalog := s.begun a w } = s.begun a w := hbegun.begin_eq
    rw [hsame] at hsecond
    simp only [second, first, hfirst, hsecond]
    exact ⟨.inr ⟨why, rfl⟩, trivial, trivial, trivial⟩
  · obtain ⟨h₁, hcalm₁, hfirst⟩ := run_eq_ok (w := w) hhost hcalm hservices
    obtain ⟨h₂, -, hsecond⟩ := run_eq_ok (s := { s with merge := merge })
      (w := { w with host := h₁, catalog := s.gathered a w names }) hhost hcalm₁ hservices
    have hgathered : s.gathered a w names = (s.begun a w).complete
        (names.filterMap (s.serviceHome? a w.disk)) (s.homeAbove? w.disk) :=
      Catalog.gather_eq ..
    have hsame : ({ s with merge := merge } : Search η).gathered a
        { w with host := h₁, catalog := s.gathered a w names } names = s.gathered a w names := by
      refine (Catalog.gather_eq ..).trans ?_
      rw [(hbegun.of_grows (hgathered ▸ Catalog.grows_complete _ _ _)).begin_eq]
      exact (hgathered ▸ Catalog.knows_complete _ _ _ :
        (s.gathered a w names).Knows _ (s.homeAbove? w.disk)).complete_eq
    rw [hsame] at hsecond
    simp only [second, first, hfirst, hsecond]
    exact ⟨.inl trivial, trivial, trivial, trivial⟩

/-- The recorded home is selected by the first search and is met by the second one, in which the
volumes arrive the other way round. -/
theorem recorded_met_again :
    let backwards : Search (Rehearsal.Machine Unit) :=
      { sample with merge := fun finds ↦ finds.reverse.flatten }
    let first := sample.run (recordedWorld .empty)
    first.1 = .ok [⟨⟨"C:\\b"⟩, []⟩] ∧ (backwards.run first.2).1 = first.1 ∧
      (backwards.run first.2).2.catalog = first.2.catalog := by
  intro backwards first
  have hbackwards (finds : List (List HomePath)) : finds.reverse.flatten.Perm finds.flatten :=
    (List.reverse_perm finds).flatten
  obtain ⟨-, hanswer, hcatalog, -⟩ := run_again (s := sample) (w := recordedWorld .empty)
    (steady_rehearsed none (pure ()) rfl) (fun _ ↦ .refl _) hbackwards rfl
  obtain ⟨w', hrun, -⟩ := run_recordedWorld .empty
  exact ⟨congrArg Prod.fst hrun, hanswer, hcatalog⟩

end Search

end ServerSetup
