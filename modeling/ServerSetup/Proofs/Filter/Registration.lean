import ServerSetup.Proofs.Rehearsal.Filters

/-!
# What a registration leaves in the store

A registration that got through the store has put the name of the filter into the load order, if it
was missing, and made the entry the one that is wanted. It does not look whether the name is there
more than once.

How often the name occurs in the load order afterwards follows from how often it occurred before
(`occurrences_register`): a missing name occurs once, and a name that is there stays as often as it
was, once or several times, in any letter case. For the entries the view is a multiset, since no
order is promised for them, and names are compared without regard to letter case. A registration
leaves one entry of the name and all entries of other names (`entries_registration`), a removal
leaves the others (`entries_removal`). The changes that either of the two makes are none exactly if
that was the state already.
-/

namespace ServerSetup

variable {η : Type} {f : FilterSetup η} {order : η → String} {home scripts : String}
  {w : World η} {found : List StoredFilter} {text : String}

namespace FilterSetup

/-! ### The load order -/

/-- **How often a registration leaves the name in the load order.** Unless the store reports an
error, the other names stay, in their order, and the name itself is there as often as before, or
once if it was missing. So it is there exactly once if it was not there more than once before. -/
theorem occurrences_register (horder : f.store.KeepsOrder order)
    (hname : LoadOrder.IsName f.settings.name.toList)
    (hstatus : (f.register home scripts w).1.status ≠ .storeError) :
    LoadOrder.others (order (f.register home scripts w).2.host) f.settings.name =
        LoadOrder.others (order w.host) f.settings.name ∧
      LoadOrder.occurrences (order (f.register home scripts w).2.host) f.settings.name =
        max 1 (LoadOrder.occurrences (order w.host) f.settings.name) ∧
      (LoadOrder.occurrences (order (f.register home scripts w).2.host) f.settings.name = 1 ↔
        LoadOrder.occurrences (order w.host) f.settings.name ≤ 1) := by
  have hplan := f.plan_leavesOrder (.register home scripts)
  have hperform : (f.perform (.register home scripts) w).1.status ≠ .storeError := hstatus
  obtain ⟨found, text, w', hcarried, hhost, -⟩ := carried_of_perform hperform
  obtain ⟨htext, hafter⟩ := horder.carried hplan hcarried
  have hafter' : order (f.register home scripts w).2.host =
      (LoadOrder.add? (order w.host) f.settings.name).getD (order w.host) := by
    rw [show (f.register home scripts w).2.host = w'.host from hhost, hafter, htext]
    rfl
  obtain ⟨hoccurrences, hothers⟩ := LoadOrder.occurrences_add? (order w.host) hname
  rw [hafter', hoccurrences, hothers]
  exact ⟨rfl, rfl, by omega⟩

end FilterSetup

namespace Rehearsal

/-- A load order that has the name twice, in different letter case, has it twice after a
registration that reports success. -/
theorem occurrences_register_twice :
    LoadOrder.IsName filterSetup.settings.name.toList ∧
      filterStore.KeepsOrder (fun m : Machine Unit ↦ m.filterTable.loadOrder) ∧
      (filterSetup.register "/home" "/scripts" (server "Resin,A,resin" [])).1.status =
        .configuredOk ∧
      LoadOrder.occurrences (filterSetup.register "/home" "/scripts"
        (server "Resin,A,resin" [])).2.host.filterTable.loadOrder "Resin" = 2 := by
  have hcarry : filterSetup.store.carryOut (filterSetup.registration "/scripts")
      (server "Resin,A,resin" []) = (.ok true, { server "Resin,A,resin" [] with
        host := ((server "Resin,A,resin" []).host.changed
          (.put (filterSetup.wanted "/scripts"))).changed .commit }) := rfl
  obtain ⟨hstatus, hhost⟩ := perform_registration hcarry rfl
  refine ⟨isName_filterSetup, keepsOrder_filterStore, hstatus, ?_⟩
  rw [show (filterSetup.register "/home" "/scripts" (server "Resin,A,resin" [])).2.host = _
    from hhost]
  decide +kernel

/-- A missing name is put into a load order with an empty place once. -/
theorem occurrences_register_missing :
    (filterSetup.register "/home" "/scripts" (server "A, ,B" [])).1.status ≠ .storeError ∧
      LoadOrder.occurrences (filterSetup.register "/home" "/scripts"
        (server "A, ,B" [])).2.host.filterTable.loadOrder "Resin" = 1 := by
  have hcarry : filterSetup.store.carryOut (filterSetup.registration "/scripts")
      (server "A, ,B" []) = (.ok true, { server "A, ,B" [] with
        host := (((server "A, ,B" []).host.changed (.put (filterSetup.wanted "/scripts"))).changed
          (.putLoadOrder "Resin,A,B")).changed .commit }) := rfl
  have hstatus : (filterSetup.register "/home" "/scripts" (server "A, ,B" [])).1.status ≠
      .storeError := by
    rw [show (filterSetup.register "/home" "/scripts" (server "A, ,B" [])).1.status = _
      from (perform_registration hcarry rfl).1]
    exact FilterStatus.noConfusion
  obtain ⟨-, -, honce⟩ := FilterSetup.occurrences_register (f := filterSetup)
    keepsOrder_filterStore isName_filterSetup hstatus
  exact ⟨hstatus, honce.2 (by decide +kernel)⟩

end Rehearsal

namespace FilterSetup

/-! ### The entries -/

/-- The entry that is found is one of those that were read, and has the name of the filter up to
letter case. -/
theorem mem_of_entry_eq_some {entry : StoredFilter} (h : f.entry? found = some entry) :
    entry ∈ found ∧ Text.equalIgnoringCase entry.name f.settings.name = true := by
  have hname := List.find?_some h
  exact ⟨List.mem_of_find?_eq_some h, hname⟩

/-- Where each name is there once, the entry that is found is the wanted one if that is there. -/
theorem entry?_eq_wanted_iff
    (hunique : ((↑found : Multiset StoredFilter).map FilterChange.key).Nodup) :
    f.entry? found = some (f.wanted scripts) ↔ f.wanted scripts ∈ found := by
  refine ⟨List.mem_of_find?_eq_some, fun hmem ↦ ?_⟩
  have hself : Text.equalIgnoringCase (f.wanted scripts).name f.settings.name = true :=
    Text.sameIgnoringCase_iff.2 rfl
  rcases hentry : f.entry? found with - | entry
  · exact absurd hself (List.find?_eq_none.1 hentry _ hmem)
  · obtain ⟨hfound, hname⟩ := mem_of_entry_eq_some hentry
    rw [Multiset.inj_on_of_nodup_map hunique entry hfound _ hmem
      (FilterChange.equalIgnoringCase_iff.1 hname)]

/-- **A registration leaves the wanted entry and the entries of other names.** -/
theorem entries_registration
    (hunique : ((↑found : Multiset StoredFilter).map FilterChange.key).Nodup) :
    ((f.registration scripts).entries found).elim ↑found (·.entriesAfter ↑found) =
      f.wanted scripts ::ₘ FilterChange.others f.settings.name ↑found := by
  by_cases hentry : f.entry? found = some (f.wanted scripts)
  · have hmem := (entry?_eq_wanted_iff hunique).1 hentry
    have hkept : (f.registration scripts).entries found = none := by
      simp [registration, hentry]
    rw [hkept]
    exact (FilterChange.cons_others hunique hmem).symm
  · have hput : (f.registration scripts).entries found = some (.put (f.wanted scripts)) := by
      simp [registration, hentry]
    rw [hput]
    rfl

/-- **A removal leaves the entries of other names.** -/
theorem entries_removal : (f.removal.entries found).elim ↑found (·.entriesAfter ↑found) =
    FilterChange.others f.settings.name ↑found := by
  rcases hentry : f.entry? found with - | entry
  · have hkept : f.removal.entries found = none := by simp [removal, hentry]
    rw [hkept]
    exact (FilterChange.others_eq_self fun e he ↦ by
      simpa using List.find?_eq_none.1 hentry e he).symm
  · have hremove : f.removal.entries found = some (.remove entry.name) := by
      simp [removal, hentry]
    rw [hremove]
    exact FilterChange.others_congr (mem_of_entry_eq_some hentry).2 ↑found

/-! ### The changes -/

/-- A registration changes nothing exactly if the wanted entry and the name are there. -/
theorem writes_registration_eq_nil_iff
    (hunique : ((↑found : Multiset StoredFilter).map FilterChange.key).Nodup) :
    (f.registration scripts).writes found text = [] ↔
      f.wanted scripts ∈ found ∧ LoadOrder.mentions text f.settings.name = true := by
  rw [FilterPlan.writes, List.append_eq_nil_iff, ← entry?_eq_wanted_iff hunique]
  refine and_congr ?_ ?_
  · by_cases hentry : f.entry? found = some (f.wanted scripts)
    · simp [registration, hentry]
    · simp [registration, hentry]
  · rw [FilterPlan.orderWrites, LoadOrder.mentions_iff, ← LoadOrder.add?_eq_none_iff]
    simp [registration]

/-- A removal changes nothing exactly if there is neither an entry of the name nor the name. -/
theorem writes_removal_eq_nil_iff : f.removal.writes found text = [] ↔
    (∀ e ∈ found, Text.equalIgnoringCase e.name f.settings.name = false) ∧
      LoadOrder.mentions text f.settings.name = false := by
  rw [FilterPlan.writes, List.append_eq_nil_iff]
  refine and_congr ?_ ?_
  · simp [removal, entry?]
  · rw [FilterPlan.orderWrites, LoadOrder.mentions_eq_false_iff, ← LoadOrder.remove?_eq_none_iff]
    simp [removal]

/-- The changes do not commit; that is done behind them. -/
theorem commit_notMem_writes (call : FilterCall) : .commit ∉ (f.plan call).writes found text := by
  intro hmem
  obtain hmem | hmem := List.mem_append.1 hmem
  · cases call with
    | register home scripts => simp [plan, registration] at hmem
    | deregister scripts => simp [plan, removal] at hmem
  · simp [FilterPlan.orderWrites] at hmem

end FilterSetup

end ServerSetup
