import ServerSetup.Proofs.Filter.Registration

/-!
# Registering and removing the filter, again and again

On a host on which nothing fails a registration gets the store to a state of its own, and so does a
removal. What each of them does there for the first time it finds done the second time, and a
removal behind a registration leaves what was there of other names.

The store is a parameter with laws that are stated through a view: the entries as a multiset, the
load order, and a journal of the changes (`FilterStore.View`). In a calm state every call succeeds
and acts on the view as documented. `Made`, `Registered` and `Removed` describe one call each, so
that the sequence of four calls, to register, again, to remove, again, is put together from them
(`register_deregister`): the statuses tell that something was changed in the first call of each kind
and nothing in the second, the second adds nothing to the journal, and the file of the filter is
there after registering and gone after removing.

That no two entries have the same name up to letter case is asked of the state before and kept by
every call.
-/

namespace ServerSetup

namespace FilterSetup

variable {η : Type} {f : FilterSetup η} {v : FilterStore.View η} {home scripts : String}
  {w : World η} {place goal : Location} {content : List UInt8}

/-! ### One call -/

/-- The changes of a call were made, and committed if there were any. -/
structure Made (v : FilterStore.View η) (writes : List FilterChange) (w w' : World η) : Prop where
  calm : v.calm w'.host
  journal : v.journal w'.host =
    v.journal w.host ++ (writes ++ if writes = [] then [] else [.commit])
  noCommit : .commit ∉ writes

/-- What a registration leaves in the store. -/
structure Registered (f : FilterSetup η) (v : FilterStore.View η) (scripts : String)
    (w w' : World η) : Prop where
  entries : v.entries w'.host =
    f.wanted scripts ::ₘ FilterChange.others f.settings.name (v.entries w.host)
  others : LoadOrder.others (v.order w'.host) f.settings.name =
    LoadOrder.others (v.order w.host) f.settings.name
  mentions : LoadOrder.mentions (v.order w'.host) f.settings.name = true

/-- What a removal leaves in the store. -/
structure Removed (f : FilterSetup η) (v : FilterStore.View η) (w w' : World η) : Prop where
  entries : v.entries w'.host = FilterChange.others f.settings.name (v.entries w.host)
  names : LoadOrder.names (v.order w'.host) = LoadOrder.others (v.order w.host) f.settings.name

/-- A call on a calm host, as it is seen in the store. -/
theorem perform_of_faithful (h : f.store.Faithful v) (hw : v.calm w.host) (call : FilterCall) :
    ∃ found : List StoredFilter, ↑found = v.entries w.host ∧
      Made v ((f.plan call).writes found (v.order w.host)) w (f.perform call w).2 ∧
      v.order (f.perform call w).2.host =
        ((f.plan call).loadOrder (v.order w.host)).getD (v.order w.host) ∧
      v.entries (f.perform call w).2.host =
        ((f.plan call).entries found).elim ↑found (·.entriesAfter ↑found) ∧
      (f.perform call w).1 =
        f.ending call (! ((f.plan call).writes found (v.order w.host)).isEmpty)
          (f.fileWork call w.disk).1 ∧
      (f.perform call w).2.disk = (f.fileWork call w.disk).2 := by
  obtain ⟨found, text, host, hcarried, hcalm, hperform⟩ := perform_of_calm h.dependable call hw
  obtain ⟨rfl, horder⟩ := h.keepsOrder.carried (f.plan_leavesOrder call) hcarried
  obtain ⟨hfound, hentries⟩ := h.keepsEntries.carried hcarried
  have hjournal := h.journaled.carried hcarried
  rw [hperform]
  refine ⟨found, hfound, ⟨hcalm, ?_, commit_notMem_writes call⟩, horder, ?_, rfl, rfl⟩
  · refine hjournal.trans ?_
    rw [FilterPlan.closing]
    simp only [List.isEmpty_iff]
  · rw [hfound]
    exact hentries

/-- **A registration on a calm host** whose file is copied. -/
theorem register_of_faithful (h : f.store.Faithful v)
    (hname : LoadOrder.IsName f.settings.name.toList) (hw : v.calm w.host)
    (hunique : ((v.entries w.host).map FilterChange.key).Nodup)
    (hcopy : (Disk.copy (f.source home) (f.target scripts) w.disk).1 = .ok ()) :
    ∃ writes, Made v writes w (f.register home scripts w).2 ∧
      f.Registered v scripts w (f.register home scripts w).2 ∧
      (writes = [] ↔ f.wanted scripts ∈ v.entries w.host ∧
        LoadOrder.mentions (v.order w.host) f.settings.name = true) ∧
      (f.register home scripts w).1.status =
        (if writes = [] then .alreadyConfigured else .configuredOk) ∧
      (f.register home scripts w).2.disk =
        (Disk.copy (f.source home) (f.target scripts) w.disk).2 := by
  obtain ⟨found, hfound, hmade, horder, hentries, hreport, hdisk⟩ :=
    perform_of_faithful h hw (.register home scripts)
  have horder' : v.order (f.register home scripts w).2.host =
      (LoadOrder.add? (v.order w.host) f.settings.name).getD (v.order w.host) := horder
  -- Afterwards the order has the name, whether it was added now or stood there before.
  obtain ⟨hoccurrences, hothers⟩ := LoadOrder.occurrences_add? (v.order w.host) hname
  rw [← hfound] at hunique
  refine ⟨_, hmade, ⟨?_, ?_, ?_⟩, ?_, ?_, hdisk⟩
  · rw [← hfound, ← entries_registration hunique]
    exact hentries
  · rw [horder', hothers]
  · rw [horder', LoadOrder.mentions_iff, hoccurrences]
    omega
  · rw [← hfound]
    exact writes_registration_eq_nil_iff hunique
  · rw [show (f.register home scripts w).1 = f.ending (.register home scripts) _
      (Disk.copy (f.source home) (f.target scripts) w.disk).1 from hreport, hcopy]
    generalize (f.plan (.register home scripts)).writes found (v.order w.host) = writes
    cases writes <;> rfl

/-- **A removal on a calm host** whose file is removed, or was not there. -/
theorem deregister_of_faithful (h : f.store.Faithful v) (hw : v.calm w.host)
    (hremove : (Disk.remove (f.target scripts) w.disk).1 = .ok () ∨
      (Disk.remove (f.target scripts) w.disk).1 = .error .notFound) :
    ∃ writes, Made v writes w (f.deregister scripts w).2 ∧
      f.Removed v w (f.deregister scripts w).2 ∧
      (writes = [] ↔ (∀ e ∈ v.entries w.host,
          Text.equalIgnoringCase e.name f.settings.name = false) ∧
        LoadOrder.mentions (v.order w.host) f.settings.name = false) ∧
      (f.deregister scripts w).1.status =
        (if writes = [] then .alreadyRemoved else .removedOk) ∧
      (f.deregister scripts w).2.disk = (Disk.remove (f.target scripts) w.disk).2 := by
  obtain ⟨found, hfound, hmade, horder, hentries, hreport, hdisk⟩ :=
    perform_of_faithful h hw (.deregister scripts)
  have horder' : v.order (f.deregister scripts w).2.host =
      (LoadOrder.remove? (v.order w.host) f.settings.name).getD (v.order w.host) := horder
  refine ⟨_, hmade, ⟨?_, ?_⟩, ?_, ?_, hdisk⟩
  · rw [← hfound, ← entries_removal]
    exact hentries
  · rw [horder', LoadOrder.names_remove?]
  · rw [← hfound]
    exact writes_removal_eq_nil_iff
  · rw [show (f.deregister scripts w).1 = f.ending (.deregister scripts) _
      (Disk.remove (f.target scripts) w.disk).1 from hreport]
    generalize (f.plan (.deregister scripts)).writes found (v.order w.host) = writes
    -- A file that was not there to be removed is no failure.
    obtain hremove | hremove := hremove
    · rw [hremove]
      cases writes <;> rfl
    · rw [hremove]
      cases writes <;> rfl

/-! ### Calls one after the other -/

section Sequence

variable {w' w'' : World η} {writes : List FilterChange}

/-- Where there was nothing to change the journal stays. -/
theorem Made.journal_eq (h : Made v writes w w') (hnil : writes = []) :
    v.journal w'.host = v.journal w.host := by
  rw [h.journal, hnil, if_pos rfl, List.append_nil, List.append_nil]

theorem Registered.nodup (h : f.Registered v scripts w w')
    (hunique : ((v.entries w.host).map FilterChange.key).Nodup) :
    ((v.entries w'.host).map FilterChange.key).Nodup := by
  rw [h.entries]
  exact FilterChange.nodup_cons_others hunique (f.wanted scripts)

/-- After a registration there is nothing left to register. -/
theorem Registered.complete (h : f.Registered v scripts w w') :
    f.wanted scripts ∈ v.entries w'.host ∧
      LoadOrder.mentions (v.order w'.host) f.settings.name = true := by
  rw [h.entries]
  exact ⟨Multiset.mem_cons_self _ _, h.mentions⟩

/-- After a removal there is nothing left to remove. -/
theorem Removed.complete (h : f.Removed v w w') :
    (∀ e ∈ v.entries w'.host, Text.equalIgnoringCase e.name f.settings.name = false) ∧
      LoadOrder.mentions (v.order w'.host) f.settings.name = false := by
  refine ⟨fun e he ↦ ?_, LoadOrder.mentions_eq_false_iff.2
    (LoadOrder.occurrences_eq_zero_of_names_eq_others h.names)⟩
  rw [h.entries] at he
  simpa using (Multiset.mem_filter.1 he).2

/-- **A removal behind a registration undoes it:** what it leaves is what there was of other names
before both. -/
theorem Registered.removed (h : f.Registered v scripts w w') (h' : f.Removed v w' w'') :
    f.Removed v w w'' where
  entries := by
    have hothers : FilterChange.others f.settings.name
        (f.wanted scripts ::ₘ FilterChange.others f.settings.name (v.entries w.host)) =
          FilterChange.others f.settings.name (v.entries w.host) :=
      (FilterChange.others_cons (f.wanted scripts) _).trans (FilterChange.others_others _ _)
    rw [h'.entries, h.entries, hothers]
  names := by rw [h'.names, h.others]

end Sequence

/-- **Registering and removing are exact, are done once, and undo each other.** On a calm host, with
each name once among the entries, and on a disk that refuses nothing and lets the filter's file be
copied: a registration leaves the wanted entry beside those of other names, commits exactly if it
has made a change, and reports so exactly if the entry or the name was missing. A second
registration makes no change. A removal behind them leaves what was there of other names, and no
file where the copy was. A second removal makes no change. And in every run, also where calls fail,
a file is touched only behind a store's part that has succeeded and that stays. -/
theorem register_deregister (h : f.store.Faithful v)
    (hname : LoadOrder.IsName f.settings.name.toList) (hw : v.calm w.host)
    (hunique : ((v.entries w.host).map FilterChange.key).Nodup) (hdisk : w.disk.WellFormed)
    (hrefuses : ∀ action, w.disk.refuses action = none)
    (hcopy : (Disk.copy (f.source home) (f.target scripts) w.disk).1 = .ok ()) :
    let first := f.register home scripts w
    let second := f.register home scripts first.2
    let third := f.deregister scripts second.2
    let fourth := f.deregister scripts third.2
    (∃ writes, Made v writes w first.2 ∧ f.Registered v scripts w first.2 ∧
      first.1.status = (if writes = [] then .alreadyConfigured else .configuredOk) ∧
      (writes = [] ↔ f.wanted scripts ∈ v.entries w.host ∧
        LoadOrder.mentions (v.order w.host) f.settings.name = true)) ∧
    (second.1.status = .alreadyConfigured ∧ v.journal second.2.host = v.journal first.2.host) ∧
    (third.1.status = .removedOk ∧ f.Removed v w third.2 ∧
      third.2.disk.pathExists (f.target scripts) = false) ∧
    (fourth.1.status = .alreadyRemoved ∧ v.journal fourth.2.host = v.journal third.2.host) ∧
    ∀ call w, (f.perform call w).1.status = .storeError ∧
        (f.perform call w).2 = (f.store.carryOut (f.plan call) w).2 ∨
      ∃ changed w', f.store.carryOut (f.plan call) w = (.ok changed, w') ∧
        (f.perform call w).2 = { w' with disk := (f.fileWork call w'.disk).2 } := by
  intro first second third fourth
  obtain ⟨hcopy₂, hremove, hgone, hremove'⟩ := hdisk.copy_copy_remove_remove hrefuses hcopy
  obtain ⟨writes, hmade₁, hregistered₁, hnothing₁, hstatus₁, hdisk₁⟩ :=
    register_of_faithful h hname hw hunique hcopy
  obtain ⟨writes₂, hmade₂, hregistered₂, hnothing₂, hstatus₂, hdisk₂⟩ :=
    register_of_faithful h hname hmade₁.calm (hregistered₁.nodup hunique) (hdisk₁ ▸ hcopy₂)
  have hwrites₂ : writes₂ = [] := hnothing₂.2 hregistered₁.complete
  -- What is known of the disk is about its operations alone, so it is carried to the worlds.
  rw [← hdisk₁] at hremove hgone hremove'
  rw [← hdisk₂] at hremove hgone hremove'
  obtain ⟨writes₃, hmade₃, hremoved₃, hnothing₃, hstatus₃, hdisk₃⟩ :=
    deregister_of_faithful h hmade₂.calm (.inl hremove)
  have hwrites₃ : writes₃ ≠ [] := fun hnil ↦ by
    have hmentions := (hnothing₃.1 hnil).2
    rw [hregistered₂.mentions] at hmentions
    cases hmentions
  rw [← hdisk₃] at hgone hremove'
  -- The file is gone by now, which a removal does not take for a failure.
  obtain ⟨writes₄, hmade₄, -, hnothing₄, hstatus₄, -⟩ :=
    deregister_of_faithful h hmade₃.calm (.inr hremove')
  have hwrites₄ : writes₄ = [] := hnothing₄.2 hremoved₃.complete
  have hremoved : f.Removed v w third.2 := hregistered₁.removed (hregistered₂.removed hremoved₃)
  exact ⟨⟨writes, hmade₁, hregistered₁, hstatus₁, hnothing₁⟩,
    ⟨hstatus₂.trans (if_pos hwrites₂), hmade₂.journal_eq hwrites₂⟩,
    ⟨hstatus₃.trans (if_neg hwrites₃), hremoved, hgone⟩,
    ⟨hstatus₄.trans (if_pos hwrites₄), hmade₄.journal_eq hwrites₄⟩,
    files_behind_store f⟩

end FilterSetup

/-- The calls on a server that has neither the entry nor the name yet. -/
theorem Rehearsal.register_deregister_server :
    let first := filterSetup.register "/home" "/scripts" (server "A" [])
    let second := filterSetup.register "/home" "/scripts" first.2
    let third := filterSetup.deregister "/scripts" second.2
    let fourth := filterSetup.deregister "/scripts" third.2
    [first.1.status, second.1.status, third.1.status, fourth.1.status] =
        [.configuredOk, .alreadyConfigured, .removedOk, .alreadyRemoved] ∧
      third.2.disk.pathExists "/scripts/isapi_srun.dll" = false := by
  intro first second third fourth
  obtain ⟨⟨writes, -, -, hfirst, hnothing⟩, ⟨hsecond, -⟩, ⟨hthird, -, hgone⟩, ⟨hfourth, -⟩, -⟩ :=
    FilterSetup.register_deregister (f := filterSetup) faithful_filterStore isName_filterSetup
      (w := server "A" []) rfl Multiset.nodup_zero wellFormed_serverDisk (fun _ ↦ rfl)
      copy_serverDisk
  have hwrites : writes ≠ [] := fun hnil ↦ Multiset.notMem_zero _ (hnothing.1 hnil).1
  have htarget : filterSetup.target "/scripts" = "/scripts/isapi_srun.dll" := by decide +kernel
  rw [htarget] at hgone
  rw [if_neg hwrites] at hfirst
  exact ⟨by rw [hfirst, hsecond, hthird, hfourth], hgone⟩

end ServerSetup
