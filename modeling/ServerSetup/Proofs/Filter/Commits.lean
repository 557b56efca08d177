import Mathlib.Data.List.Induction
import ServerSetup.Proofs.Filter.Calls
import ServerSetup.Proofs.Rehearsal.Filters

/-!
# What a web filter leaves uncommitted

A call commits only what it has changed itself. So changes that an earlier call could not commit
stay uncommitted until a call makes a change of its own, also when the calls between them succeed.

A host keeps a journal of the changes that were made and of the commits. What is behind the last
commit in it is unsaved (`unsaved`). A call that succeeds leaves nothing unsaved exactly if it has
changed something or nothing was unsaved before (`success_commits_iff`). In a run that starts with
nothing unsaved, what is unsaved later comes from a call that has reported an error of the store,
and no call behind that one has reported a change (`unsaved_after`).

The journal is a view of an arbitrary host, and the only thing asked of it is that calls that
succeed are noted in it.
-/

namespace ServerSetup

/-- The changes that are not permanent yet, after one more change. -/
def FilterChange.unsavedAfter : FilterChange → List FilterChange → List FilterChange
  | commit, _ => []
  | change, changes => changes ++ [change]

/-- The changes in a journal that no commit has made permanent. -/
def unsaved (journal : List FilterChange) : List FilterChange :=
  journal.foldl (fun changes change ↦ change.unsavedAfter changes) []

theorem unsaved_append_commit (journal : List FilterChange) :
    unsaved (journal ++ [.commit]) = [] := by
  rw [unsaved, List.foldl_append]
  rfl

namespace FilterSetup

variable {η : Type} {f : FilterSetup η} {journal : η → List FilterChange} {w : World η}

/-- A call without an error of the store has committed all there is, or has changed nothing. A
success tells which of the two it is. -/
theorem unsaved_perform (hjournal : f.store.Journaled journal) {call : FilterCall}
    (hstatus : (f.perform call w).1.status ≠ .storeError) :
    unsaved (journal (f.perform call w).2.host) = [] ∧
        ((f.perform call w).1.status.isSuccess = true →
          (f.perform call w).1.status.isChange = true) ∨
      unsaved (journal (f.perform call w).2.host) = unsaved (journal w.host) ∧
        (f.perform call w).1.status.isChange = false := by
  obtain ⟨entries, order, w', hcarried, hhost, hreport⟩ := carried_of_perform hstatus
  have hafter := hjournal.carried hcarried
  rw [hhost, hafter]
  by_cases hwrites : (f.plan call).writes entries order = []
  · refine .inr ⟨?_, ?_⟩
    · rw [hwrites, FilterPlan.closing_of_writes_eq_nil hwrites, List.append_nil, List.append_nil]
    · obtain hreport | hreport := hreport
      · rw [hreport]
        rfl
      · rw [hreport, hwrites, FilterCall.isChange_success]
        rfl
  · refine .inl ⟨?_, fun hsuccess ↦ ?_⟩
    · rw [FilterPlan.closing_of_writes_ne_nil hwrites, ← List.append_assoc, unsaved_append_commit]
    · obtain hreport | hreport := hreport
      · rw [hreport] at hsuccess
        cases hsuccess
      · rw [hreport, FilterCall.isChange_success]
        simpa using hwrites

/-- After a run that began with everything committed, what is uncommitted comes from a call that
reported an error of the store, and no call behind it has reported a change. -/
theorem unsaved_after (hjournal : f.store.Journaled journal) (hw : unsaved (journal w.host) = [])
    (calls : List FilterCall) : unsaved (journal (f.after calls w).host) = [] ∨
      ∃ earlier later, f.statuses calls w = earlier ++ .storeError :: later ∧
        ∀ status ∈ later, status.isChange = false := by
  induction calls using List.reverseRecOn with
  | nil => exact .inl hw
  | append_singleton calls call ih =>
    rw [after_append_singleton, statuses_append_singleton]
    -- A call with an error of the store is itself the one; any other passes on what it found.
    by_cases hstatus : (f.perform call (f.after calls w)).1.status = .storeError
    · exact .inr ⟨f.statuses calls w, [], by rw [hstatus], nofun⟩
    · obtain ⟨hsaved, -⟩ | ⟨hkept, hchange⟩ := unsaved_perform hjournal hstatus
      · exact .inl hsaved
      · rw [hkept]
        refine ih.imp_right ?_
        rintro ⟨earlier, later, hstatuses, hlater⟩
        refine ⟨earlier, later ++ [(f.perform call (f.after calls w)).1.status], ?_, ?_⟩
        · rw [hstatuses, List.append_assoc, List.cons_append]
        · intro status hmem
          obtain hmem | hmem := List.mem_append.1 hmem
          · exact hlater status hmem
          · rw [List.mem_singleton.1 hmem, hchange]

/-- **When a success leaves nothing uncommitted.** In a run that began with everything committed,
this is so exactly if the call reports a change, or nothing was uncommitted before it. If something
was, it comes from an earlier call that reported an error of the store, and no call since has
reported a change. -/
theorem success_commits_iff (hjournal : f.store.Journaled journal)
    (hw : unsaved (journal w.host) = []) (calls : List FilterCall) (call : FilterCall)
    (hsuccess : (f.perform call (f.after calls w)).1.status.isSuccess = true) :
    (unsaved (journal (f.perform call (f.after calls w)).2.host) = [] ↔
        (f.perform call (f.after calls w)).1.status.isChange = true ∨
          unsaved (journal (f.after calls w).host) = []) ∧
      (unsaved (journal (f.after calls w).host) ≠ [] →
        ∃ earlier later, f.statuses calls w = earlier ++ .storeError :: later ∧
          ∀ status ∈ later, status.isChange = false) := by
  have hstatus : (f.perform call (f.after calls w)).1.status ≠ .storeError := by
    intro hstatus
    rw [hstatus] at hsuccess
    cases hsuccess
  refine ⟨?_, fun hunsaved ↦ (unsaved_after hjournal hw calls).resolve_left hunsaved⟩
  obtain ⟨hsaved, hchange⟩ | ⟨hkept, hchange⟩ := unsaved_perform hjournal hstatus
  · simp [hsaved, hchange hsuccess]
  · simp [hkept, hchange]

end FilterSetup

namespace Rehearsal

/-- A registration on a server that cannot commit is repeated: the second one finds everything in
its place and reports so. -/
theorem registration_again :
    (filterSetup.perform registration
      (filterSetup.after [registration] (server "A" ["commit"]))).1.status = .alreadyConfigured ∧
    (filterSetup.perform registration
      (filterSetup.after [registration] (server "A" ["commit"]))).2.host =
        (filterSetup.after [registration] (server "A" ["commit"])).host := by
  have hcarry : filterSetup.store.carryOut (filterSetup.registration "/scripts")
      (filterSetup.after [registration] (server "A" ["commit"])) =
        (.ok false, filterSetup.after [registration] (server "A" ["commit"])) := rfl
  exact perform_registration hcarry rfl

/-- The second registration succeeds, and the changes of the first one are not committed. -/
theorem success_leaves_uncommitted :
    unsaved (journal (server "A" ["commit"]).host) = [] ∧
      filterSetup.store.Journaled journal ∧
      (filterSetup.perform registration
        (filterSetup.after [registration] (server "A" ["commit"]))).1.status =
          .alreadyConfigured ∧
      unsaved (journal (filterSetup.perform registration
        (filterSetup.after [registration] (server "A" ["commit"]))).2.host) =
          [.put (filterSetup.wanted "/scripts"), .putLoadOrder "Resin,A"] := by
  refine ⟨rfl, journaled_filterStore, registration_again.1, ?_⟩
  rw [registration_again.2]
  rfl

/-- What is left uncommitted comes from the first registration, which could not commit. -/
theorem uncommitted_since_storeError :
    unsaved (journal (filterSetup.perform registration
        (filterSetup.after [registration] (server "A" ["commit"]))).2.host) ≠ [] ∧
      ∃ earlier later, filterSetup.statuses [registration] (server "A" ["commit"]) =
        earlier ++ .storeError :: later ∧ ∀ status ∈ later, status.isChange = false := by
  have hsuccess : (filterSetup.perform registration
      (filterSetup.after [registration] (server "A" ["commit"]))).1.status.isSuccess = true := by
    rw [registration_again.1]
    rfl
  have hunsaved : unsaved (journal (filterSetup.after [registration]
      (server "A" ["commit"])).host) ≠ [] := nofun
  obtain ⟨hiff, hcause⟩ := FilterSetup.success_commits_iff (f := filterSetup)
    journaled_filterStore (w := server "A" ["commit"]) rfl [registration] registration hsuccess
  refine ⟨fun hsaved ↦ ?_, hcause hunsaved⟩
  obtain hchange | hsaved := hiff.1 hsaved
  · rw [registration_again.1] at hchange
    cases hchange
  · exact hunsaved hsaved

end Rehearsal

end ServerSetup
